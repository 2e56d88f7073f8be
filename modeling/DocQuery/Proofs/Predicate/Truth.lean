import DocQuery.Proofs.Predicate.Normal

/-
  The truth value of a predicate.
  `Predicate.Denotes` gives a predicate its classical truth values from those of its leaves, where a
  leaf may have one or both. Normalising keeps them (`denotes_normalize`), and a predicate that has
  a normal form has a truth value (`exists_denotes`).
-/

namespace DocQuery

namespace Predicate

/-- The truth values of a predicate under some truth values of its leaves. A leaf that has both may
have a different one at every place. -/
inductive Denotes (leaves : Predicate → Bool → Prop) : Predicate → Bool → Prop where
  | leaf {p : Predicate} {b : Bool} : p.isLeaf = true → leaves p b → Denotes leaves p b
  | and {left right : Predicate} {a b : Bool} :
    Denotes leaves left a → Denotes leaves right b → Denotes leaves (.and left right) (a && b)
  | or {left right : Predicate} {a b : Bool} :
    Denotes leaves left a → Denotes leaves right b → Denotes leaves (.or left right) (a || b)
  | not {operand : Predicate} {a : Bool} :
    Denotes leaves operand a → Denotes leaves (.not operand) (!a)
  | constant (b : Bool) : Denotes leaves (.constant (.bool b)) b
  | isEqual {operand : Predicate} {a : Bool} (b : Bool) :
    Denotes leaves operand a → Denotes leaves (.boolComparison operand .eq b) (a == b)
  | isUnequal {operand : Predicate} {a : Bool} (b : Bool) :
    Denotes leaves operand a → Denotes leaves (.boolComparison operand .ne b) (a != b)

variable {leaves : Predicate → Bool → Prop}

theorem denotes_leaf_iff {p : Predicate} (hp : p.isLeaf = true) {b : Bool} :
    p.Denotes leaves b ↔ leaves p b := by
  constructor
  · intro h
    cases h with
    | leaf _ h => exact h
    | _ => cases hp
  · exact Denotes.leaf hp

theorem denotes_not_iff {operand : Predicate} {b : Bool} :
    (not operand).Denotes leaves b ↔ operand.Denotes leaves !b := by
  constructor
  · intro h
    cases h with
    | leaf hp _ => cases hp
    | not h => rwa [Bool.not_not]
  · intro h
    rw [← Bool.not_not b]
    exact Denotes.not h

theorem denotes_and_iff {left right : Predicate} {b : Bool} :
    (and left right).Denotes leaves b ↔
      ∃ x y, left.Denotes leaves x ∧ right.Denotes leaves y ∧ b = (x && y) := by
  constructor
  · intro h
    cases h with
    | leaf hp _ => cases hp
    | and hl hr => exact ⟨_, _, hl, hr, rfl⟩
  · rintro ⟨x, y, hl, hr, rfl⟩
    exact Denotes.and hl hr

theorem denotes_or_iff {left right : Predicate} {b : Bool} :
    (or left right).Denotes leaves b ↔
      ∃ x y, left.Denotes leaves x ∧ right.Denotes leaves y ∧ b = (x || y) := by
  constructor
  · intro h
    cases h with
    | leaf hp _ => cases hp
    | or hl hr => exact ⟨_, _, hl, hr, rfl⟩
  · rintro ⟨x, y, hl, hr, rfl⟩
    exact Denotes.or hl hr

end Predicate

namespace Folded

/-- The truth values of a folded predicate. -/
def Denotes (leaves : Predicate → Bool → Prop) : Folded → Bool → Prop
  | always, b => b = true
  | never, b => b = false
  | condition p, b => p.Denotes leaves b

variable {leaves : Predicate → Bool → Prop}

theorem denotes_negate {f : Folded} {b : Bool} (h : f.Denotes leaves b) :
    f.negate.Denotes leaves !b := by
  cases f with
  | always => cases h; rfl
  | never => cases h; rfl
  | condition p =>
    cases p with
    | not operand => exact Predicate.denotes_not_iff.1 h
    | _ => exact Predicate.Denotes.not h

theorem denotes_both {f g : Folded} {a b : Bool} (hf : f.Denotes leaves a)
    (hg : g.Denotes leaves b) : (f.both g).Denotes leaves (a && b) := by
  cases f with
  | always => cases hf; cases g <;> simpa [both] using hg
  | never => cases hf; rfl
  | condition p =>
    cases g with
    | always => cases hg; simpa [both] using hf
    | never => cases hg; simp [both, Denotes]
    | condition q => exact Predicate.Denotes.and hf hg

theorem denotes_either {f g : Folded} {a b : Bool} (hf : f.Denotes leaves a)
    (hg : g.Denotes leaves b) : (f.either g).Denotes leaves (a || b) := by
  cases f with
  | always => cases hf; rfl
  | never => cases hf; cases g <;> simpa [either] using hg
  | condition p =>
    cases g with
    | always => cases hg; simp [either, Denotes]
    | never => cases hg; simpa [either] using hf
    | condition q => exact Predicate.Denotes.or hf hg

end Folded

namespace Predicate

variable {leaves : Predicate → Bool → Prop}

/-! ## Normalising -/

/-- The truth value of a comparison with a truth value. -/
theorem denotes_boolComparison {operand : Predicate} {op : Comparison} {value keep : Bool}
    (hkeep : keeps? op value = some keep) {b : Bool} :
    (boolComparison operand op value).Denotes leaves b ↔
      operand.Denotes leaves (if keep then b else !b) := by
  constructor
  · intro h
    cases h with
    | leaf hp _ => cases hp
    | isEqual _ h => cases value <;> cases hkeep <;> simpa using h
    | isUnequal _ h => cases value <;> cases hkeep <;> simpa using h
  · intro h
    cases op <;> cases value <;> cases hkeep
    · simpa using Denotes.isEqual false h
    · simpa using Denotes.isEqual true h
    · simpa using Denotes.isUnequal false h
    · simpa using Denotes.isUnequal true h

/-- The normal form has every truth value of the predicate, if the predicate a call means has every
truth value of the call. -/
theorem denotes_normalize
    (hcall : ∀ method property args q b, ofCall? method property args = some q →
      leaves (.call method property args) b → leaves q b)
    {p : Predicate} {f : Folded} {b : Bool} (hf : p.normalize = .ok f)
    (hp : p.Denotes leaves b) : f.Denotes leaves b := by
  induction p generalizing f b with
  | and left right ihl ihr =>
    obtain ⟨g, g', hg, hg', rfl⟩ := normalize_and hf
    obtain ⟨x, y, hx, hy, rfl⟩ := denotes_and_iff.1 hp
    exact Folded.denotes_both (ihl hg hx) (ihr hg' hy)
  | or left right ihl ihr =>
    obtain ⟨g, g', hg, hg', rfl⟩ := normalize_or hf
    obtain ⟨x, y, hx, hy, rfl⟩ := denotes_or_iff.1 hp
    exact Folded.denotes_either (ihl hg hx) (ihr hg' hy)
  | not operand ih =>
    obtain ⟨g, hg, rfl⟩ := normalize_not hf
    have h := Folded.denotes_negate (ih hg (denotes_not_iff.1 hp))
    rwa [Bool.not_not] at h
  | constant value =>
    obtain ⟨c, rfl, rfl⟩ := normalize_constant hf
    cases hp with
    | leaf hp _ => cases hp
    | constant _ => cases b <;> rfl
  | boolComparison operand op value ih =>
    obtain ⟨g, keep, hkeep, hg, rfl⟩ := normalize_boolComparison hf
    have h := ih hg ((denotes_boolComparison hkeep).1 hp)
    cases keep with
    | true => exact h
    | false => simpa using Folded.denotes_negate h
  | call method property args =>
    obtain ⟨q, hq, rfl⟩ := normalize_call hf
    obtain ⟨op, pattern, rfl⟩ := ofCall?_eq_some hq
    exact Denotes.leaf rfl (hcall _ _ _ _ _ hq ((denotes_leaf_iff rfl).1 hp))
  | _ =>
    cases hf
    exact hp

/-- A predicate with a normal form has a truth value if its leaves have. -/
theorem exists_denotes (hleaf : ∀ p : Predicate, p.isLeaf = true → ∃ b, leaves p b) {p : Predicate}
    {f : Folded} (hf : p.normalize = .ok f) : ∃ b, p.Denotes leaves b := by
  have ofLeaf : ∀ {p : Predicate}, p.isLeaf = true → ∃ b, p.Denotes leaves b := by
    intro p hp
    obtain ⟨b, hb⟩ := hleaf p hp
    exact ⟨b, Denotes.leaf hp hb⟩
  induction p generalizing f with
  | and left right ihl ihr =>
    obtain ⟨g, g', hg, hg', -⟩ := normalize_and hf
    obtain ⟨x, hx⟩ := ihl hg
    obtain ⟨y, hy⟩ := ihr hg'
    exact ⟨_, Denotes.and hx hy⟩
  | or left right ihl ihr =>
    obtain ⟨g, g', hg, hg', -⟩ := normalize_or hf
    obtain ⟨x, hx⟩ := ihl hg
    obtain ⟨y, hy⟩ := ihr hg'
    exact ⟨_, Denotes.or hx hy⟩
  | not operand ih =>
    obtain ⟨g, hg, -⟩ := normalize_not hf
    obtain ⟨x, hx⟩ := ih hg
    exact ⟨_, Denotes.not hx⟩
  | constant value =>
    obtain ⟨c, rfl, -⟩ := normalize_constant hf
    exact ⟨c, Denotes.constant c⟩
  | boolComparison operand op value ih =>
    obtain ⟨g, keep, hkeep, hg, -⟩ := normalize_boolComparison hf
    obtain ⟨x, hx⟩ := ih hg
    refine ⟨if keep then x else !x, (denotes_boolComparison hkeep).2 ?_⟩
    cases keep <;> simpa using hx
  | _ => exact ofLeaf rfl

end Predicate

end DocQuery
