import DocQuery.Proofs.Compilation.Leaf

/-
  Other values in the same places.
  A value can stand for another one if it has the same term for every field that has one for the
  other. With such values in the places of those it carries, a predicate that compiles does so with
  the same clauses (`compile_mapValues`).
-/

namespace DocQuery

/-! ## Values -/

namespace Value

/-- A value that can stand for another one: it has the same term for every field that has one for
the other. Truth values and texts have a meaning beside their terms, so they stand for themselves
only. -/
structure StandsFor (w v : Value) : Prop where
  isNull : w.isNull = v.isNull
  toTerm : ∀ kind term, v.toTerm kind = .ok term → w.toTerm kind = .ok term
  bool : ∀ b, w = .bool b ↔ v = .bool b
  text : ∀ s, v = .text s → w = .text s

end Value

/-! ## Predicates -/

namespace Predicate

/-- The values a predicate carries. -/
def values : Predicate → List Value
  | comparison _ _ value => [value]
  | and left right => left.values ++ right.values
  | or left right => left.values ++ right.values
  | not operand => operand.values
  | stringOp _ _ _ => []
  | membership _ candidates => candidates
  | flag _ => []
  | constant value => [value]
  | boolComparison operand _ _ => operand.values
  | call _ _ args => args

/-- A predicate with other values in the places of those it carries. -/
def mapValues (f : Value → Value) : Predicate → Predicate
  | comparison property op value => comparison property op (f value)
  | and left right => and (left.mapValues f) (right.mapValues f)
  | or left right => or (left.mapValues f) (right.mapValues f)
  | not operand => not (operand.mapValues f)
  | stringOp method property pattern => stringOp method property pattern
  | membership property candidates => membership property (candidates.map f)
  | flag property => flag property
  | constant value => constant (f value)
  | boolComparison operand op value => boolComparison (operand.mapValues f) op value
  | call method property args => call method property (args.map f)

/-- Whether the values that a function puts in the places of others stand for these. -/
def IsKept (f : Value → Value) (p : Predicate) : Prop :=
  ∀ v ∈ p.values, (f v).StandsFor v

theorem isKept_and {f : Value → Value} {left right : Predicate} :
    (and left right).IsKept f ↔ left.IsKept f ∧ right.IsKept f :=
  List.forall_mem_append

theorem isKept_or {f : Value → Value} {left right : Predicate} :
    (or left right).IsKept f ↔ left.IsKept f ∧ right.IsKept f :=
  List.forall_mem_append

end Predicate

variable {r : Resolver} {f : Value → Value}

namespace Compilation

open Predicate

/-! ## Leaves -/

theorem coerce_standsFor {w v : Value} (hv : w.StandsFor v) {property : String} {kind : FieldKind}
    {term : Json} (h : coerce property kind v = .ok term) : coerce property kind w = .ok term := by
  unfold coerce at h ⊢
  split at h
  · next t ht =>
    rw [hv.toTerm kind t ht]
    exact h
  · cases h

/-- A comparison that has no clause shows its value in the error only. -/
theorem comparisonClause_standsFor {w v : Value} (hv : w.StandsFor v) {property : String}
    {op : Comparison} {c : Clause} (h : comparisonClause r property op v = .ok c) :
    comparisonClause r property op w = .ok c := by
  unfold comparisonClause at h ⊢
  obtain ⟨field, hfield, h⟩ := bind_eq_ok.1 h
  rw [hfield, ok_bind, hv.isNull]
  split at h
  case isTrue hnull =>
    rw [if_pos hnull]
    exact h
  case isFalse hnull =>
    obtain ⟨term, hterm, h⟩ := bind_eq_ok.1 h
    rw [if_neg hnull, coerce_standsFor hv hterm, ok_bind]
    split at h
    · exact h
    · cases h

theorem distinctTerms_map {property : String} {kind : FieldKind} {candidates : List Value}
    (hf : ∀ v ∈ candidates, (f v).StandsFor v) {seen terms : List Json}
    (h : distinctTerms property kind seen candidates = .ok terms) :
    distinctTerms property kind seen (candidates.map f) = .ok terms := by
  induction candidates generalizing seen with
  | nil => exact h
  | cons v rest ih =>
    obtain ⟨hv, hrest⟩ := List.forall_mem_cons.1 hf
    rw [List.map_cons, distinctTerms, hv.isNull]
    rw [distinctTerms] at h
    split at h
    case isTrue hnull =>
      rw [if_pos hnull]
      exact ih hrest h
    case isFalse hnull =>
      obtain ⟨term, hterm, h⟩ := bind_eq_ok.1 h
      rw [if_neg hnull, coerce_standsFor hv hterm, ok_bind]
      exact ih hrest h

theorem membershipClause_map {property : String} {candidates : List Value}
    (hf : ∀ v ∈ candidates, (f v).StandsFor v) {c : Clause}
    (h : membershipClause r property candidates = .ok c) :
    membershipClause r property (candidates.map f) = .ok c := by
  have hnull : (candidates.map f).any Value.isNull = candidates.any Value.isNull := by
    rw [List.any_map, Bool.eq_iff_iff, List.any_eq_true, List.any_eq_true]
    exact exists_congr fun v => and_congr_right fun hv => by
      rw [Function.comp_apply, (hf v hv).isNull]
  unfold membershipClause at h ⊢
  obtain ⟨field, hfield, h⟩ := bind_eq_ok.1 h
  obtain ⟨exactName, hexact, h⟩ := bind_eq_ok.1 h
  obtain ⟨terms, hterms, h⟩ := bind_eq_ok.1 h
  rw [hfield, ok_bind, hexact, ok_bind, distinctTerms_map hf hterms, ok_bind, hnull]
  exact h

theorem leafClause_mapValues {p : Predicate} (hp : p.IsKept f) {c : Clause}
    (h : leafClause r p = .ok c) : leafClause r (p.mapValues f) = .ok c := by
  cases p with
  | comparison property op value =>
    exact comparisonClause_standsFor (hp value List.mem_cons_self) h
  | membership property candidates => exact membershipClause_map hp h
  | flag property => exact h
  | stringOp method property pattern => exact h
  | _ => cases h

/-! ## Connectives -/

/-- Only comparisons with truth values are turned round. -/
theorem flipped?_comparison {property : String} {op : Comparison} {value : Value}
    (hvalue : ∀ b, value ≠ .bool b) : flipped? (.comparison property op value) = none := by
  unfold flipped?
  split <;> simp_all

theorem flipped?_mapValues {x : Predicate} (hx : x.IsKept f) :
    flipped? (x.mapValues f) = flipped? x := by
  cases x with
  | comparison property op value =>
    have hvalue := (hx value List.mem_cons_self).bool
    rw [mapValues]
    by_cases hbool : ∃ b, value = .bool b
    · obtain ⟨b, rfl⟩ := hbool
      rw [(hvalue b).2 rfl]
    · rw [not_exists] at hbool
      rw [flipped?_comparison hbool, flipped?_comparison fun b h => hbool b ((hvalue b).1 h)]
  | _ => rfl

/-- The clauses of a node do not change. -/
theorem conj_disj_mapValues (p : Predicate) :
    (∀ cs, conj r p = .ok cs → p.IsKept f → conj r (p.mapValues f) = .ok cs) ∧
      (∀ cs, disj r p = .ok cs → p.IsKept f → disj r (p.mapValues f) = .ok cs) := by
  refine conj_disj_induction
    (C := fun p cs => p.IsKept f → conj r (p.mapValues f) = .ok cs)
    (D := fun p cs => p.IsKept f → disj r (p.mapValues f) = .ok cs)
    ?leaf ?and ?or ?flipped ?not ?branches ?branch p
  case leaf => exact fun p c h hp => conj_leaf (leafClause_mapValues hp h)
  case and =>
    intro left right cs ds hl hr hp
    obtain ⟨hpl, hpr⟩ := isKept_and.1 hp
    rw [mapValues, conj, hl hpl, hr hpr]
    rfl
  case or =>
    intro left right cs ds hl hr hp
    obtain ⟨hpl, hpr⟩ := isKept_or.1 hp
    rw [mapValues, conj, hl hpl, hr hpr]
    rfl
  case flipped =>
    intro x property op value c hx hc hp
    have hflipped : flipped? (x.mapValues f) = some (property, op, value) :=
      (flipped?_mapValues (x := x) hp).trans hx
    rw [mapValues, conj_not_flipped hflipped, hc]
    rfl
  case not =>
    intro x cs hx hcs hp
    have hflipped : flipped? (x.mapValues f) = none := (flipped?_mapValues (x := x) hp).trans hx
    rw [mapValues, conj_not_group hflipped, hcs hp]
    rfl
  case branches =>
    intro left right cs ds hl hr hp
    obtain ⟨hpl, hpr⟩ := isKept_or.1 hp
    rw [mapValues, disj, hl hpl, hr hpr]
    rfl
  case branch =>
    intro p cs hp hcs hkept
    have hne : ∀ left right, p.mapValues f ≠ .or left right := by
      cases p with
      | or left right => exact absurd rfl (hp left right)
      | _ => simp [mapValues]
    rw [disj_of_ne_or hne, hcs hkept]
    rfl

end Compilation

/-! ## Normal forms -/

namespace Folded

/-- What is left of a predicate, with other values in the places of those it carries. -/
def mapValues (f : Value → Value) : Folded → Folded
  | always => always
  | never => never
  | condition p => condition (p.mapValues f)

theorem mapValues_negate (g : Folded) : (g.mapValues f).negate = g.negate.mapValues f := by
  cases g with
  | condition p => cases p <;> rfl
  | _ => rfl

theorem mapValues_both (g g' : Folded) :
    (g.mapValues f).both (g'.mapValues f) = (g.both g').mapValues f := by
  cases g <;> cases g' <;> rfl

theorem mapValues_either (g g' : Folded) :
    (g.mapValues f).either (g'.mapValues f) = (g.either g').mapValues f := by
  cases g <;> cases g' <;> rfl

/-- Whether the values that a function puts in the places of those of a predicate stand for them. -/
def IsKept (f : Value → Value) : Folded → Prop
  | always => True
  | never => True
  | condition p => p.IsKept f

theorem IsKept.negate {g : Folded} (h : g.IsKept f) : g.negate.IsKept f := by
  cases g with
  | condition p => cases p <;> exact h
  | _ => exact h

theorem IsKept.both {g g' : Folded} (h : g.IsKept f) (h' : g'.IsKept f) :
    (g.both g').IsKept f := by
  cases g with
  | always => cases g' <;> exact h'
  | never => trivial
  | condition p =>
    cases g' with
    | always => exact h
    | never => trivial
    | condition q => exact Predicate.isKept_and.2 ⟨h, h'⟩

theorem IsKept.either {g g' : Folded} (h : g.IsKept f) (h' : g'.IsKept f) :
    (g.either g').IsKept f := by
  cases g with
  | always => trivial
  | never => cases g' <;> exact h'
  | condition p =>
    cases g' with
    | always => trivial
    | never => exact h
    | condition q => exact Predicate.isKept_or.2 ⟨h, h'⟩

end Folded

namespace Predicate

theorem ofCall?_map {method property : String} {args : List Value} {q : Predicate}
    (hf : ∀ v ∈ args, (f v).StandsFor v) (h : ofCall? method property args = some q) :
    ofCall? method property (args.map f) = some q := by
  unfold ofCall? at h ⊢
  split at h
  · next op pattern hop =>
    rw [List.map_singleton, (hf _ List.mem_cons_self).text pattern rfl, hop]
    exact h
  · cases h

/-- The normal form has the other values in the same places. -/
theorem normalize_mapValues {p : Predicate} (hp : p.IsKept f) {g : Folded}
    (h : p.normalize = .ok g) :
    (p.mapValues f).normalize = .ok (g.mapValues f) ∧ g.IsKept f := by
  induction p generalizing g with
  | and left right ihl ihr =>
    obtain ⟨hpl, hpr⟩ := isKept_and.1 hp
    obtain ⟨gl, gr, hl, hr, rfl⟩ := normalize_and h
    obtain ⟨hnl, hkl⟩ := ihl hpl hl
    obtain ⟨hnr, hkr⟩ := ihr hpr hr
    refine ⟨?_, hkl.both hkr⟩
    rw [mapValues, normalize, hnl, hnr, ← Folded.mapValues_both]
    rfl
  | or left right ihl ihr =>
    obtain ⟨hpl, hpr⟩ := isKept_or.1 hp
    obtain ⟨gl, gr, hl, hr, rfl⟩ := normalize_or h
    obtain ⟨hnl, hkl⟩ := ihl hpl hl
    obtain ⟨hnr, hkr⟩ := ihr hpr hr
    refine ⟨?_, hkl.either hkr⟩
    rw [mapValues, normalize, hnl, hnr, ← Folded.mapValues_either]
    rfl
  | not operand ih =>
    obtain ⟨g, hg, rfl⟩ := normalize_not h
    obtain ⟨hn, hk⟩ := ih hp hg
    refine ⟨?_, hk.negate⟩
    rw [mapValues, normalize, hn, ← Folded.mapValues_negate]
    rfl
  | constant value =>
    obtain ⟨b, rfl, rfl⟩ := normalize_constant h
    rw [mapValues, ((hp _ List.mem_cons_self).bool b).2 rfl, h]
    cases b <;> exact ⟨rfl, trivial⟩
  | boolComparison operand op value ih =>
    obtain ⟨g, keep, hkeep, hg, rfl⟩ := normalize_boolComparison h
    obtain ⟨hn, hk⟩ := ih hp hg
    simp only [mapValues, normalize, hkeep, hn, ok_bind]
    cases keep with
    | true => exact ⟨rfl, hk⟩
    | false => exact ⟨congrArg Except.ok g.mapValues_negate, hk.negate⟩
  | call method property args =>
    obtain ⟨q, hq, rfl⟩ := normalize_call h
    have hcall : ofCall? method property (args.map f) = some q := ofCall?_map hp hq
    rw [mapValues, normalize, hcall]
    obtain ⟨op, pattern, rfl⟩ := ofCall?_eq_some hq
    exact ⟨rfl, List.forall_mem_nil _⟩
  | _ =>
    cases h
    exact ⟨rfl, hp⟩

/-- A predicate that compiles keeps its clauses when other values stand for those it carries. -/
theorem compile_mapValues {p : Predicate} (hp : p.IsKept f) {cs : List Clause}
    (h : p.compile r = .ok cs) : (p.mapValues f).compile r = .ok cs := by
  rw [compile_eq] at h ⊢
  obtain ⟨g, hg, hclauses⟩ := bind_eq_ok.1 h
  obtain ⟨hn, hk⟩ := normalize_mapValues hp hg
  rw [hn, ok_bind]
  cases g with
  | always => exact hclauses
  | never => exact hclauses
  | condition q =>
    obtain ⟨ds, hds, hcs⟩ := bind_eq_ok.1 hclauses
    rw [Folded.mapValues, Folded.clauses, (Compilation.conj_disj_mapValues q).1 ds hds hk]
    exact hcs

end Predicate

end DocQuery
