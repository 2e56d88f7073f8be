import DocQuery.Predicate.Normal
import DocQuery.Proofs.Outcome

/-
  Normalising, form by form.
  Every lemma `normalize_…` says what the normal form of one form of predicates comes from. The
  normal form mentions no property that the predicate does not (`properties_normalize`), and it is
  made of leaves, conjunctions, disjunctions and single negations only (`isNormal_normalize`).
-/

namespace DocQuery

namespace Predicate

/-- Whether a predicate looks at a document itself and not through others. -/
def isLeaf : Predicate → Bool
  | comparison _ _ _ => true
  | stringOp _ _ _ => true
  | membership _ _ => true
  | flag _ => true
  | call _ _ _ => true
  | _ => false

/-- The properties a predicate mentions. -/
def properties : Predicate → List String
  | comparison property _ _ => [property]
  | and left right => left.properties ++ right.properties
  | or left right => left.properties ++ right.properties
  | not operand => operand.properties
  | stringOp _ property _ => [property]
  | membership property _ => [property]
  | flag property => [property]
  | constant _ => []
  | boolComparison operand _ _ => operand.properties
  | call _ property _ => [property]

end Predicate

attribute [local simp] Predicate.properties Predicate.normalize Folded.both Folded.either

namespace Folded

/-- The properties a folded predicate mentions. -/
def properties : Folded → List String
  | always => []
  | never => []
  | condition p => p.properties

theorem properties_negate (f : Folded) : f.negate.properties = f.properties := by
  cases f with
  | condition p => cases p <;> rfl
  | _ => rfl

theorem properties_both_subset (f g : Folded) :
    (f.both g).properties ⊆ f.properties ++ g.properties := by
  cases f <;> cases g <;> simp [properties]

theorem properties_either_subset (f g : Folded) :
    (f.either g).properties ⊆ f.properties ++ g.properties := by
  cases f <;> cases g <;> simp [properties]

end Folded

namespace Predicate

/-! ## Forms -/

theorem ofCall?_eq_some {method property : String} {args : List Value} {q : Predicate}
    (h : ofCall? method property args = some q) :
    ∃ op pattern, q = .stringOp op property pattern := by
  unfold ofCall? at h
  split at h
  · cases h
    exact ⟨_, _, rfl⟩
  · cases h

theorem normalize_constant {value : Value} {f : Folded}
    (h : (constant value).normalize = .ok f) :
    ∃ b, value = .bool b ∧ f = if b then .always else .never := by
  cases value with
  | bool b =>
    refine ⟨b, rfl, ?_⟩
    cases b <;> simpa using h.symm
  | _ => simp at h

theorem normalize_call {method property : String} {args : List Value} {f : Folded}
    (h : (call method property args).normalize = .ok f) :
    ∃ q, ofCall? method property args = some q ∧ f = .condition q := by
  simp only [normalize] at h
  split at h
  · cases h
  · next q hq =>
    cases h
    exact ⟨q, hq, rfl⟩

/-- A comparison with a truth value folds to its operand or to the opposite. -/
theorem normalize_boolComparison {operand : Predicate} {op : Comparison} {value : Bool} {f : Folded}
    (h : (boolComparison operand op value).normalize = .ok f) :
    ∃ g keep, keeps? op value = some keep ∧ operand.normalize = .ok g ∧
      f = if keep then g else g.negate := by
  simp only [normalize] at h
  split at h
  · cases h
  · next keep hkeep =>
    obtain ⟨g, hg, h⟩ := bind_eq_ok.1 h
    exact ⟨g, keep, hkeep, hg, (pure_eq_ok.1 h).symm⟩

theorem normalize_not {operand : Predicate} {f : Folded}
    (h : (not operand).normalize = .ok f) : ∃ g, operand.normalize = .ok g ∧ f = g.negate := by
  simp only [normalize, bind_eq_ok, pure_eq_ok] at h
  obtain ⟨g, hg, rfl⟩ := h
  exact ⟨g, hg, rfl⟩

theorem normalize_and {left right : Predicate} {f : Folded}
    (h : (and left right).normalize = .ok f) :
    ∃ g g', left.normalize = .ok g ∧ right.normalize = .ok g' ∧ f = g.both g' := by
  simp only [normalize, bind_eq_ok, pure_eq_ok] at h
  obtain ⟨g, hg, g', hg', rfl⟩ := h
  exact ⟨g, g', hg, hg', rfl⟩

theorem normalize_or {left right : Predicate} {f : Folded}
    (h : (or left right).normalize = .ok f) :
    ∃ g g', left.normalize = .ok g ∧ right.normalize = .ok g' ∧ f = g.either g' := by
  simp only [normalize, bind_eq_ok, pure_eq_ok] at h
  obtain ⟨g, hg, g', hg', rfl⟩ := h
  exact ⟨g, g', hg, hg', rfl⟩

/-! ## Properties -/

theorem properties_normalize {p : Predicate} {f : Folded} (hf : p.normalize = .ok f) :
    f.properties ⊆ p.properties := by
  induction p generalizing f with
  | and left right ihl ihr =>
    obtain ⟨g, g', hg, hg', rfl⟩ := normalize_and hf
    refine List.Subset.trans (Folded.properties_both_subset g g') ?_
    exact List.append_subset.2 ⟨List.subset_append_of_subset_left _ (ihl hg),
      List.subset_append_of_subset_right _ (ihr hg')⟩
  | or left right ihl ihr =>
    obtain ⟨g, g', hg, hg', rfl⟩ := normalize_or hf
    refine List.Subset.trans (Folded.properties_either_subset g g') ?_
    exact List.append_subset.2 ⟨List.subset_append_of_subset_left _ (ihl hg),
      List.subset_append_of_subset_right _ (ihr hg')⟩
  | not operand ih =>
    obtain ⟨g, hg, rfl⟩ := normalize_not hf
    rw [Folded.properties_negate]
    exact ih hg
  | constant value =>
    obtain ⟨c, -, rfl⟩ := normalize_constant hf
    cases c <;> exact List.nil_subset _
  | boolComparison operand op value ih =>
    obtain ⟨g, keep, -, hg, rfl⟩ := normalize_boolComparison hf
    have h := ih hg
    cases keep with
    | true => exact h
    | false => exact (Folded.properties_negate g).symm ▸ h
  | call method property args =>
    obtain ⟨q, hq, rfl⟩ := normalize_call hf
    obtain ⟨op, pattern, rfl⟩ := ofCall?_eq_some hq
    exact List.Subset.refl _
  | _ =>
    cases hf
    exact List.Subset.refl _

/-! ## Normal forms -/

/-- Whether a predicate is a negation. -/
def isNegation : Predicate → Bool
  | not _ => true
  | _ => false

/-- Whether a predicate is made of leaves, conjunctions, disjunctions and single negations. -/
def isNormal : Predicate → Bool
  | and left right => left.isNormal && right.isNormal
  | or left right => left.isNormal && right.isNormal
  | not operand => operand.isNormal && !operand.isNegation
  | constant _ => false
  | boolComparison _ _ _ => false
  | call _ _ _ => false
  | _ => true

end Predicate

namespace Folded

/-- Whether what is left of a predicate is in normal form. -/
def isNormal : Folded → Bool
  | always => true
  | never => true
  | condition p => p.isNormal

attribute [local simp] isNormal Predicate.isNormal

/-- Negating a condition takes a negation off or puts one on. -/
theorem negate_condition (p : Predicate) :
    (∃ x, p = .not x ∧ (condition p).negate = condition x) ∨
      p.isNegation = false ∧ (condition p).negate = condition (.not p) := by
  cases p with
  | not x => exact Or.inl ⟨x, rfl, rfl⟩
  | _ => exact Or.inr ⟨rfl, rfl⟩

theorem isNormal_negate {f : Folded} (h : f.isNormal = true) : f.negate.isNormal = true := by
  cases f with
  | always => rfl
  | never => rfl
  | condition p =>
    rcases negate_condition p with ⟨x, rfl, hnegate⟩ | ⟨hp, hnegate⟩
    · rw [hnegate]
      exact (Bool.and_eq_true_iff.1 h).1
    · rw [hnegate]
      simpa [hp] using h

/-- A normal form is no double negation, so the negation of its negation is the form itself. -/
theorem negate_negate {f : Folded} (h : f.isNormal = true) : f.negate.negate = f := by
  cases f with
  | always => rfl
  | never => rfl
  | condition p =>
    rcases negate_condition p with ⟨x, rfl, hnegate⟩ | ⟨-, hnegate⟩
    · have hx : x.isNegation = false := by
        simpa using (Bool.and_eq_true_iff.1 h).2
      rcases negate_condition x with ⟨y, rfl, -⟩ | ⟨-, hback⟩
      · cases hx
      · rw [hnegate, hback]
    · rw [hnegate, negate]

theorem isNormal_both {f g : Folded} (hf : f.isNormal = true) (hg : g.isNormal = true) :
    (f.both g).isNormal = true := by
  cases f <;> cases g <;> simp_all

theorem isNormal_either {f g : Folded} (hf : f.isNormal = true) (hg : g.isNormal = true) :
    (f.either g).isNormal = true := by
  cases f <;> cases g <;> simp_all

end Folded

namespace Predicate

theorem isNormal_normalize {p : Predicate} {f : Folded} (hf : p.normalize = .ok f) :
    f.isNormal = true := by
  induction p generalizing f with
  | and left right ihl ihr =>
    obtain ⟨g, g', hg, hg', rfl⟩ := normalize_and hf
    exact Folded.isNormal_both (ihl hg) (ihr hg')
  | or left right ihl ihr =>
    obtain ⟨g, g', hg, hg', rfl⟩ := normalize_or hf
    exact Folded.isNormal_either (ihl hg) (ihr hg')
  | not operand ih =>
    obtain ⟨g, hg, rfl⟩ := normalize_not hf
    exact Folded.isNormal_negate (ih hg)
  | constant value =>
    obtain ⟨c, -, rfl⟩ := normalize_constant hf
    cases c <;> rfl
  | boolComparison operand op value ih =>
    obtain ⟨g, keep, -, hg, rfl⟩ := normalize_boolComparison hf
    cases keep with
    | true => exact ih hg
    | false => exact Folded.isNormal_negate (ih hg)
  | call method property args =>
    obtain ⟨q, hq, rfl⟩ := normalize_call hf
    obtain ⟨op, pattern, rfl⟩ := ofCall?_eq_some hq
    rfl
  | _ =>
    cases hf
    rfl

/-- The leaves of a predicate in normal form, from left to right. -/
def leaves : Predicate → List Predicate
  | and left right => left.leaves ++ right.leaves
  | or left right => left.leaves ++ right.leaves
  | not operand => operand.leaves
  | p => [p]

theorem isNormal_of_mem_leaves {p q : Predicate} (hp : p.isNormal = true) (hq : q ∈ p.leaves) :
    q.isNormal = true ∧ q.isLeaf = true := by
  induction p with
  | and left right ihl ihr =>
    obtain ⟨hl, hr⟩ := Bool.and_eq_true_iff.1 hp
    exact (List.mem_append.1 hq).elim (ihl hl) (ihr hr)
  | or left right ihl ihr =>
    obtain ⟨hl, hr⟩ := Bool.and_eq_true_iff.1 hp
    exact (List.mem_append.1 hq).elim (ihl hl) (ihr hr)
  | not operand ih => exact ih (Bool.and_eq_true_iff.1 hp).1 hq
  | constant _ | boolComparison _ _ _ _ | call _ _ _ => cases hp
  | _ =>
    cases List.mem_singleton.1 hq
    exact ⟨rfl, rfl⟩

/-- Normalising leaves a normal form as it is. -/
theorem normalize_of_isNormal {p : Predicate} (hp : p.isNormal = true) :
    p.normalize = .ok (.condition p) := by
  induction p with
  | and left right ihl ihr =>
    obtain ⟨hl, hr⟩ := Bool.and_eq_true_iff.1 hp
    rw [normalize, ihl hl, ihr hr]
    rfl
  | or left right ihl ihr =>
    obtain ⟨hl, hr⟩ := Bool.and_eq_true_iff.1 hp
    rw [normalize, ihl hl, ihr hr]
    rfl
  | not operand ih =>
    obtain ⟨hoperand, hsingle⟩ := Bool.and_eq_true_iff.1 hp
    rw [normalize, ih hoperand]
    rcases Folded.negate_condition operand with ⟨x, rfl, -⟩ | ⟨-, hnegate⟩
    · cases hsingle
    · rw [ok_bind, hnegate]
      rfl
  | constant _ | boolComparison _ _ _ _ | call _ _ _ => cases hp
  | _ => rfl

/-- A leaf of a normal form is its own normal form. -/
theorem normalize_leaf {p : Predicate} (hp : p.isNormal = true) (hleaf : p.isLeaf = true) :
    p.normalize = .ok (.condition p) ∧ p.leaves = [p] := by
  refine ⟨normalize_of_isNormal hp, ?_⟩
  cases p with
  | and _ _ | or _ _ | not _ | constant _ | boolComparison _ _ _ => cases hleaf
  | _ => rfl

end Predicate

/-- The leaves of what is left of a predicate. -/
def Folded.leaves : Folded → List Predicate
  | always => []
  | never => []
  | condition p => p.leaves

end DocQuery
