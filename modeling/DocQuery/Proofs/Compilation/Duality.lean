import DocQuery.Proofs.Compilation.Leaf

/-
  Comparing for equality and for inequality.
  Whatever a property is compared with, negating one of the two comparisons gives the other one:
  both fail for the same reason or match the same documents (`compile_not_eq_ne`). Truth values turn
  a negated comparison round, null has clauses of its own, and everything else is negated as a
  clause.
-/

namespace DocQuery

open Document

/-! ## Results that match alike -/

/-- Two results of compiling that fail for the same reason, or give clauses that match the same
documents. -/
inductive MatchAlike :
    Except QueryError (List Clause) → Except QueryError (List Clause) → Prop where
  | failed (cause : QueryError) : MatchAlike (.error cause) (.error cause)
  | compiled {cs ds : List Clause} (h : ∀ doc, allMatch doc cs = allMatch doc ds) :
    MatchAlike (.ok cs) (.ok ds)

theorem matchAlike_refl (x : Except QueryError (List Clause)) : MatchAlike x x := by
  cases x with
  | error cause => exact .failed cause
  | ok cs => exact .compiled fun _ => rfl

namespace Compilation

variable {r : Resolver} {property : String} {value : Value}

/-! ## Compiled comparisons -/

theorem conj_comparison (op : Comparison) :
    conj r (.comparison property op value) = do
      return [← comparisonClause r property op value] :=
  conj_of_isLeaf rfl

theorem compile_comparison (op : Comparison) :
    (Predicate.comparison property op value).compile r = do
      return [.allOf [← comparisonClause r property op value]] :=
  compile_of_isLeaf rfl rfl

/-- A negated comparison is a normal form, so only its own clauses decide. -/
theorem compile_not_comparison (op : Comparison) :
    (Predicate.not (.comparison property op value)).compile r = do
      return [.allOf (← conj r (.not (.comparison property op value)))] := by
  rw [Predicate.compile_eq]
  rfl

/-! ## Opposite comparisons -/

/-- Two comparisons that fail for the same reason, or whose clauses match opposite documents. -/
inductive Opposite : Except QueryError Clause → Except QueryError Clause → Prop where
  | failed (cause : QueryError) : Opposite (.error cause) (.error cause)
  | compiled {c d : Clause} (h : ∀ doc, isMatch doc d = !isMatch doc c) : Opposite (.ok c) (.ok d)

theorem opposite_symm {x y : Except QueryError Clause} (h : Opposite x y) : Opposite y x := by
  cases h with
  | failed cause => exact .failed cause
  | compiled h =>
    refine .compiled fun doc => ?_
    rw [h doc, Bool.not_not]

/-- Every type but that of truth values has a clause for equality and the negation of it for
inequality. -/
theorem termClause?_eq_ne (field : String) {kind : FieldType} (hkind : kind ≠ .boolean)
    (term : Json) :
    ∃ c d, termClause? field kind .eq term = some c ∧ termClause? field kind .ne term = some d ∧
      ∀ doc, isMatch doc d = !isMatch doc c := by
  cases kind with
  | boolean => exact absurd rfl hkind
  | _ => exact ⟨_, _, rfl, rfl, fun doc => by simp⟩

theorem nullClause_opposite (field : String) :
    Opposite (nullClause property field .eq) (nullClause property field .ne) := by
  refine .compiled fun doc => ?_
  simp

/-- Only a truth value has a term in a field of truth values. -/
theorem toTerm_of_not_bool (hvalue : ∀ b, value ≠ .bool b) {kind : FieldKind} {term : Json}
    (h : value.toTerm kind = .ok term) : kind.type ≠ .boolean := by
  intro hkind
  cases kind with
  | boolean =>
    cases value with
    | bool b => exact hvalue b rfl
    | _ => cases h
  | _ => cases hkind

theorem comparisonClause_opposite (r : Resolver) (property : String)
    (hvalue : ∀ b, value ≠ .bool b) :
    Opposite (comparisonClause r property .eq value) (comparisonClause r property .ne value) := by
  unfold comparisonClause
  cases r.resolve property with
  | error cause => exact .failed cause
  | ok field =>
    simp only [ok_bind]
    split
    · exact nullClause_opposite field.name
    · unfold coerce
      cases hterm : value.toTerm field.kind with
      | error reason => exact .failed (.invalidValue property reason)
      | ok term =>
        have hkind := toTerm_of_not_bool hvalue hterm
        obtain ⟨c, d, hc, hd, hopposite⟩ := termClause?_eq_ne field.name hkind term
        simp only [ok_bind, hc, hd]
        exact .compiled hopposite

/-- The negation of a comparison matches like the opposite one, unless it is with a truth value. -/
theorem matchAlike_of_opposite {op op' : Comparison} (hvalue : ∀ b, value ≠ .bool b)
    (h : Opposite (comparisonClause r property op value) (comparisonClause r property op' value)) :
    MatchAlike ((Predicate.not (.comparison property op value)).compile r)
      ((Predicate.comparison property op' value).compile r) := by
  have hflipped : flipped? (.comparison property op value) = none := by
    cases value with
    | bool b => exact absurd rfl (hvalue b)
    | _ => cases op <;> rfl
  rw [compile_not_comparison, compile_comparison, conj_not_group hflipped, conj_comparison]
  generalize comparisonClause r property op value = x at h ⊢
  generalize comparisonClause r property op' value = y at h ⊢
  cases h with
  | failed cause => exact .failed cause
  | compiled hopposite =>
    refine .compiled fun doc => ?_
    simp [group, hopposite doc]

/-- A comparison with a truth value is turned round, and so gives the same clauses as the opposite
one. -/
theorem compile_not_truth (r : Resolver) (property : String) (b : Bool) :
    (Predicate.not (.comparison property .eq (.bool b))).compile r =
        (Predicate.comparison property .ne (.bool b)).compile r ∧
      (Predicate.not (.comparison property .ne (.bool b))).compile r =
        (Predicate.comparison property .eq (.bool b)).compile r := by
  have hback := comparisonClause_ne_bool r property !b
  rw [Bool.not_not] at hback
  constructor
  · rw [compile_not_comparison, compile_comparison, comparisonClause_ne_bool,
      conj_not_flipped (x := .comparison property .eq (.bool b)) rfl]
    simp
  · rw [compile_not_comparison, compile_comparison, ← hback,
      conj_not_flipped (x := .comparison property .ne (.bool b)) rfl]
    simp

end Compilation

open Compilation in
/-- The negation of an equality and the inequality fail for the same reason or match the same
documents, and so do the negation of an inequality and the equality, whatever the type of the
property and whatever it is compared with. -/
theorem compile_not_eq_ne (r : Resolver) (property : String) (value : Value) :
    let eq := Predicate.comparison property .eq value
    let ne := Predicate.comparison property .ne value
    MatchAlike ((Predicate.not eq).compile r) (ne.compile r) ∧
      MatchAlike ((Predicate.not ne).compile r) (eq.compile r) := by
  intro eq ne
  by_cases hvalue : ∃ b, value = .bool b
  · obtain ⟨b, rfl⟩ := hvalue
    obtain ⟨heq, hne⟩ := compile_not_truth r property b
    rw [heq, hne]
    exact ⟨matchAlike_refl _, matchAlike_refl _⟩
  · have hvalue : ∀ b, value ≠ .bool b := fun b h => hvalue ⟨b, h⟩
    have hopposite := comparisonClause_opposite r property hvalue
    exact ⟨matchAlike_of_opposite hvalue hopposite,
      matchAlike_of_opposite hvalue (opposite_symm hopposite)⟩

end DocQuery
