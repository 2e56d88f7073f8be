import DocQuery.Proofs.Compilation.Leaf
import DocQuery.Proofs.Predicate.Fault

/-
  Why a predicate does not compile.
  A predicate fails for its first faulty node or, if it has none, for the first leaf of its normal
  form that fails by itself (`compile_eq_error_iff`). Leaves that folding removes are never looked
  at, and turning a leaf round does not change why it fails.
-/

namespace DocQuery

namespace Compilation

open Predicate

variable {r : Resolver}

/-- Why a node fails: for the first of its leaves that has no clause. -/
def FailsByLeaf (r : Resolver) (p : Predicate) (cs : Except QueryError (List Clause)) : Prop :=
  errorOf? cs = p.leaves.findSome? fun q => errorOf? (leafClause r q)

/-- Anything but a disjunction fails as a branch as it does as a part. -/
theorem failsByLeaf_of_part {p : Predicate} (hp : ∀ left right, p ≠ .or left right)
    (h : FailsByLeaf r p (conj r p)) :
    FailsByLeaf r p (conj r p) ∧ FailsByLeaf r p (disj r p) := by
  refine ⟨h, ?_⟩
  rw [FailsByLeaf, disj_of_ne_or hp]
  exact (errorOf?_map _ _).trans h

theorem failsByLeaf_leaf {p : Predicate} (hp : p.leaves = [p])
    (hconj : conj r p = do return [← leafClause r p]) : FailsByLeaf r p (conj r p) := by
  rw [FailsByLeaf, hconj, hp, findSome?_singleton]
  exact errorOf?_map _ _

theorem failsByLeaf_not {x : Predicate} (h : FailsByLeaf r x (conj r x)) :
    FailsByLeaf r (.not x) (conj r (.not x)) := by
  cases hx : x.truthTest? with
  | none =>
    rw [FailsByLeaf, conj_not_group (flipped?_eq_none hx)]
    exact (errorOf?_map _ _).trans h
  | some test =>
    obtain ⟨property, t⟩ := test
    obtain ⟨hconj, hnot⟩ := conj_truthTest (r := r) hx
    have hsame := errorOf?_comparisonClause_bool r property t
    rw [FailsByLeaf, hconj, errorOf?_map] at h
    rw [FailsByLeaf, hnot, errorOf?_map, hsame, h]
    rfl

theorem conj_disj_failByLeaf (p : Predicate) :
    FailsByLeaf r p (conj r p) ∧ FailsByLeaf r p (disj r p) := by
  induction p with
  | and left right ihl ihr =>
    refine failsByLeaf_of_part (by simp) ?_
    rw [FailsByLeaf, conj, leaves, List.findSome?_append, ← ihl.1, ← ihr.1]
    exact errorOf?_map₂ _ _ _
  | or left right ihl ihr =>
    constructor
    · rw [FailsByLeaf, conj, leaves, List.findSome?_append, ← ihl.2, ← ihr.2]
      exact errorOf?_map₂ _ _ _
    · rw [FailsByLeaf, disj, leaves, List.findSome?_append, ← ihl.2, ← ihr.2]
      exact errorOf?_map₂ _ _ _
  | not x ih => exact failsByLeaf_of_part (by simp) (failsByLeaf_not ih.1)
  | _ => exact failsByLeaf_of_part (by simp) (failsByLeaf_leaf rfl (by rw [conj] <;> simp))

/-- A leaf of a normal form fails by itself as it does in its place. -/
theorem errorOf?_compile_leaf {q : Predicate} (hq : q.isNormal = true) (hleaf : q.isLeaf = true) :
    errorOf? (q.compile r) = errorOf? (leafClause r q) := by
  rw [compile_of_isLeaf hq hleaf, errorOf?_map]

end Compilation

theorem Folded.errorOf?_clauses {f : Folded} (hf : f.isNormal = true) (r : Resolver) :
    errorOf? (f.clauses r) = f.leaves.findSome? fun q => errorOf? (q.compile r) := by
  cases f with
  | always => rfl
  | never => rfl
  | condition p =>
    have hconj := (Compilation.conj_disj_failByLeaf (r := r) p).1
    rw [Folded.clauses, errorOf?_map, hconj]
    refine findSome?_congr fun q hq => ?_
    obtain ⟨hnormal, hleaf⟩ := Predicate.isNormal_of_mem_leaves hf hq
    exact (Compilation.errorOf?_compile_leaf hnormal hleaf).symm

/-- Compiling fails for the first faulty node in pre-order, whatever folding makes of it; and if no
node is faulty, for the first leaf of the normal form, from left to right, that does not compile by
itself. It fails for no other reason. -/
theorem compile_eq_error_iff (r : Resolver) (p : Predicate) (cause : QueryError) :
    p.compile r = .error cause ↔
      p.nodes.findSome? Predicate.fault? = some cause ∨
      (∀ q ∈ p.nodes, q.fault? = none) ∧ ∃ f, p.normalize = .ok f ∧
        f.leaves.findSome? (fun q => errorOf? (q.compile r)) = some cause := by
  rw [p.compile_eq, ← List.findSome?_eq_none_iff, ← p.errorOf?_normalize]
  cases hf : p.normalize with
  | error e => simp
  | ok f =>
    have h := f.errorOf?_clauses (Predicate.isNormal_normalize hf) r
    rw [ok_bind, ← errorOf?_eq_some, h]
    simp

/-- Folding removes a property that the index does not declare. -/
example : (Predicate.and (.flag "Owner") (.constant (.bool false))).compile ticketIndex.resolver =
    .ok [.matchNone] := by rfl

end DocQuery
