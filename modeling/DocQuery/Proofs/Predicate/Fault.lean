import DocQuery.Predicate.Normal
import DocQuery.Proofs.Outcome

/-
  Why a predicate has no normal form.
  Some nodes can stand in no predicate: constants that are no truth values, comparisons with truth
  values by order, and calls that are no string method with one text. Normalising fails exactly when
  a predicate has such a node, even where folding would remove it, and reports the first one in
  pre-order (`errorOf?_normalize`).
-/

namespace DocQuery.Predicate

/-- A predicate and all predicates inside it, in pre-order. -/
def nodes : Predicate → List Predicate
  | and left right => and left right :: (left.nodes ++ right.nodes)
  | or left right => or left right :: (left.nodes ++ right.nodes)
  | not operand => not operand :: operand.nodes
  | boolComparison operand op value => boolComparison operand op value :: operand.nodes
  | p => [p]

/-- Whether a call is a string method with one text. -/
def isStringCall (method : String) (args : List Value) : Bool :=
  match StringMethod.ofCall? method, args with
  | some _, [.text _] => true
  | _, _ => false

/-- What is wrong with a node, whatever stands around it. -/
def fault? : Predicate → Option QueryError
  | constant (.bool _) => none
  | constant value =>
    some (.unsupported (value.describe ++ " (a " ++ value.kind.name ++
      " constant used as a condition)"))
  | boolComparison operand op value =>
    if op = .eq ∨ op = .ne then none
    else some (.unsupported (boolComparison operand op value).describe)
  | call method property args =>
    if isStringCall method args then none
    else some (.unsupported (call method property args).describe)
  | _ => none

attribute [local simp] normalize fault?

theorem keeps?_eq_none {op : Comparison} {value : Bool} :
    keeps? op value = none ↔ ¬(op = .eq ∨ op = .ne) := by
  cases op <;> cases value <;> simp [keeps?]

theorem isSome_ofCall? (method property : String) (args : List Value) :
    (ofCall? method property args).isSome = isStringCall method args := by
  unfold ofCall? isStringCall
  cases StringMethod.ofCall? method with
  | none => rfl
  | some op => split <;> simp_all

theorem errorOf?_normalize_constant (value : Value) :
    errorOf? (constant value).normalize = (constant value).fault? := by
  cases value with
  | bool b => cases b <;> rfl
  | _ => rfl

theorem errorOf?_normalize_call (method property : String) (args : List Value) :
    errorOf? (call method property args).normalize = (call method property args).fault? := by
  simp only [normalize, fault?]
  rw [← isSome_ofCall? method property args]
  cases ofCall? method property args <;> rfl

/-- A comparison with a truth value is looked at before its operand. -/
theorem errorOf?_normalize_boolComparison (operand : Predicate) (op : Comparison) (value : Bool) :
    errorOf? (boolComparison operand op value).normalize =
      (boolComparison operand op value).fault?.or (errorOf? operand.normalize) := by
  simp only [normalize, fault?]
  cases h : keeps? op value with
  | none =>
    rw [if_neg (keeps?_eq_none.1 h)]
    rfl
  | some keep =>
    have hop : op = .eq ∨ op = .ne := by
      refine Decidable.byContradiction fun hop => ?_
      rw [keeps?_eq_none.2 hop] at h
      cases h
    rw [if_pos hop, Option.none_or]
    exact errorOf?_map _ _

/-- Normalising fails with what is wrong with the first faulty node. -/
theorem errorOf?_normalize (p : Predicate) :
    errorOf? p.normalize = p.nodes.findSome? fault? := by
  induction p with
  | and left right ihl ihr =>
    have h := errorOf?_map₂ left.normalize right.normalize Folded.both
    rw [nodes, findSome?_cons_or, List.findSome?_append, ← ihl, ← ihr, ← h]
    simp
  | or left right ihl ihr =>
    have h := errorOf?_map₂ left.normalize right.normalize Folded.either
    rw [nodes, findSome?_cons_or, List.findSome?_append, ← ihl, ← ihr, ← h]
    simp
  | not operand ih =>
    have h := errorOf?_map operand.normalize Folded.negate
    rw [nodes, findSome?_cons_or, ← ih, ← h]
    simp
  | boolComparison operand op value ih =>
    rw [errorOf?_normalize_boolComparison, nodes, findSome?_cons_or, ih]
  | constant value =>
    rw [errorOf?_normalize_constant]
    exact (findSome?_singleton _ _).symm
  | call method property args =>
    rw [errorOf?_normalize_call]
    exact (findSome?_singleton _ _).symm
  | _ => rfl

end DocQuery.Predicate
