import DocQuery.Predicate.Basic

/-
  The normal form of a predicate.
  Normalising folds constants, comparisons with truth values and double negations away and
  classifies calls. What is left holds for every document, for none, or is a predicate made of
  leaves, conjunctions, disjunctions and single negations.
-/

namespace DocQuery

/-- A predicate with its constants folded away. -/
inductive Folded where
  /-- It holds for every document. -/
  | always
  /-- It holds for no document. -/
  | never
  /-- It depends on the document. -/
  | condition (p : Predicate)
deriving DecidableEq

namespace Folded

/-- The opposite; the negation of a negation is what stands inside it. -/
def negate : Folded → Folded
  | always => never
  | never => always
  | condition (.not p) => condition p
  | condition p => condition (.not p)

/-- Both of two. -/
def both : Folded → Folded → Folded
  | never, _ => never
  | _, never => never
  | always, q => q
  | p, always => p
  | condition p, condition q => condition (.and p q)

/-- One of two or both. -/
def either : Folded → Folded → Folded
  | always, _ => always
  | _, always => always
  | never, q => q
  | p, never => p
  | condition p, condition q => condition (.or p q)

end Folded

namespace Predicate

/-- Whether comparing a condition to a truth value keeps it or turns it round. Truth values have no
order. -/
def keeps? (op : Comparison) (value : Bool) : Option Bool :=
  match op, value with
  | .eq, true => some true
  | .ne, false => some true
  | .eq, false => some false
  | .ne, true => some false
  | _, _ => none

/-- The predicate a call means: a string method with one text. -/
def ofCall? (method property : String) (args : List Value) : Option Predicate :=
  match StringMethod.ofCall? method, args with
  | some op, [.text pattern] => some (.stringOp op property pattern)
  | _, _ => none

/-- The normal form. A comparison with a truth value is checked before its operand, and the left
side of a connective before the right one. -/
def normalize : Predicate → Except QueryError Folded
  | constant (.bool true) => .ok .always
  | constant (.bool false) => .ok .never
  | constant value =>
    .error (.unsupported (value.describe ++ " (a " ++ value.kind.name ++
      " constant used as a condition)"))
  | and left right => do return (← left.normalize).both (← right.normalize)
  | or left right => do return (← left.normalize).either (← right.normalize)
  | not operand => do return (← operand.normalize).negate
  | boolComparison operand op value =>
    match keeps? op value with
    | none => .error (.unsupported (boolComparison operand op value).describe)
    | some keep => do
      let folded ← operand.normalize
      return if keep then folded else folded.negate
  | call method property args =>
    match ofCall? method property args with
    | none => .error (.unsupported (call method property args).describe)
    | some p => .ok (.condition p)
  | leaf => .ok (.condition leaf)

end Predicate

end DocQuery
