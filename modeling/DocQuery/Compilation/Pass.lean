import DocQuery.Compilation.Leaf
import DocQuery.Predicate.Normal

/-
  Compiling predicates into clauses.
  One pass walks over the normal form of a predicate from left to right and collects clauses: those
  of the conjunction it is in, and those of the disjunction around it. `Predicate.compile` gives
  the list of clauses that must all match.
-/

namespace DocQuery

namespace Compilation

/-- What a pass has collected so far. -/
structure Pass where
  /-- Whether the next clause is to be negated. -/
  negated : Bool := false
  /-- The clauses of the conjunction that is being collected. -/
  pending : List Clause := []
  /-- The clauses of the disjunction that is being collected. -/
  should : List Clause := []
  /-- The finished groups, which must all match. -/
  finalized : List Clause := []

namespace Pass

/-- Adds a clause to the conjunction, negated if that was asked for. -/
def push (s : Pass) (c : Clause) : Pass :=
  { s with
    negated := false
    pending := s.pending ++ [if s.negated then .noneOf [c] else c] }

/-- Some clauses as one group: nothing, the clause itself, or all of them together. -/
def group? : List Clause → Option Clause
  | [] => none
  | [c] => some c
  | cs => some (.allOf cs)

/-- Closes the conjunction and makes it a branch of the disjunction. -/
def closeBranch (s : Pass) : Pass :=
  { s with pending := [], should := s.should ++ (group? s.pending).toList }

/-- Closes the conjunction and makes it a finished group. -/
def closeTerm (s : Pass) : Pass :=
  if s.pending.isEmpty then s
  else { s with pending := [], finalized := s.finalized ++ [.allOf s.pending] }

end Pass

/-- How a node is visited. -/
inductive Role where
  /-- As a part of the conjunction around it. -/
  | part
  /-- As a branch of the disjunction around it. -/
  | branch
deriving DecidableEq

/-- Ends the visit of a node that is no disjunction. -/
def Role.close : Role → Pass → Pass
  | part, s => s
  | branch, s => s.closeBranch

/-- Collects the clause of a leaf. -/
def pushLeaf (clause : Except QueryError Clause) (s : Pass) : Except QueryError Pass := do
  return s.push (← clause)

/-- The comparison that a negated leaf becomes when its truth value can be turned round. -/
def flipped? : Predicate → Option (String × Comparison × Value)
  | .flag property => some (property, .eq, .bool false)
  | .comparison property .eq (.bool b) => some (property, .eq, .bool !b)
  | .comparison property .ne (.bool b) => some (property, .ne, .bool !b)
  | _ => none

/-- Whether a negated leaf is collected as the negation of its clause. -/
def isNegatedInPlace : Predicate → Bool
  | .stringOp _ _ _ => true
  | .membership _ _ => true
  | _ => false

/-- Visits a node of a normal form. The branches of nested disjunctions come to stand in one list;
what a negation holds is collected on its own and negated as a group. -/
def visit (r : Resolver) : Predicate → Role → Pass → Except QueryError Pass
  | .and left right, role, s => do
    let s ← visit r left .part s
    let s ← visit r right .part s
    return role.close s
  | .or left right, .branch, s => do
    let s ← visit r left .branch s
    visit r right .branch s
  | .or left right, .part, s => do
    let t ← visit r left .branch { s with pending := [], should := [] }
    let t ← visit r right .branch t
    let back := { t with pending := s.pending, should := s.should }
    return if t.should.isEmpty then back else back.push (.anyOf t.should)
  | .not operand, role, s =>
    match flipped? operand with
    | some (property, op, value) => do
      return role.close (← pushLeaf (comparisonClause r property op value) s)
    | none =>
      if isNegatedInPlace operand then do
        return role.close (← visit r operand .part { s with negated := true })
      else do
        let t ← visit r operand .part { s with pending := [] }
        let back := { t with pending := s.pending }
        return role.close <| match Pass.group? t.pending with
          | none => back
          | some inner => back.push (.noneOf [inner])
  | .comparison property op value, role, s => do
    return role.close (← pushLeaf (comparisonClause r property op value) s)
  | .flag property, role, s => do
    return role.close (← pushLeaf (comparisonClause r property .eq (.bool true)) s)
  | .stringOp method property pattern, role, s => do
    return role.close (← pushLeaf (stringClause r method property pattern) s)
  | .membership property candidates, role, s => do
    return role.close (← pushLeaf (membershipClause r property candidates) s)
  | p@(.constant _), _, _ => .error (.unsupported p.describe)
  | p@(.boolComparison _ _ _), _, _ => .error (.unsupported p.describe)
  | p@(.call _ _ _), _, _ => .error (.unsupported p.describe)

end Compilation

/-- The clauses of a predicate, which must all match: none if it always holds, and one that nothing
matches if it never does. -/
def Predicate.compile (p : Predicate) (r : Resolver) : Except QueryError (List Clause) := do
  match ← p.normalize with
  | .always => return []
  | .never => return [.matchNone]
  | .condition q =>
    let s ← Compilation.visit r q .part {}
    return s.closeTerm.finalized

end DocQuery
