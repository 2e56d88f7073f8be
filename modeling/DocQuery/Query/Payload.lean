import DocQuery.Query.Basic

/-
  Queries given as a whole.
  A payload lists the filters of a query, what is done with the matches, and the shape of the
  result.
-/

namespace DocQuery

/-- What becomes of the matches. -/
inductive ResultShape where
  /-- All of them. -/
  | collection
  /-- The only one; more than one is an error. -/
  | single (allowEmpty : Bool)
  /-- The first one. -/
  | first (allowEmpty : Bool)
  /-- Their number. -/
  | count
  /-- All of them by their group keys. -/
  | grouped
deriving DecidableEq

/-- A query given as a whole. -/
structure Payload where
  filters : List Predicate := []
  skip : Option Nat := none
  take : Option Nat := none
  orderBy : List SortKey := []
  groupBy : List String := []
  select : Option String := none
  shape : ResultShape := .collection

namespace Payload

/-- The complaint about a grouped result without group keys. -/
def missingGroupKeys : QueryError :=
  .unsupported "a grouped result requires at least one group_by property"

/-- Checks that the parts of a payload fit its shape. -/
def validate (p : Payload) : Except QueryError Unit :=
  if p.shape = .grouped ∧ p.groupBy.isEmpty then .error missingGroupKeys
  else if p.shape ≠ .grouped ∧ !p.groupBy.isEmpty then
    .error (.unsupported "group_by can only be used with a grouped result")
  else if p.shape = .count ∧ p.select.isSome then
    .error (.unsupported "a counted result cannot be projected")
  else .ok ()

/-- The query of a payload. -/
def toQuery (p : Payload) (r : Resolver) : Except QueryError Query := do
  p.validate
  let q ← Query.filterAll {} r p.filters
  let q := q.merge []
    { skip := p.skip, take := p.take, orderBy := some p.orderBy, groupBy := p.groupBy }
  return match p.select with
    | none => q
    | some property => q.select property

end Payload

end DocQuery
