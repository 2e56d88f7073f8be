import DocQuery.Document.Order
import DocQuery.Compilation.Pass

/-
  Queries built up in stages.
  Filters of later stages are added to the earlier ones, paging and sorting of later stages take
  their place, and group keys are added.
-/

namespace DocQuery

/-- A property to sort by. -/
structure SortKey where
  property : String
  order : SortOrder := .asc
deriving DecidableEq

/-- The parts of a stage that filter nothing. -/
structure Directives where
  skip : Option Nat := none
  take : Option Nat := none
  /-- Takes the place of the sort keys when it is there. -/
  orderBy : Option (List SortKey) := none
  /-- Is added to the group keys. -/
  groupBy : List String := []
deriving DecidableEq

/-- A query: the clauses that must all match, and what is done with the matches. -/
structure Query where
  clauses : List Clause := []
  offset : Option Nat := none
  limit : Option Nat := none
  sortKeys : List SortKey := []
  groupKeys : List String := []
  /-- The property every result is reduced to. -/
  projection : Option String := none

namespace Query

/-- Adds a compiled stage. -/
def merge (q : Query) (clauses : List Clause) (d : Directives) : Query :=
  { q with
    clauses := q.clauses ++ clauses
    offset := d.skip <|> q.offset
    limit := d.take <|> q.limit
    sortKeys := d.orderBy.getD q.sortKeys
    groupKeys := q.groupKeys ++ d.groupBy }

/-- Adds a filter. -/
def filter (q : Query) (r : Resolver) (p : Predicate) : Except QueryError Query := do
  return q.merge (← p.compile r) {}

/-- Adds some filters, one after the other. -/
def filterAll (q : Query) (r : Resolver) : List Predicate → Except QueryError Query
  | [] => .ok q
  | p :: rest => do filterAll (← q.filter r p) r rest

/-- Leaves out a number of results. -/
def skip (q : Query) (n : Nat) : Query :=
  { q with offset := some n }

/-- Limits the number of results. -/
def take (q : Query) (n : Nat) : Query :=
  { q with limit := some n }

/-- Sorts by one key only. -/
def orderBy (q : Query) (key : SortKey) : Query :=
  { q with sortKeys := [key] }

/-- Sorts what ties on the earlier keys by one more. -/
def thenBy (q : Query) (key : SortKey) : Query :=
  { q with sortKeys := q.sortKeys ++ [key] }

/-- Groups by one more property. -/
def groupBy (q : Query) (property : String) : Query :=
  { q with groupKeys := q.groupKeys ++ [property] }

/-- Reduces every result to the value of a property. -/
def select (q : Query) (property : String) : Query :=
  { q with projection := some property }

/-- Whether two queries are equal. -/
def same (a b : Query) : Bool :=
  Clause.sameAll a.clauses b.clauses && a.offset == b.offset && a.limit == b.limit &&
    a.sortKeys == b.sortKeys && a.groupKeys == b.groupKeys && a.projection == b.projection

end Query

end DocQuery
