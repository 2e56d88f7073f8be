import DocQuery.Clause.Basic
import DocQuery.Document.Order

/-
  Requests to the search backend.
  `body` is the form in which the backend takes a request; the index is part of its address and not
  of its body.
-/

namespace DocQuery

/-- One field that documents are grouped by, under a name of its own. -/
structure CompositeSource where
  name : String
  field : String
deriving DecidableEq

/-- A grouping of documents by some fields, with the first documents of every group. -/
structure CompositeAggregation where
  sources : List CompositeSource
  /-- The number of groups, if it is not left to the backend. -/
  size : Option Nat := none
  /-- The number of documents of a group, if it is not left to the backend. -/
  hitsSize : Option Nat := none
  /-- The order of the documents of a group. -/
  sort : List SortField := []
deriving DecidableEq

/-- A request for documents. -/
structure SearchRequest where
  index : String
  query : Clause
  /-- The number of documents left out at the start. -/
  start : Option Nat := none
  size : Nat
  sort : List SortField := []
  /-- The fields that documents are reduced to. -/
  source : Option (List String) := none
  aggregation : Option CompositeAggregation := none

/-- A request for the number of documents. -/
structure CountRequest where
  index : String
  query : Clause

/-- What stands before the property in the name of a source. -/
def groupSourceLead : String := "group_by_"

/-- The source that groups by a property. -/
def CompositeSource.ofProperty (property field : String) : CompositeSource :=
  ⟨groupSourceLead ++ property, field⟩

/-- A sort key as the backend takes it. -/
def SortField.render (s : SortField) : Json :=
  .entry s.field (.entry "order" (.string s.order.name))

/-- A source as the backend takes it. -/
def CompositeSource.render (s : CompositeSource) : Json :=
  .entry s.name (.entry "terms" (.entry "field" (.string s.field)))

/-- A number as an entry, if it is there. -/
def renderSize (name : String) : Option Nat → List (String × Json)
  | none => []
  | some n => [(name, .int n)]

/-- Sort keys as an entry, if there are any. -/
def renderSort : List SortField → List (String × Json)
  | [] => []
  | keys => [("sort", .array (keys.map SortField.render))]

/-- A grouping as the backend takes it. -/
def CompositeAggregation.render (a : CompositeAggregation) : Json :=
  let topHits := Json.object (renderSize "size" a.hitsSize ++ renderSort a.sort)
  let composite := Json.object
    (renderSize "size" a.size ++ [("sources", .array (a.sources.map CompositeSource.render))])
  .object [("aggregations", .entry "data_composite" (.entry "top_hits" topHits)),
    ("composite", composite)]

/-- The fields of documents as an entry, if they are restricted. -/
def renderSource : Option (List String) → List (String × Json)
  | none => []
  | some fields => [("_source", .entry "includes" (.strings fields))]

/-- A grouping as an entry, if there is one. -/
def renderAggregation : Option CompositeAggregation → List (String × Json)
  | none => []
  | some a => [("aggregations", .entry "composite" a.render)]

/-- The body of a request for documents. -/
def SearchRequest.body (r : SearchRequest) : Json :=
  .object (renderSource r.source ++ renderAggregation r.aggregation ++
    renderSize "from" r.start ++ [("query", r.query.render), ("size", .int r.size)] ++
    renderSort r.sort)

/-- The body of a request for a number. -/
def CountRequest.body (r : CountRequest) : Json :=
  .entry "query" r.query.render

end DocQuery
