import DocQuery.Json.Basic

/-
  Responses of the search backend.
-/

namespace DocQuery

/-- A document that was found. -/
structure Hit where
  id : String := ""
  source : Json := .null

/-- A group of documents: the values of its sources, its size and its first documents. -/
structure Bucket where
  key : List (String × Json)
  docCount : Nat := 0
  hits : Option (List Hit) := none

/-- The groups that were found. -/
structure CompositeResult where
  /-- The key of the last group when there are more. -/
  afterKey : Option (List (String × Json)) := none
  buckets : List Bucket := []

/-- What was found. -/
structure SearchResponse where
  hits : List Hit := []
  aggregation : Option CompositeResult := none

/-- A document as the backend gives it. -/
def Hit.render (h : Hit) : Json :=
  .object [("_id", .string h.id), ("_source", h.source)]

/-- Some documents as the backend gives them. -/
def renderHits (hits : List Hit) : Json :=
  .entry "hits" (.array (hits.map Hit.render))

/-- A group as the backend gives it. -/
def Bucket.render (b : Bucket) : Json :=
  let hits := match b.hits with
    | none => []
    | some hits => [("data_composite", Json.entry "hits" (renderHits hits))]
  .object (hits ++ [("doc_count", .int b.docCount), ("key", .object b.key)])

/-- Groups as the backend gives them. -/
def CompositeResult.render (c : CompositeResult) : Json :=
  let afterKey := match c.afterKey with
    | none => []
    | some key => [("after_key", Json.object key)]
  .object (afterKey ++ [("buckets", .array (c.buckets.map Bucket.render))])

/-- A response as the backend gives it. -/
def SearchResponse.render (r : SearchResponse) : Json :=
  let aggregation := match r.aggregation with
    | none => []
    | some a => [("aggregations", Json.entry "composite" a.render)]
  .object (aggregation ++ [("hits", renderHits r.hits)])

end DocQuery
