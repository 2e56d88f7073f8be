import DocQuery.Document.Matching
import DocQuery.Request.Basic
import DocQuery.Response.Basic

/-
  Indexes held in memory.
  A store answers requests by looking at all documents of an index. Hits carry the position of the
  document in its index.
-/

namespace DocQuery

/-- Documents by index. -/
structure Store where
  indexes : List (String × List Json) := []

/-- Why a store does not answer. -/
inductive StoreError where
  | noSuchIndex (name : String)
deriving DecidableEq

/-- The wording of an error. -/
def StoreError.message : StoreError → String
  | noSuchIndex name => "no such index: " ++ Text.quote name

namespace Store

/-- The number of hits or groups of a page when a request leaves it open. -/
def defaultPageSize : Nat := 10

/-- The number of documents of a group when a request leaves it open. -/
def defaultGroupSize : Nat := 3

/-- Adds documents to an index, which is made if it is not there. -/
def addDocuments (s : Store) (index : String) (docs : List Json) : Store :=
  { indexes :=
      if s.indexes.any (fun e => e.1 == index) then
        s.indexes.map fun e => if e.1 == index then (index, e.2 ++ docs) else e
      else s.indexes ++ [(index, docs)] }

/-- Some documents with their positions. -/
def positioned (docs : List Json) : Document.Positioned :=
  docs.zipIdx.map fun (doc, position) => (position, doc)

/-- The documents of an index that a clause matches. -/
def matching (s : Store) (index : String) (query : Clause) :
    Except StoreError Document.Positioned :=
  match s.indexes.lookup index with
  | none => .error (.noSuchIndex index)
  | some docs => .ok ((positioned docs).filter fun d => Document.isMatch d.2 query)

/-- The hit of a document, reduced to some fields if a request asks for them. -/
def toHit (source : Option (List String)) (d : Nat × Json) : Hit :=
  { id := toString d.1
    source := match source with
      | none => d.2
      | some fields => Document.project fields d.2 }

/-- The values of a document that decide on its group; a document without one has no group. -/
def groupKey? (sources : List CompositeSource) (doc : Json) : Option (List Json) :=
  sources.mapM fun s => Document.firstValue? doc s.field

/-- Adds a document to the group of its key. -/
def addToGroup (key : List Json) (d : Nat × Json) :
    List (List Json × Document.Positioned) → List (List Json × Document.Positioned)
  | [] => [(key, [d])]
  | (k, members) :: rest =>
    if Json.sameItems k key then (k, members ++ [d]) :: rest
    else (k, members) :: addToGroup key d rest

/-- Documents by the keys of their groups, in the order of the first documents of the groups. -/
def groupsOf (sources : List CompositeSource) (docs : Document.Positioned) :
    List (List Json × Document.Positioned) :=
  docs.foldl (fun groups d =>
    match groupKey? sources d.2 with
    | none => groups
    | some key => addToGroup key d groups) []

/-- The key of a group by the names of the sources. -/
def bucketKey (sources : List CompositeSource) (key : List Json) : List (String × Json) :=
  Entries.ofList ((sources.zip key).map fun (s, value) => (s.name, value))

/-- The first groups of documents, in the order of their keys. -/
def aggregate (a : CompositeAggregation) (source : Option (List String))
    (docs : Document.Positioned) : CompositeResult :=
  let groups := Document.sortBy (fun g h => Document.compareKeys g.1 h.1)
    (groupsOf a.sources docs)
  let pageSize := a.size.getD defaultPageSize
  let buckets := (groups.take pageSize).map fun (key, members) =>
    { key := bucketKey a.sources key
      docCount := members.length
      hits := some (((Document.sortDocuments a.sort members).take
        (a.hitsSize.getD defaultGroupSize)).map (toHit source)) : Bucket }
  { buckets
    afterKey := if pageSize < groups.length then buckets.getLast?.map Bucket.key else none }

/-- The answer to a request for documents. -/
def search (s : Store) (r : SearchRequest) : Except StoreError SearchResponse := do
  let docs := Document.sortDocuments r.sort (← s.matching r.index r.query)
  return {
    hits := ((docs.drop (r.start.getD 0)).take r.size).map (toHit r.source)
    aggregation := r.aggregation.map fun a => aggregate a r.source docs }

/-- The answer to a request for a number. -/
def count (s : Store) (r : CountRequest) : Except StoreError Nat := do
  return (← s.matching r.index r.query).length

end Store

end DocQuery
