import DocQuery.Execution.Result
import DocQuery.Request.Build
import DocQuery.Store

/-
  Running queries.
  An executor compiles a query into one request, sends it, and makes records of the response. It
  works over any transport; the effects of a transport are those of the monad it lives in.
-/

namespace DocQuery

/-- A way to the search backend. A refusal lists its reasons, outermost first. -/
structure Transport (m : Type → Type) where
  search : SearchRequest → m (Except (List String) SearchResponse)
  count : CountRequest → m (Except (List String) Nat)

/-- The transport that answers from a store. -/
def Store.transport (s : Store) : Transport Id where
  search r := (s.search r).mapError fun e => [e.message]
  count r := (s.count r).mapError fun e => [e.message]

/-- What is needed to run queries. -/
structure Executor (m : Type → Type) where
  settings : Settings
  transport : Transport m
  resolver : Resolver

namespace Executor

/-- The value at a path of a source; null where the path leads nowhere. -/
def selectValue : List String → Json → Json
  | [], source => source
  | key :: rest, .object entries => selectValue rest ((entries.lookup key).getD .null)
  | _ :: _, _ => .null

variable {α : Type}

/-- A record of one value. -/
def decodeRecord (transcoder : Transcoder α) (raw : Json) : Except ExecutionError α :=
  (transcoder raw).mapError .decode

/-- A query error as the error of an execution. -/
def liftQuery {β : Type} (x : Except QueryError β) : Except ExecutionError β :=
  x.mapError .query

/-- The records of some hits, reduced to the projection of the query. -/
def decodeHits (r : Resolver) (transcoder : Transcoder α) (q : Query) (hits : List Hit) :
    Except ExecutionError (List α) := do
  match ← liftQuery (projectionField r q) with
  | none => hits.mapM fun h => decodeRecord transcoder h.source
  | some field =>
    let path := Document.segments field
    hits.mapM fun h => decodeRecord transcoder (selectValue path h.source)

/-- Takes the values of some properties out of the key of a group, one by one; a value that is not
there, or no longer, is null. -/
def takeKey : List String → List (String × Json) → GroupKey
  | [], _ => []
  | property :: rest, entries =>
    let name := groupSourceLead ++ property
    (property, (entries.lookup name).getD .null) ::
      takeKey rest (entries.filter fun e => e.1 != name)

/-- The groups of a response. -/
def decodeGroups (r : Resolver) (transcoder : Transcoder α) (q : Query)
    (response : SearchResponse) : Except ExecutionError (List (Grouping α)) :=
  match response.aggregation with
  | none => .ok []
  | some composite => composite.buckets.mapM fun bucket => do
    return ⟨takeKey q.groupKeys bucket.key, ← decodeHits r transcoder q (bucket.hits.getD [])⟩

/-- The result that a shape makes of a response. -/
def conclude (r : Resolver) (transcoder : Transcoder α) (q : Query) (shape : ResultShape)
    (response : SearchResponse) : Except ExecutionError (ExecutionResult α) :=
  match shape with
  | .collection => do return .collection (← decodeHits r transcoder q response.hits)
  | .single allowEmpty => do
    match ← decodeHits r transcoder q response.hits with
    | [] => if allowEmpty then return .single none else throw .notFound
    | [record] => return .single (some record)
    | records => throw (.multipleResults records.length)
  | .first allowEmpty => do
    match ← decodeHits r transcoder q response.hits with
    | [] => if allowEmpty then return .single none else throw .notFound
    | record :: _ => return .single (some record)
  | .count => .ok (.count response.hits.length)
  | .grouped => do return .grouped (← decodeGroups r transcoder q response)

variable {m : Type → Type} [Monad m]

/-- Sends the request for the documents of a query. -/
def search (e : Executor m) (q : Query) (shape : ResultShape) :
    m (Except ExecutionError SearchResponse) :=
  match e.settings.searchRequest e.resolver q shape with
  | .error cause => return .error (.query cause)
  | .ok request => do return (← e.transport.search request).mapError .transport

/-- The number of documents of a query. -/
def countMatches (e : Executor m) (q : Query) : m (Except ExecutionError Nat) := do
  return (← e.transport.count (e.settings.countRequest q)).mapError .transport

/-- Runs a query and makes records of what it finds. -/
def execute (e : Executor m) (transcoder : Transcoder α) (q : Query) (shape : ResultShape) :
    m (Except ExecutionError (ExecutionResult α)) :=
  match shape with
  | .count => do return (← e.countMatches q).map .count
  | shape => do
    match ← e.search q shape with
    | .error cause => return .error cause
    | .ok response => return conclude e.resolver transcoder q shape response

/-- All records of a query. -/
def collection (e : Executor m) (transcoder : Transcoder α) (q : Query) :
    m (Except ExecutionError (List α)) := do
  match ← e.search q .collection with
  | .error cause => return .error cause
  | .ok response => return decodeHits e.resolver transcoder q response.hits

/-- The record of a result that has one at most. -/
def recordOf? : ExecutionResult α → Option α
  | .single record => record
  | _ => none

/-- The only record of a query. -/
def single (e : Executor m) (transcoder : Transcoder α) (q : Query) (allowEmpty : Bool) :
    m (Except ExecutionError (Option α)) := do
  return (← e.execute transcoder q (.single allowEmpty)).map recordOf?

/-- The first record of a query. -/
def first (e : Executor m) (transcoder : Transcoder α) (q : Query) (allowEmpty : Bool) :
    m (Except ExecutionError (Option α)) := do
  return (← e.execute transcoder q (.first allowEmpty)).map recordOf?

/-- A type of integers that a count can be asked for in. -/
structure CountType where
  name : String
  greatest : Nat

/-- The number of documents of a query as an integer of a type. -/
def count (e : Executor m) (type : CountType) (q : Query) : m (Except ExecutionError Nat) := do
  match ← e.countMatches q with
  | .error cause => return .error cause
  | .ok n => return if n ≤ type.greatest then .ok n else .error (.countOutOfRange n type.name)

/-- The records of a query by their group keys. -/
def grouped (e : Executor m) (transcoder : Transcoder α) (q : Query) :
    m (Except ExecutionError (List (Grouping α))) := do
  match ← e.search q .grouped with
  | .error cause => return .error cause
  | .ok response => return decodeGroups e.resolver transcoder q response

end Executor

end DocQuery
