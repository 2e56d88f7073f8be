import DocQuery.Execution.Settings
import DocQuery.Query.Payload
import DocQuery.Request.Basic

/-
  The request of a query.
  A request never asks for more documents than its shape can use: two are enough to see that one is
  not the only one, and a grouped result takes its documents from the groups.
-/

namespace DocQuery

/-- The filter of a query. -/
def Query.toClause (q : Query) : Clause :=
  if q.clauses.isEmpty then .matchAll else .allOf q.clauses

/-- The number of documents a query asks for: its limit, or what its offset leaves of the window. -/
def Query.pageSize (q : Query) (window : Nat) : Nat :=
  q.limit.getD (window - q.offset.getD 0)

/-- The number of documents that a shape can use. -/
def ResultShape.clamp (shape : ResultShape) (size : Nat) : Nat :=
  match shape with
  | .single _ => min size 2
  | .first _ => min size 1
  | _ => size

/-- The sort keys with the fields of their properties. -/
def sortFields (r : Resolver) (keys : List SortKey) : Except QueryError (List SortField) :=
  keys.mapM fun key => do return ⟨← r.variant .sortable key.property, key.order⟩

/-- The sources that group by some properties. -/
def compositeSources (r : Resolver) (properties : List String) :
    Except QueryError (List CompositeSource) :=
  properties.mapM fun property => do
    return .ofProperty property (← r.variant .sortable property)

/-- The field of the projection. -/
def projectionField (r : Resolver) (q : Query) : Except QueryError (Option String) :=
  match q.projection with
  | none => .ok none
  | some property => do return some (← r.resolve property).name

/-- The request for the documents of a query. -/
def Settings.searchRequest (settings : Settings) (r : Resolver) (q : Query) (shape : ResultShape) :
    Except QueryError SearchRequest := do
  let sort ← sortFields r q.sortKeys
  let field ← projectionField r q
  let source := field.map fun name => [name]
  if shape = .grouped then
    if q.groupKeys.isEmpty then throw Payload.missingGroupKeys
    else
      let sources ← compositeSources r q.groupKeys
      let aggregation : CompositeAggregation :=
        { sources, size := settings.groupBucketSize, hitsSize := settings.groupHitsSize, sort }
      return {
        index := settings.index, query := q.toClause, size := 0, source
        aggregation := some aggregation }
  else
    return {
      index := settings.index, query := q.toClause, start := q.offset
      size := shape.clamp (q.pageSize settings.maxResultWindow), sort, source }

/-- The request for the number of documents of a query; only its filter counts. -/
def Settings.countRequest (settings : Settings) (q : Query) : CountRequest :=
  { index := settings.index, query := q.toClause }

/-- A request of either kind. -/
inductive Request where
  | search (r : SearchRequest)
  | count (r : CountRequest)

namespace Request

/-- The index a request goes to. -/
def index : Request → String
  | search r => r.index
  | count r => r.index

/-- The body of a request. -/
def body : Request → Json
  | search r => r.body
  | count r => r.body

end Request

/-- The request of a query for a shape. -/
def Settings.request (settings : Settings) (r : Resolver) (q : Query) (shape : ResultShape) :
    Except QueryError Request :=
  match shape with
  | .count => .ok (.count (settings.countRequest q))
  | shape => do return .search (← settings.searchRequest r q shape)

end DocQuery
