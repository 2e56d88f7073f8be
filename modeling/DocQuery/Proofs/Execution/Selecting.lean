import DocQuery.Proofs.Compilation.Conjunction
import DocQuery.Proofs.Document.Projection
import DocQuery.Proofs.Execution.Collection
import DocQuery.Proofs.Store.Groups

/-
  Queries that select a property.
  The records of such a query are made of the values at the path of the property. Its request asks
  for these values only, so the sources of the hits are the projections of the documents
  (`search_withSource`); what a record is made of is the same in both (`execute_select_eq`).
  Selecting is therefore the last thing that happens to a result, whatever its shape is
  (`select_comes_last`).
-/

namespace DocQuery

open Document

/-- The value of a document in a field; null where there is none. -/
def Document.valueAt (name : String) (doc : Json) : Json :=
  (lookup (segments name) doc).getD .null

/-- A property's field that is not named like the untokenised form of another one. -/
def ResolvedField.IsPlain (field : ResolvedField) : Prop :=
  ∀ base : String, field.name ≠ base ++ "." ++ keywordSuffix

namespace ResolvedField

variable {field : ResolvedField}

theorem isPlain_iff : field.IsPlain ↔ stripKeyword field.name = field.name := by
  constructor
  · intro h
    exact (stripKeyword_cases field.name).resolve_right fun ⟨base, hbase⟩ => h base hbase
  · intro h base hbase
    rw [hbase, stripKeyword_append] at h
    have hlength := congrArg List.length (congrArg String.toList h)
    simp [keywordSuffix] at hlength

theorem IsPlain.path_eq (h : field.IsPlain) : path field.name = segments field.name := by
  rw [path, isPlain_iff.1 h]

end ResolvedField

/-! ## Changed sources -/

/-- A hit with its source changed. -/
def Hit.mapSource (f : Json → Json) (h : Hit) : Hit :=
  { h with source := f h.source }

/-- A bucket with the sources of its hits changed. -/
def Bucket.mapSources (f : Json → Json) (b : Bucket) : Bucket :=
  { b with hits := b.hits.map (List.map (Hit.mapSource f)) }

/-- A response with the sources of all its hits changed. -/
def SearchResponse.mapSources (f : Json → Json) (response : SearchResponse) : SearchResponse where
  hits := response.hits.map (Hit.mapSource f)
  aggregation := response.aggregation.map fun composite =>
    { composite with buckets := composite.buckets.map (Bucket.mapSources f) }

namespace Store

variable {s : Store}

theorem toHit_some (fields : List String) :
    toHit (some fields) = Hit.mapSource (project fields) ∘ toHit none := by
  funext d
  rfl

theorem bucketOf_some (a : CompositeAggregation) (fields : List String) :
    bucketOf a (some fields) = Bucket.mapSources (project fields) ∘ bucketOf a none := by
  funext g
  simp only [bucketOf, toHit_some, Function.comp_apply, Bucket.mapSources, Option.map_some,
    List.map_map]

theorem aggregate_some (a : CompositeAggregation) (fields : List String) (docs : Positioned) :
    aggregate a (some fields) docs =
      { aggregate a none docs with
        buckets := (aggregate a none docs).buckets.map (Bucket.mapSources (project fields)) } := by
  have hkey (bs : List Bucket) :
      (bs.map (Bucket.mapSources (project fields))).getLast?.map Bucket.key =
        bs.getLast?.map Bucket.key := by
    rw [List.getLast?_map, Option.map_map]
    rfl
  simp only [aggregate_eq, bucketOf_some, ← List.map_map, hkey]

/-- A request for some fields gets the projections of the documents. -/
theorem search_withSource {request : SearchRequest} (h : request.source = none)
    (fields : List String) :
    s.search { request with source := some fields } =
      SearchResponse.mapSources (project fields) <$> s.search request := by
  unfold search
  cases s.matching request.index request.query with
  | error cause => rfl
  | ok docs =>
    simp only [ok_bind, h, toHit_some, aggregate_some, ← List.map_map]
    cases request.aggregation <;> rfl

end Store

/-! ## Requests and records of a selection -/

section

variable {settings : Settings} {s : Store} {r : Resolver} {q : Query} {property : String}
  {field : ResolvedField}

theorem projectionField_select (h : r.resolve property = .ok field) :
    projectionField r (q.select property) = .ok (some field.name) := by
  simp only [projectionField, Query.select, h]
  rfl

/-- The projection of a query restricts the fields of its request and changes nothing else in it. -/
theorem Settings.searchRequest_projection {projection name : Option String}
    (h : projectionField r { q with projection } = .ok name) (shape : ResultShape) :
    settings.searchRequest r { q with projection } shape =
      (fun request => { request with source := name.map fun name => [name] }) <$>
        settings.searchRequest r { q with projection := none } shape := by
  have hnone : projectionField r { q with projection := none } = .ok none := rfl
  unfold Settings.searchRequest
  rw [h, hnone]
  cases sortFields r q.sortKeys with
  | error cause => rfl
  | ok sort =>
    simp only [ok_bind]
    by_cases hshape : shape = .grouped
    · rw [if_pos hshape, if_pos hshape]
      by_cases hempty : q.groupKeys.isEmpty = true
      · rw [if_pos hempty, if_pos hempty]
        rfl
      · rw [if_neg hempty, if_neg hempty]
        cases compositeSources r q.groupKeys <;> rfl
    · rw [if_neg hshape, if_neg hshape]
      rfl

theorem Settings.source_of_searchRequest {shape : ResultShape} {request : SearchRequest}
    (h : settings.searchRequest r { q with projection := none } shape = .ok request) :
    request.source = none := by
  have hnone : projectionField r { q with projection := none } = .ok none := rfl
  have hsource := settings.searchRequest_projection hnone shape
  rw [h] at hsource
  exact congrArg SearchRequest.source (Except.ok.inj hsource)

end

namespace Executor

variable {α : Type} {settings : Settings} {s : Store} {r : Resolver} {q : Query}
  {transcoder : Transcoder α} {property : String} {field : ResolvedField}

theorem selectValue_null (path : List String) : selectValue path .null = .null := by
  cases path <;> rfl

theorem selectValue_eq (path : List String) (doc : Json) :
    selectValue path doc = (lookup path doc).getD .null := by
  induction path generalizing doc with
  | nil => rfl
  | cons key rest ih =>
    cases doc with
    | object entries =>
      rw [selectValue, lookup]
      cases entries.lookup key with
      | none => exact selectValue_null rest
      | some value => exact ih value
    | _ => rfl

/-- What is selected of a projection is selected of the document. -/
theorem selectValue_project (h : field.IsPlain) (doc : Json) :
    selectValue (segments field.name) (project [field.name] doc) = valueAt field.name doc := by
  have hvalue := lookup_project_singleton field.name doc
  rw [h.path_eq] at hvalue
  rw [selectValue_eq, hvalue, valueAt]

/-- The records of projections are made of the values that the documents have. -/
theorem decodeHits_select (hresolve : r.resolve property = .ok field) (hplain : field.IsPlain)
    (hits : List Hit) :
    decodeHits r transcoder (q.select property)
        (hits.map (Hit.mapSource (project [field.name]))) =
      decodeHits r (fun doc => transcoder (valueAt field.name doc))
        { q with projection := none } hits := by
  have hnone : projectionField r { q with projection := none } = .ok none := rfl
  unfold decodeHits
  rw [projectionField_select hresolve, hnone]
  show (hits.map _).mapM (fun h : Hit => decodeRecord transcoder
    (selectValue (segments field.name) h.source)) = hits.mapM _
  rw [List.mapM_map]
  simp only [Function.comp_def, Hit.mapSource, selectValue_project hplain]
  rfl

theorem decodeGroups_select (hresolve : r.resolve property = .ok field) (hplain : field.IsPlain)
    (response : SearchResponse) :
    decodeGroups r transcoder (q.select property) (response.mapSources (project [field.name])) =
      decodeGroups r (fun doc => transcoder (valueAt field.name doc))
        { q with projection := none } response := by
  unfold decodeGroups SearchResponse.mapSources
  cases response.aggregation with
  | none => rfl
  | some composite =>
    simp only [Option.map_some, List.mapM_map]
    congr 1
    funext bucket
    have hhits : (bucket.mapSources (project [field.name])).hits.getD [] =
        (bucket.hits.getD []).map (Hit.mapSource (project [field.name])) := by
      rw [Bucket.mapSources]
      cases bucket.hits <;> rfl
    simp only [Function.comp_apply, hhits, decodeHits_select hresolve hplain]
    rfl

theorem conclude_select (hresolve : r.resolve property = .ok field) (hplain : field.IsPlain)
    (shape : ResultShape) (response : SearchResponse) :
    conclude r transcoder (q.select property) shape
        (response.mapSources (project [field.name])) =
      conclude r (fun doc => transcoder (valueAt field.name doc))
        { q with projection := none } shape
        response := by
  cases shape with
  | count =>
    show Except.ok (ExecutionResult.count (response.hits.map _).length) = _
    rw [List.length_map]
    rfl
  | grouped => simp only [conclude, decodeGroups_select hresolve hplain]
  | _ => simp only [conclude, SearchResponse.mapSources, decodeHits_select hresolve hplain]

/-- A query that selects a property gets the records that the query without the selection makes of
the values in its field. -/
theorem execute_select_eq (hresolve : r.resolve property = .ok field) (hplain : field.IsPlain)
    (shape : ResultShape) :
    (Executor.mk settings s.transport r).execute transcoder (q.select property) shape =
      (Executor.mk settings s.transport r).execute (fun doc => transcoder (valueAt field.name doc))
        { q with projection := none } shape := by
  by_cases hshape : shape = .count
  · subst hshape
    rfl
  · rw [execute_store _ _ hshape, execute_store _ _ hshape, search_store, search_store,
      Query.select, settings.searchRequest_projection (projectionField_select hresolve)]
    cases hrequest : settings.searchRequest r { q with projection := none } shape with
    | error cause => rfl
    | ok request =>
      have hsource := Settings.source_of_searchRequest hrequest
      show ((s.search { request with source := some [field.name] }).mapError _ >>= _) =
        ((s.search request).mapError _ >>= _)
      rw [Store.search_withSource hsource]
      cases s.search request with
      | error cause => rfl
      | ok response => exact conclude_select hresolve hplain shape response

end Executor

/-! ## Records that are changed -/

variable {α β : Type}

/-- A group with its members changed. -/
def Grouping.map (f : α → β) (g : Grouping α) : Grouping β :=
  ⟨g.key, g.members.map f⟩

/-- A result with its records changed. -/
def ExecutionResult.map (f : α → β) : ExecutionResult α → ExecutionResult β
  | collection records => .collection (records.map f)
  | single record => .single (record.map f)
  | count n => .count n
  | grouped groups => .grouped (groups.map (Grouping.map f))

namespace Executor

variable {settings : Settings} {s : Store} {r : Resolver} {q : Query} (f : α → β)
  (transcoder : Transcoder α)

theorem mapM_map_eq {ε γ : Type} (g : γ → Except ε α) (xs : List γ) :
    (xs.mapM fun x => f <$> g x) = List.map f <$> xs.mapM g := by
  induction xs with
  | nil => rfl
  | cons x xs ih =>
    rw [List.mapM_cons, List.mapM_cons, ih]
    cases g x with
    | error cause => rfl
    | ok y => cases xs.mapM g <;> rfl

theorem decodeRecord_map (raw : Json) :
    decodeRecord (fun doc => f <$> transcoder doc) raw = f <$> decodeRecord transcoder raw := by
  simp only [decodeRecord]
  cases transcoder raw <;> rfl

theorem decodeHits_map (hits : List Hit) :
    decodeHits r (fun doc => f <$> transcoder doc) q hits =
      List.map f <$> decodeHits r transcoder q hits := by
  unfold decodeHits
  simp only [decodeRecord_map]
  cases liftQuery (projectionField r q) with
  | error cause => rfl
  | ok field => cases field <;> exact mapM_map_eq f _ hits

theorem decodeGroups_map (response : SearchResponse) :
    decodeGroups r (fun doc => f <$> transcoder doc) q response =
      List.map (Grouping.map f) <$> decodeGroups r transcoder q response := by
  unfold decodeGroups
  cases response.aggregation with
  | none => rfl
  | some composite =>
    simp only [decodeHits_map]
    rw [← mapM_map_eq]
    congr 1
    funext bucket
    cases decodeHits r transcoder q (bucket.hits.getD []) <;> rfl

theorem conclude_map (shape : ResultShape) (response : SearchResponse) :
    conclude r (fun doc => f <$> transcoder doc) q shape response =
      ExecutionResult.map f <$> conclude r transcoder q shape response := by
  cases shape with
  | count => rfl
  | grouped =>
    simp only [conclude, decodeGroups_map]
    cases decodeGroups r transcoder q response <;> rfl
  | collection =>
    simp only [conclude, decodeHits_map]
    cases decodeHits r transcoder q response.hits <;> rfl
  | single allowEmpty =>
    simp only [conclude, decodeHits_map]
    cases decodeHits r transcoder q response.hits with
    | error cause => rfl
    | ok records =>
      rcases records with - | ⟨only, - | ⟨second, rest⟩⟩
      · cases allowEmpty <;> rfl
      · rfl
      · show Except.error
          (ExecutionError.multipleResults ((only :: second :: rest).map f).length) = _
        rw [List.length_map]
        rfl
  | first allowEmpty =>
    simp only [conclude, decodeHits_map]
    cases decodeHits r transcoder q response.hits with
    | error cause => rfl
    | ok records =>
      cases records with
      | nil => cases allowEmpty <;> rfl
      | cons record rest => rfl

/-- Records that are made in two steps are those of the first step, changed by the second one. -/
theorem execute_map (shape : ResultShape) :
    (Executor.mk settings s.transport r).execute (fun doc => f <$> transcoder doc) q shape =
      (ExecutionResult.map f <$> (Executor.mk settings s.transport r).execute transcoder q shape :
        Except ExecutionError (ExecutionResult β)) := by
  by_cases hshape : shape = .count
  · subst hshape
    show Except.map _ ((Executor.mk settings s.transport r).countMatches q) =
      _ <$> Except.map _ ((Executor.mk settings s.transport r).countMatches q)
    cases hcount : (Executor.mk settings s.transport r).countMatches q <;> rfl
  · rw [execute_store _ _ hshape, execute_store _ _ hshape]
    cases (Executor.mk settings s.transport r).search q shape with
    | error cause => rfl
    | ok response => exact conclude_map f transcoder shape response

end Executor

/-! ## Main theorem -/

/-- Selecting a property is the last thing that happens to a result: the query without the selection
has the same result but for its records, which are whole documents instead of their values in the
field of the property. -/
theorem select_comes_last {settings : Settings} {s : Store} {r : Resolver} {property : String}
    {field : ResolvedField} (hresolve : r.resolve property = .ok field) (hplain : field.IsPlain)
    (q : Query) (shape : ResultShape) :
    (Executor.mk settings s.transport r).execute Transcoder.json (q.select property) shape =
      (ExecutionResult.map (valueAt field.name) <$> (Executor.mk settings s.transport r).execute
        Transcoder.json { q with projection := none } shape :
          Except ExecutionError (ExecutionResult Json)) := by
  rw [Executor.execute_select_eq hresolve hplain]
  exact Executor.execute_map (valueAt field.name) Transcoder.json shape

/-- Teams are found inside objects only, in the whole result as well as in the members of groups. -/
theorem select_comes_last_ticket :
    let doc (author : Json) := Json.object [("by", author), ("done", .bool true)]
    let docs := [doc (.object [("team", .string "red")]), doc (.string "red"), .int 1]
    let s : Store := ⟨[("tickets", docs)]⟩
    let e := Executor.mk { index := "tickets" } s.transport teamIndex.resolver
    let q : Query := { groupKeys := ["Done"] }
    e.execute Transcoder.json (q.select "Team") .collection =
        .ok (.collection [.string "red", .null, .null]) ∧
      e.execute Transcoder.json (q.select "Team") .grouped =
        .ok (.grouped [⟨[("Done", .bool true)], [.string "red", .null]⟩]) := by
  intro doc docs s e q
  have hresolve : e.resolver.resolve "Team" = .ok ⟨"by.team", .text⟩ := by rfl
  have hplain : ResolvedField.IsPlain ⟨"by.team", .text⟩ :=
    ResolvedField.isPlain_iff.2 (by decide)
  constructor
  · rw [select_comes_last hresolve hplain]
    rfl
  · rw [select_comes_last hresolve hplain]
    rfl

end DocQuery
