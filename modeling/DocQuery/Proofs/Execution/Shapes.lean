import DocQuery.Execution.Transcoder
import DocQuery.Proofs.Compilation.Conjunction
import DocQuery.Proofs.Execution.Collection

/-
  The shapes of one result.
  All shapes of a query but the grouped one look at the same sorted matches. The first record and
  the only record are those of the whole result, which has as many records as fit into the window,
  and the count is that of all matches (`shapes_agree`).
-/

namespace DocQuery

open Document

/-! ## Requests for a shape -/

/-- The requests for all shapes but the grouped one differ in their sizes only. -/
theorem Settings.searchRequest_ungrouped {settings : Settings} {r : Resolver} {q : Query}
    {request : SearchRequest} (h : settings.searchRequest r q .collection = .ok request) :
    request.index = settings.index ∧ request.query = q.toClause ∧ request.start = q.offset ∧
      request.size = q.pageSize settings.maxResultWindow ∧
      ∀ shape, shape ≠ .grouped → settings.searchRequest r q shape =
        .ok { request with size := shape.clamp request.size } := by
  unfold Settings.searchRequest at h ⊢
  obtain ⟨sort, hsort, h⟩ := bind_eq_ok.1 h
  obtain ⟨field, hfield, h⟩ := bind_eq_ok.1 h
  cases h
  refine ⟨rfl, rfl, rfl, rfl, fun shape hshape => ?_⟩
  simp only [hsort, hfield, ok_bind, if_neg hshape]
  rfl

/-! ## One result in several shapes -/

section

variable {α : Type} {settings : Settings} {s : Store} {r : Resolver} {transcoder : Transcoder α}
  {q : Query} {records : List α}

/-- What a query answers that may find no record. -/
def answerNone (allowEmpty : Bool) : Except ExecutionError (ExecutionResult α) :=
  if allowEmpty then .ok (.single none) else .error .notFound

/-- What a query for the first of some records answers. -/
def answerFirst (allowEmpty : Bool) : List α → Except ExecutionError (ExecutionResult α)
  | [] => answerNone allowEmpty
  | record :: _ => .ok (.single (some record))

/-- What a query for the only one of some records answers; it looks at two of them at most. -/
def answerOnly (allowEmpty : Bool) : List α → Except ExecutionError (ExecutionResult α)
  | [] => answerNone allowEmpty
  | [record] => .ok (.single (some record))
  | _ :: _ :: _ => .error (.multipleResults 2)

theorem conclude_first {response : SearchResponse} (allowEmpty : Bool)
    (h : Executor.decodeHits r transcoder q response.hits = .ok (records.take 1)) :
    Executor.conclude r transcoder q (.first allowEmpty) response =
      answerFirst allowEmpty records := by
  simp only [Executor.conclude, h, ok_bind]
  cases records with
  | nil => cases allowEmpty <;> rfl
  | cons record rest => rfl

theorem conclude_only {response : SearchResponse} (allowEmpty : Bool)
    (h : Executor.decodeHits r transcoder q response.hits = .ok (records.take 2)) :
    Executor.conclude r transcoder q (.single allowEmpty) response =
      answerOnly allowEmpty records := by
  simp only [Executor.conclude, h, ok_bind]
  cases records with
  | nil => cases allowEmpty <;> rfl
  | cons record rest => cases rest <;> rfl

/-- A whole result comes from one request, one response and one decoding of all hits. -/
theorem collection_eq_ok
    (h : (Executor.mk settings s.transport r).execute transcoder q .collection =
      .ok (.collection records)) :
    ∃ request response, settings.searchRequest r q .collection = .ok request ∧
      s.search request = .ok response ∧
      Executor.decodeHits r transcoder q response.hits = .ok records := by
  obtain ⟨request, response, hrequest, hsearch, hrecords⟩ :=
    (Executor.execute_eq_ok (by simp)).1 h
  obtain ⟨decoded, hdecoded, hresult⟩ := bind_eq_ok.1 hrecords
  cases pure_eq_ok.1 hresult
  exact ⟨request, response, hrequest, hsearch, hdecoded⟩

/-- A shape that looks at a number of records at most gets the response cut to this number. -/
theorem execute_clamped {request : SearchRequest} {response : SearchResponse}
    (hrequest : settings.searchRequest r q .collection = .ok request)
    (hsearch : s.search request = .ok response) {shape : ResultShape} {n : Nat}
    (hcount : shape ≠ .count) (hgrouped : shape ≠ .grouped)
    (hclamp : shape.clamp request.size = min request.size n) :
    (Executor.mk settings s.transport r).execute transcoder q shape =
      Executor.conclude r transcoder q shape { response with hits := response.hits.take n } := by
  have hshape := (Settings.searchRequest_ungrouped hrequest).2.2.2.2 shape hgrouped
  have hsmaller := Store.search_smaller hsearch n
  rw [Executor.execute_store transcoder q hcount, Executor.search_store, hshape, hclamp]
  show ((s.search _).mapError _ >>= _) = _
  rw [hsmaller]
  rfl

end

/-! ## Main theorem -/

/-- Where the whole result of a query is a list of records, its first record answers for the first
one and its only record for the single one, and more than one are too many. The number of a query is
that of the documents its clauses match, whatever else it says, and the whole result has those of
them that its offset leaves, up to its limit or else to the end of the window. -/
theorem shapes_agree {α : Type} {settings : Settings} {s : Store} {r : Resolver}
    {transcoder : Transcoder α} {q : Query} {records : List α}
    (h : (Executor.mk settings s.transport r).execute transcoder q .collection =
      .ok (.collection records)) :
    (∀ allowEmpty, (Executor.mk settings s.transport r).execute transcoder q (.first allowEmpty) =
      answerFirst allowEmpty records) ∧
    (∀ allowEmpty, (Executor.mk settings s.transport r).execute transcoder q (.single allowEmpty) =
      answerOnly allowEmpty records) ∧
    ∃ docs n, s.indexes.lookup settings.index = some docs ∧
      n = (docs.countP fun doc => allMatch doc q.clauses) ∧
      (∀ q' : Query, q'.clauses = q.clauses →
        (Executor.mk settings s.transport r).execute transcoder q' .count = .ok (.count n)) ∧
      records.length = min (q.limit.getD (settings.maxResultWindow - q.offset.getD 0))
        (n - min (q.offset.getD 0) n) := by
  obtain ⟨request, response, hrequest, hsearch, hrecords⟩ := collection_eq_ok h
  obtain ⟨hindex, hquery, hstart, hsize, -⟩ := Settings.searchRequest_ungrouped hrequest
  refine ⟨fun allowEmpty => ?_, fun allowEmpty => ?_, ?_⟩
  · rw [execute_clamped hrequest hsearch (n := 1) (by simp) (by simp) rfl]
    exact conclude_first allowEmpty (Executor.decodeHits_take hrecords 1)
  · rw [execute_clamped hrequest hsearch (n := 2) (by simp) (by simp) rfl]
    exact conclude_only allowEmpty (Executor.decodeHits_take hrecords 2)
  · obtain ⟨docs, hdocs, hhits⟩ := Store.hits_of_search hsearch
    rw [hindex] at hdocs
    refine ⟨docs, _, hdocs, rfl, fun q' hq' => ?_, ?_⟩
    · rw [Executor.execute_count hdocs, hq']
    · have hlength : (Store.sortedMatches docs request).length =
          docs.countP fun doc => allMatch doc q.clauses := by
        rw [Store.length_sortedMatches, hquery]
        simp only [Query.isMatch_toClause]
      rw [Executor.length_decodeHits hrecords, hhits, List.length_map, List.length_take,
        List.length_drop, hlength, hstart, hsize, Query.pageSize]
      omega

/-- Three tickets match, and the window ends behind the second one. -/
theorem shapes_agree_ticket :
    let doc (urgent : Bool) := Json.object [("done", .bool true), ("urgent", .bool urgent)]
    let s : Store := ⟨[("tickets", [doc false, doc true, doc true])]⟩
    let e := Executor.mk { index := "tickets", maxResultWindow := 2 } s.transport
      ticketIndex.resolver
    let q : Query := {
      clauses := [.allOf [.term "done" (.bool true)]]
      offset := some 1
      sortKeys := [⟨"Urgent", .asc⟩] }
    e.execute Transcoder.json q .collection = .ok (.collection [doc true]) ∧
      e.execute Transcoder.json q (.first false) = .ok (.single (some (doc true))) ∧
      e.execute Transcoder.json q (.single false) = .ok (.single (some (doc true))) ∧
      e.execute Transcoder.json q .count = .ok (.count 3) := by
  intro doc s e q
  have h : e.execute Transcoder.json q .collection = .ok (.collection [doc true]) := by rfl
  obtain ⟨hfirst, honly, docs, n, hdocs, rfl, hcount, -⟩ := shapes_agree h
  cases hdocs
  exact ⟨h, hfirst false, honly false, hcount q rfl⟩

end DocQuery
