import DocQuery.Execution.Executor
import DocQuery.Proofs.Document.Matching
import DocQuery.Proofs.Outcome

/-
  What the answer to a query depends on.
  A store looks at the clauses of a query through the documents they match only. Queries that differ
  in nothing but clauses that match the same documents get the same answers
  (`sameAnswers_of_allMatch`).
-/

namespace DocQuery

open Document

theorem Query.isMatch_toClause (q : Query) (doc : Json) :
    isMatch doc q.toClause = allMatch doc q.clauses := by
  unfold Query.toClause
  split
  · next h => simp [List.isEmpty_iff.1 h]
  · simp

namespace Store

variable {s : Store} {c d : Clause}

theorem matching_congr (h : ∀ doc, isMatch doc c = isMatch doc d) (index : String) :
    s.matching index c = s.matching index d := by
  unfold matching
  simp only [h]

theorem search_congr (h : ∀ doc, isMatch doc c = isMatch doc d) (request : SearchRequest) :
    s.search { request with query := c } = s.search { request with query := d } := by
  unfold search
  simp only [matching_congr h]

theorem count_congr (h : ∀ doc, isMatch doc c = isMatch doc d) (index : String) :
    s.count ⟨index, c⟩ = s.count ⟨index, d⟩ := by
  unfold count
  simp only [matching_congr h]

end Store

/-- The clauses of a query make the filter of its request and decide on nothing else in it. -/
theorem Settings.searchRequest_clauses (settings : Settings) (r : Resolver) (q : Query)
    (cs : List Clause) (shape : ResultShape) :
    settings.searchRequest r { q with clauses := cs } shape = do
      return { ← settings.searchRequest r q shape with
        query := Query.toClause { q with clauses := cs } } := by
  unfold Settings.searchRequest
  have hfield : projectionField r { q with clauses := cs } = projectionField r q := rfl
  rw [hfield]
  cases sortFields r q.sortKeys with
  | error cause => rfl
  | ok sort =>
    cases projectionField r q with
    | error cause => rfl
    | ok field =>
      simp only [ok_bind]
      split
      · split
        · rfl
        · cases compositeSources r q.groupKeys with
          | error cause => rfl
          | ok sources => rfl
      · rfl

/-- The result of a response depends on the projection and the group keys of a query only. -/
theorem Executor.conclude_clauses {α : Type} (r : Resolver) (transcoder : Transcoder α) (q : Query)
    (cs : List Clause) (shape : ResultShape) (response : SearchResponse) :
    conclude r transcoder { q with clauses := cs } shape response =
      conclude r transcoder q shape response := by
  cases shape <;> rfl

/-- Two queries that get the same answers: the same result or the same error for every shape, from
every store and under all settings. -/
def SameAnswers (r : Resolver) (a b : Query) : Prop :=
  ∀ (α : Type) (settings : Settings) (s : Store) (transcoder : Transcoder α) (shape : ResultShape),
    (Executor.mk settings s.transport r).execute transcoder a shape =
      (Executor.mk settings s.transport r).execute transcoder b shape

theorem toClause_congr {q : Query} {cs : List Clause}
    (h : ∀ doc, allMatch doc cs = allMatch doc q.clauses) (doc : Json) :
    isMatch doc (Query.toClause { q with clauses := cs }) = isMatch doc q.toClause := by
  rw [Query.isMatch_toClause, Query.isMatch_toClause]
  exact h doc

/-! ## Executors over a store -/

/-- What an execution makes of the refusal of a store. -/
def StoreError.toExecutionError (e : StoreError) : ExecutionError :=
  .transport [e.message]

namespace Executor

variable {settings : Settings} {s : Store} {r : Resolver}

theorem search_store (q : Query) (shape : ResultShape) :
    (Executor.mk settings s.transport r).search q shape =
      ((settings.searchRequest r q shape).mapError ExecutionError.query >>= fun request =>
        (s.search request).mapError StoreError.toExecutionError :
          Except ExecutionError SearchResponse) := by
  unfold search
  cases settings.searchRequest r q shape with
  | error cause => rfl
  | ok request =>
    show ((s.search request).mapError _).mapError _ = (s.search request).mapError _
    cases s.search request <;> rfl

theorem countMatches_store (q : Query) :
    (Executor.mk settings s.transport r).countMatches q =
      (s.count (settings.countRequest q)).mapError StoreError.toExecutionError := by
  show ((s.count (settings.countRequest q)).mapError _).mapError _ = _
  cases s.count (settings.countRequest q) <;> rfl

/-- Every shape but a number is made of the response to one request. -/
theorem execute_store {α : Type} (transcoder : Transcoder α) (q : Query) {shape : ResultShape}
    (hshape : shape ≠ .count) :
    (Executor.mk settings s.transport r).execute transcoder q shape =
      ((Executor.mk settings s.transport r).search q shape >>= conclude r transcoder q shape :
        Except ExecutionError (ExecutionResult α)) := by
  cases hsearch : (Executor.mk settings s.transport r).search q shape with
  | error cause =>
    cases shape with
    | count => exact absurd rfl hshape
    | _ => simp only [execute, hsearch]; rfl
  | ok response =>
    cases shape with
    | count => exact absurd rfl hshape
    | _ => simp only [execute, hsearch]; rfl

theorem execute_eq_ok {α : Type} {transcoder : Transcoder α} {q : Query} {shape : ResultShape}
    {result : ExecutionResult α} (hshape : shape ≠ .count) :
    (Executor.mk settings s.transport r).execute transcoder q shape = .ok result ↔
      ∃ request response, settings.searchRequest r q shape = .ok request ∧
        s.search request = .ok response ∧ conclude r transcoder q shape response = .ok result := by
  rw [execute_store transcoder q hshape, search_store]
  constructor
  · intro h
    obtain ⟨response, hresponse, hresult⟩ := bind_eq_ok.1 h
    obtain ⟨request, hrequest, hsearch⟩ := bind_eq_ok.1 hresponse
    exact ⟨request, response, mapError_eq_ok.1 hrequest, mapError_eq_ok.1 hsearch, hresult⟩
  · rintro ⟨request, response, hrequest, hsearch, hresult⟩
    refine bind_eq_ok.2 ⟨response, bind_eq_ok.2 ⟨request, ?_, ?_⟩, hresult⟩
    · exact mapError_eq_ok.2 hrequest
    · exact mapError_eq_ok.2 hsearch

theorem search_clauses {q : Query} {cs : List Clause}
    (h : ∀ doc, allMatch doc cs = allMatch doc q.clauses) (shape : ResultShape) :
    (Executor.mk settings s.transport r).search { q with clauses := cs } shape =
      (Executor.mk settings s.transport r).search q shape := by
  rw [search_store, search_store, settings.searchRequest_clauses r q cs,
    settings.searchRequest_clauses r q q.clauses]
  cases settings.searchRequest r q shape with
  | error cause => rfl
  | ok request =>
    show (s.search _).mapError _ = (s.search _).mapError _
    rw [Store.search_congr (toClause_congr h) request]

theorem countMatches_clauses {q : Query} {cs : List Clause}
    (h : ∀ doc, allMatch doc cs = allMatch doc q.clauses) :
    (Executor.mk settings s.transport r).countMatches { q with clauses := cs } =
      (Executor.mk settings s.transport r).countMatches q := by
  rw [countMatches_store, countMatches_store, Settings.countRequest, Settings.countRequest,
    Store.count_congr (toClause_congr h)]

end Executor

/-- Clauses that match the same documents make no difference to any answer. -/
theorem sameAnswers_of_allMatch {r : Resolver} {q : Query} {cs : List Clause}
    (h : ∀ doc, allMatch doc cs = allMatch doc q.clauses) :
    SameAnswers r { q with clauses := cs } q := by
  intro α settings s transcoder shape
  cases shape with
  | count =>
    simp only [Executor.execute]
    rw [Executor.countMatches_clauses h]
  | _ =>
    simp only [Executor.execute]
    rw [Executor.search_clauses h]
    simp only [Executor.conclude_clauses]

end DocQuery
