import DocQuery.Proofs.Document.Comparing
import DocQuery.Proofs.Execution.Answer
import DocQuery.Proofs.Execution.Records
import DocQuery.Proofs.Store.Search

/-
  The whole result of a query.
  A query whose properties resolve gets the records of its matches, sorted and cut to its page
  (`execute_collection`). Where the values of the sort keys compare, the matches are in the order of
  their stable sort (`sortDocuments_matchesIn`).
-/

namespace DocQuery

open Document

/-- The documents of an index that a query matches, with their positions. -/
def Query.matchesIn (q : Query) (docs : List Json) : Positioned :=
  (Store.positioned docs).filter fun d => allMatch d.2 q.clauses

/-- Whether a document of an index is matched by a query. -/
def Query.Finds (q : Query) (docs : List Json) (doc : Json) : Prop :=
  doc ∈ docs ∧ allMatch doc q.clauses = true

namespace Query

variable {q : Query} {docs : List Json} {keys : List SortField}

theorem finds_of_mem {d : Nat × Json} (h : d ∈ q.matchesIn docs) : q.Finds docs d.2 := by
  obtain ⟨hmem, hmatch⟩ := List.mem_filter.1 h
  exact ⟨Store.mem_of_mem_positioned hmem, hmatch⟩

theorem matchesIn_pairwise (q : Query) (docs : List Json) :
    (q.matchesIn docs).Pairwise fun a b => a.1 < b.1 :=
  (Store.positioned_pairwise docs).filter _

theorem length_matchesIn (q : Query) (docs : List Json) :
    (q.matchesIn docs).length = docs.countP fun doc => allMatch doc q.clauses := by
  have h := Store.length_matches docs q.toClause
  simp only [isMatch_toClause] at h
  exact h

theorem sortedMatches_eq (q : Query) (docs : List Json) (request : SearchRequest)
    (hquery : request.query = q.toClause) :
    Store.sortedMatches docs request = sortDocuments request.sort (q.matchesIn docs) := by
  simp only [Store.sortedMatches, matchesIn, hquery, isMatch_toClause]

/-- Where the first values that an index has in a field lie on one scale, those of its matches
do. -/
theorem comparableIn_finds {field : String} (scale : Scale)
    (h : (docs.all fun doc => (firstValue? doc field).all fun v => v.scale? == some scale) = true) :
    ComparableIn field (q.Finds docs) :=
  (comparableIn_of_all scale h).mono fun _ hd => hd.1

/-- Matches whose sort values compare are in the order of their stable sort. -/
theorem sortDocuments_matchesIn (h : ∀ key ∈ keys, ComparableIn key.field (q.Finds docs)) :
    IsStableSort keys (q.matchesIn docs) (sortDocuments keys (q.matchesIn docs)) :=
  sortDocuments_isStableSort (compareDocuments_isOrderOn fun key hkey => (h key hkey).isOrderOn)
    (fun _ hd => finds_of_mem hd)
    (q.matchesIn_pairwise docs)

end Query

section

variable {settings : Settings} {s : Store} {r : Resolver} {q : Query} {docs : List Json}
  {keys : List SortField} {field : Option String}

theorem Settings.searchRequest_collection (hsort : sortFields r q.sortKeys = .ok keys)
    (hfield : projectionField r q = .ok field) :
    settings.searchRequest r q .collection = .ok {
      index := settings.index, query := q.toClause, start := q.offset
      size := q.pageSize settings.maxResultWindow, sort := keys
      source := field.map fun name => [name] } := by
  rw [searchRequest, hsort, hfield]
  rfl

/-- The whole result has the records of the sorted matches on the page of the query. -/
theorem Executor.execute_collection (hdocs : s.indexes.lookup settings.index = some docs)
    (hsort : sortFields r q.sortKeys = .ok keys) (hfield : projectionField r q = .ok field) :
    (Executor.mk settings s.transport r).execute Transcoder.json q .collection =
      .ok (.collection ((((sortDocuments keys (q.matchesIn docs)).drop (q.offset.getD 0)).take
        (q.pageSize settings.maxResultWindow)).map fun d => recordOf field d.2)) := by
  have hrequest := settings.searchRequest_collection hsort hfield
  refine (execute_eq_ok (by simp)).2 ⟨_, _, hrequest, Store.search_of_lookup hdocs, ?_⟩
  rw [q.sortedMatches_eq docs _ rfl, conclude, decodeHits_toHit hfield]
  rfl

/-- The number of a query is that of the documents its clauses match. -/
theorem Executor.execute_count {α : Type} {transcoder : Transcoder α}
    (hdocs : s.indexes.lookup settings.index = some docs) :
    (Executor.mk settings s.transport r).execute transcoder q .count =
      .ok (.count (docs.countP fun doc => allMatch doc q.clauses)) := by
  have hcount := Store.count_of_lookup (s := s) (r := settings.countRequest q) hdocs
  simp only [execute]
  rw [countMatches_store, hcount]
  simp only [Settings.countRequest, Query.isMatch_toClause]
  rfl

end

end DocQuery
