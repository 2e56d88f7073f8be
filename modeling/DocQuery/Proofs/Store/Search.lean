import DocQuery.Proofs.Document.Sorting
import DocQuery.Proofs.Outcome
import DocQuery.Store

/-
  Answers of a store.
  A store answers from the documents of one index that match, in the order of the request
  (`search_of_lookup`); a number is that of the matches (`count_of_lookup`).
-/

namespace DocQuery.Store

open Document

/-- The positions of documents ascend. -/
theorem positioned_pairwise (docs : List Json) :
    (positioned docs).Pairwise fun a b => a.1 < b.1 := by
  have hpositions : (docs.zipIdx.map Prod.snd).Pairwise (· < ·) := by
    rw [List.zipIdx_map_snd]
    exact List.pairwise_lt_range'
  rw [List.pairwise_map] at hpositions
  exact hpositions.map _ fun _ _ h => h

theorem mem_of_mem_positioned {docs : List Json} {d : Nat × Json} (h : d ∈ positioned docs) :
    d.2 ∈ docs := by
  obtain ⟨e, he, rfl⟩ := List.mem_map.1 h
  exact List.fst_mem_of_mem_zipIdx he

/-- The documents of an index that match, in the order of the request. -/
def sortedMatches (docs : List Json) (request : SearchRequest) : Positioned :=
  sortDocuments request.sort ((positioned docs).filter fun d => isMatch d.2 request.query)

theorem length_matches (docs : List Json) (query : Clause) :
    ((positioned docs).filter fun d => isMatch d.2 query).length =
      docs.countP fun doc => isMatch doc query := by
  have hdocs : docs = (docs.zipIdx).map Prod.fst := (List.zipIdx_map_fst 0 docs).symm
  rw [← List.countP_eq_length_filter, positioned, List.countP_map]
  conv => rhs; rw [hdocs, List.countP_map]
  rfl

theorem length_sortedMatches (docs : List Json) (request : SearchRequest) :
    (sortedMatches docs request).length = docs.countP fun doc => isMatch doc request.query := by
  rw [sortedMatches, (sortDocuments_perm _ _).length_eq, length_matches]

variable {s : Store} {request : SearchRequest} {response : SearchResponse} {docs : List Json}

theorem lookup_of_search (h : s.search request = .ok response) :
    ∃ docs, s.indexes.lookup request.index = some docs := by
  simp only [search, matching] at h
  split at h
  · cases h
  · next docs hdocs => exact ⟨docs, hdocs⟩

/-- The hits of a response are cut out of the sorted matches, and its groups are made of them. -/
theorem search_of_lookup (h : s.indexes.lookup request.index = some docs) :
    s.search request = .ok {
      hits := (((sortedMatches docs request).drop (request.start.getD 0)).take request.size).map
        (toHit request.source)
      aggregation := request.aggregation.map fun a =>
        aggregate a request.source (sortedMatches docs request) } := by
  rw [search, matching, h]
  rfl

theorem hits_of_search (h : s.search request = .ok response) :
    ∃ docs, s.indexes.lookup request.index = some docs ∧
      response.hits = (((sortedMatches docs request).drop (request.start.getD 0)).take
        request.size).map (toHit request.source) := by
  obtain ⟨docs, hdocs⟩ := lookup_of_search h
  rw [search_of_lookup hdocs] at h
  cases h
  exact ⟨docs, hdocs, rfl⟩

/-- A smaller page has the first hits of a larger one. -/
theorem search_smaller (h : s.search request = .ok response) (n : Nat) :
    s.search { request with size := min request.size n } =
      .ok { response with hits := response.hits.take n } := by
  obtain ⟨docs, hdocs⟩ := lookup_of_search h
  rw [search_of_lookup hdocs] at h
  cases h
  have hsmaller : s.indexes.lookup { request with size := min request.size n }.index = some docs :=
    hdocs
  rw [search_of_lookup hsmaller]
  simp only [← List.map_take, List.take_take, Nat.min_comm n]
  rfl

theorem count_of_lookup {r : CountRequest} (h : s.indexes.lookup r.index = some docs) :
    s.count r = .ok (docs.countP fun doc => isMatch doc r.query) := by
  rw [count, matching, h, ← length_matches]
  rfl

end DocQuery.Store
