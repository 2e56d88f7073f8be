import DocQuery.Proofs.Compilation.Conjunction
import DocQuery.Proofs.Execution.Collection

/-
  Reading a result page by page.
  A client that asks for one page after the other until a page is empty gets every match once, in
  the order of one stable sort of all matches (`pages_tile`). All pages are cut out of the same
  sorted list, so ties and missing values move nothing from one page to another.
-/

namespace DocQuery

open Document

/-- A page of a query, counted from zero. -/
def Query.page (q : Query) (size n : Nat) : Query :=
  (q.skip (n * size)).take size

/-- What a client gets that reads the pages of a query from some page on, up to the first empty
one. -/
inductive ReadsPages {α : Type} (e : Executor Id) (transcoder : Transcoder α) (q : Query)
    (size : Nat) : Nat → List (List α) → Prop where
  | done {n : Nat} :
    e.execute transcoder (q.page size n) .collection = .ok (.collection []) →
    ReadsPages e transcoder q size n []
  | next {n : Nat} {records : List α} {pages : List (List α)} :
    e.execute transcoder (q.page size n) .collection = .ok (.collection records) →
    records ≠ [] → ReadsPages e transcoder q size (n + 1) pages →
    ReadsPages e transcoder q size n (records :: pages)

namespace ReadsPages

variable {α : Type} {e : Executor Id} {transcoder : Transcoder α} {q : Query} {size n : Nat}

/-- The pages a client gets are settled. -/
theorem unique {pages pages' : List (List α)} (h : ReadsPages e transcoder q size n pages)
    (h' : ReadsPages e transcoder q size n pages') : pages = pages' := by
  induction h generalizing pages' with
  | done hpage =>
    cases h' with
    | done => rfl
    | next hpage' hne =>
      rw [hpage] at hpage'
      cases hpage'
      exact absurd rfl hne
  | next hpage hne _ ih =>
    cases h' with
    | done hpage' =>
      rw [hpage] at hpage'
      cases hpage'
      exact absurd rfl hne
    | next hpage' _ hrest =>
      rw [hpage] at hpage'
      cases hpage'
      rw [ih hrest]

/-- Where the pages are the pieces of one list, the client gets the list, in pieces that are full up
to the last one. -/
theorem exists_of_pieces {records : List α} (hsize : 0 < size)
    (hpage : ∀ n, e.execute transcoder (q.page size n) .collection =
      .ok (.collection ((records.drop (n * size)).take size))) (n : Nat) :
    ∃ pages, ReadsPages e transcoder q size n pages ∧ pages.flatten = records.drop (n * size) ∧
      (pages ≠ [] → n * size < records.length) ∧ ∀ page ∈ pages.dropLast, page.length = size := by
  -- the records that are left become fewer with every page
  induction hleft : records.length - n * size using Nat.strongRecOn generalizing n with
  | _ left ih =>
  rcases Nat.lt_or_ge (n * size) records.length with hlt | hge
  · have hnext : (n + 1) * size = n * size + size := Nat.succ_mul n size
    obtain ⟨pages, hpages, hflatten, hmore, hfull⟩ := ih _ (by omega) (n + 1) rfl
    have hlength : ((records.drop (n * size)).take size).length =
        min size (records.length - n * size) := by
      rw [List.length_take, List.length_drop]
    have hne : (records.drop (n * size)).take size ≠ [] := by
      intro hnil
      rw [hnil, List.length_nil] at hlength
      omega
    refine ⟨_ :: pages, .next (hpage n) hne hpages, ?_, fun _ => hlt, ?_⟩
    · rw [List.flatten_cons, hflatten, hnext, ← List.drop_drop, List.take_append_drop]
    · cases pages with
      | nil => simp
      | cons page rest =>
        have hfollows := hmore (by simp)
        rw [List.dropLast_cons_of_ne_nil (by simp), List.forall_mem_cons]
        refine ⟨?_, hfull⟩
        rw [hlength]
        omega
  · have hnil : records.drop (n * size) = [] := List.drop_eq_nil_of_le hge
    have hdone := hpage n
    rw [hnil, List.take_nil] at hdone
    exact ⟨[], .done hdone, by rw [hnil]; rfl, by simp, by simp⟩

end ReadsPages

/-- Where the sort keys resolve and the values they sort by compare, the pages of any size that a
client reads have the records of all matches, every match once and in the order of one stable sort
of them all. There are as many as the query counts, and only the last page may be shorter than the
others. -/
theorem pages_tile {settings : Settings} {s : Store} {r : Resolver} {q : Query}
    {docs : List Json} {keys : List SortField} {field : Option String} {size : Nat}
    (hdocs : s.indexes.lookup settings.index = some docs)
    (hsort : sortFields r q.sortKeys = .ok keys) (hfield : projectionField r q = .ok field)
    (hcomparable : ∀ key ∈ keys, ComparableIn key.field (q.Finds docs)) (hsize : 0 < size) :
    ∃ sorted pages, IsStableSort keys (q.matchesIn docs) sorted ∧
      (∀ pages', ReadsPages (Executor.mk settings s.transport r) Transcoder.json q size 0 pages' ↔
        pages' = pages) ∧
      pages.flatten = sorted.map (fun d => Executor.recordOf field d.2) ∧
      (Executor.mk settings s.transport r).execute Transcoder.json q .count =
        .ok (.count pages.flatten.length) ∧
      ∀ page ∈ pages.dropLast, page.length = size := by
  have hstable := Query.sortDocuments_matchesIn hcomparable
  have hpage : ∀ n, (Executor.mk settings s.transport r).execute Transcoder.json (q.page size n)
      .collection = .ok (.collection ((((sortDocuments keys (q.matchesIn docs)).map
        fun d => Executor.recordOf field d.2).drop (n * size)).take size)) := by
    intro n
    rw [Executor.execute_collection (q := q.page size n) hdocs hsort hfield, ← List.map_drop,
      ← List.map_take]
    rfl
  obtain ⟨pages, hreads, hflatten, -, hfull⟩ := ReadsPages.exists_of_pieces hsize hpage 0
  rw [Nat.zero_mul, List.drop_zero] at hflatten
  refine ⟨_, pages, hstable, fun pages' => ⟨fun h => h.unique hreads, fun h => h ▸ hreads⟩,
    hflatten, ?_, hfull⟩
  rw [Executor.execute_count hdocs, hflatten, List.length_map, hstable.perm.length_eq,
    q.length_matchesIn docs]

/-- Two of the three tickets that match tie, one of them on the first page and one on the second. -/
theorem pages_tile_ticket :
    let doc (id : String) (urgent : Bool) :=
      Json.object [("done", .bool true), ("id", .string id), ("urgent", .bool urgent)]
    let docs := [doc "a" true, doc "b" false, .object [("done", .bool false)], doc "c" true]
    let s : Store := ⟨[("tickets", docs)]⟩
    let e := Executor.mk { index := "tickets" } s.transport ticketIndex.resolver
    let q : Query := {
      clauses := [.allOf [.term "done" (.bool true)]]
      sortKeys := [⟨"Urgent", .asc⟩] }
    let pages := [[doc "b" false, doc "a" true], [doc "c" true]]
    ReadsPages e Transcoder.json q 2 0 pages ∧
      (∃ sorted, IsStableSort [⟨"urgent", .asc⟩] (q.matchesIn docs) sorted ∧
        pages.flatten = sorted.map Prod.snd) ∧
      e.execute Transcoder.json q .count = .ok (.count 3) := by
  intro doc docs s e q pages
  have hcomparable : ComparableIn "urgent" (q.Finds docs) :=
    Query.comparableIn_finds .truthValues rfl
  have hpages : ReadsPages e Transcoder.json q 2 0 pages :=
    .next rfl (by simp) (.next rfl (by simp) (.done rfl))
  have hsort : sortFields e.resolver q.sortKeys = .ok [⟨"urgent", .asc⟩] := by rfl
  have hdocs : s.indexes.lookup e.settings.index = some docs := by rfl
  obtain ⟨sorted, _, hstable, hreads, hflatten, hcount, -⟩ :=
    pages_tile hdocs hsort rfl (List.forall_mem_singleton.2 hcomparable) (by decide : 0 < 2)
  cases (hreads pages).1 hpages
  exact ⟨hpages, ⟨sorted, hstable, hflatten⟩, hcount⟩

end DocQuery
