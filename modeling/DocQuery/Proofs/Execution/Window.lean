import DocQuery.Proofs.Execution.Shapes

/-
  Requests and the window of results.
  A query without a limit asks for what its offset leaves of the window; a limit is taken as it is,
  so it alone decides whether a request stays inside the window (`within_window_iff`). A query for
  the only record sees a second one exactly if the window leaves room for two
  (`single_sees_more_iff`).
-/

namespace DocQuery

open Document

/-! ## The size of a request -/

theorem ResultShape.clamp_le (shape : ResultShape) (size : Nat) : shape.clamp size ≤ size := by
  cases shape with
  | single allowEmpty => exact Nat.min_le_left size 2
  | first allowEmpty => exact Nat.min_le_left size 1
  | _ => exact Nat.le_refl size

section

variable {settings : Settings} {r : Resolver} {q : Query} {shape : ResultShape}
  {request : SearchRequest}

theorem Settings.page_of_searchRequest (h : settings.searchRequest r q shape = .ok request) :
    request.start = (if shape = .grouped then none else q.offset) ∧
      request.size =
        if shape = .grouped then 0 else shape.clamp (q.pageSize settings.maxResultWindow) := by
  unfold Settings.searchRequest at h
  obtain ⟨sort, -, h⟩ := bind_eq_ok.1 h
  obtain ⟨field, -, h⟩ := bind_eq_ok.1 h
  split at h
  · next hgrouped =>
    split at h
    · cases h
    · obtain ⟨sources, -, h⟩ := bind_eq_ok.1 h
      cases pure_eq_ok.1 h
      rw [if_pos hgrouped, if_pos hgrouped]
      exact ⟨rfl, rfl⟩
  · next hgrouped =>
    cases pure_eq_ok.1 h
    rw [if_neg hgrouped, if_neg hgrouped]
    exact ⟨rfl, rfl⟩

theorem Query.pageSize_of_none (hlimit : q.limit = none) (window : Nat) :
    q.pageSize window = window - q.offset.getD 0 := by
  rw [pageSize, hlimit]
  rfl

theorem Query.pageSize_of_some {n : Nat} (hlimit : q.limit = some n) (window : Nat) :
    q.pageSize window = n := by
  rw [pageSize, hlimit]
  rfl

/-- The size of a request stays inside the window exactly if the query has no limit, or its limit
does once it is cut to what the shape can use; the documents of a grouped result come from its
groups, and its request asks for none. A request that starts inside the window ends there exactly if
the limit, cut in the same way, does not lead out of it. -/
theorem within_window_iff (h : settings.searchRequest r q shape = .ok request) :
    (request.size ≤ settings.maxResultWindow ↔
      shape = .grouped ∨ ∀ n, q.limit = some n → shape.clamp n ≤ settings.maxResultWindow) ∧
    ∀ start, request.start = some start → start ≤ settings.maxResultWindow →
      (start + request.size ≤ settings.maxResultWindow ↔
        ∀ n, q.limit = some n → start + shape.clamp n ≤ settings.maxResultWindow) := by
  obtain ⟨hstart, hsize⟩ := Settings.page_of_searchRequest h
  by_cases hgrouped : shape = .grouped
  · rw [if_pos hgrouped] at hstart hsize
    rw [hsize, hstart]
    exact ⟨⟨fun _ => .inl hgrouped, fun _ => Nat.zero_le _⟩, nofun⟩
  · rw [if_neg hgrouped] at hstart hsize
    rw [hsize, hstart]
    cases hlimit : q.limit with
    | none =>
      rw [Query.pageSize_of_none hlimit]
      have hclamp := shape.clamp_le (settings.maxResultWindow - q.offset.getD 0)
      refine ⟨⟨fun _ => .inr nofun, fun _ => by omega⟩, fun start hoffset hle => ?_⟩
      rw [hoffset, Option.getD_some] at hclamp ⊢
      exact ⟨fun _ => nofun, fun _ => by omega⟩
    | some n =>
      rw [Query.pageSize_of_some hlimit]
      simp [hgrouped]

end

/-- The first query has an offset and no limit; the limit of the second one is cut to what the first
record needs. -/
theorem within_window_ticket :
    let settings : Settings := { index := "tickets", maxResultWindow := 30 }
    let r := ticketIndex.resolver
    (∃ request, settings.searchRequest r { offset := some 20 } .collection = .ok request ∧
      20 + request.size ≤ 30) ∧
      ∃ request, settings.searchRequest r { limit := some 50 } (.first true) = .ok request ∧
        request.size ≤ 30 := by
  intro settings r
  refine ⟨⟨_, rfl, ?_⟩, _, rfl, ?_⟩
  · have h := @within_window_iff settings r { offset := some 20 } .collection _ rfl
    exact (h.2 20 rfl (by decide)).2 nofun
  · have h := @within_window_iff settings r { limit := some 50 } (.first true) _ rfl
    refine h.1.2 (.inr fun n hn => ?_)
    cases hn
    decide

/-- A limit that is larger than the window is asked for, also behind an offset. -/
theorem exceeds_window_ticket :
    let settings : Settings := { index := "tickets" }
    let q : Query := { offset := some 1, limit := some 10001 }
    settings.validate = .ok () ∧
      ∃ request, settings.searchRequest ticketIndex.resolver q .collection = .ok request ∧
        request.start = some 1 ∧ 1 ≤ settings.maxResultWindow ∧
        ¬ request.size ≤ settings.maxResultWindow ∧
        ¬ 1 + request.size ≤ settings.maxResultWindow := by
  refine ⟨rfl, _, rfl, rfl, ?_⟩
  decide

/-! ## A second record -/

section

variable {settings : Settings} {s : Store} {r : Resolver} {q : Query} {docs : List Json}
  {keys : List SortField} {field : Option String}

/-- A query for the only record looks at the records of the whole result. -/
theorem Executor.execute_single (hdocs : s.indexes.lookup settings.index = some docs)
    (hsort : sortFields r q.sortKeys = .ok keys) (hfield : projectionField r q = .ok field)
    (allowEmpty : Bool) :
    (Executor.mk settings s.transport r).execute Transcoder.json q (.single allowEmpty) =
      answerOnly allowEmpty ((((sortDocuments keys (q.matchesIn docs)).drop
        (q.offset.getD 0)).take (q.pageSize settings.maxResultWindow)).map
          fun d => recordOf field d.2) := by
  have hcollection : (Executor.mk settings s.transport r).execute Transcoder.json q .collection =
      .ok (.collection _) := execute_collection hdocs hsort hfield
  obtain ⟨request, response, hrequest, hsearch, hrecords⟩ := collection_eq_ok hcollection
  rw [execute_clamped hrequest hsearch (n := 2) (by simp) (by simp) rfl]
  exact conclude_only allowEmpty (decodeHits_take hrecords 2)

theorem length_sortDocuments_matchesIn (keys : List SortField) (q : Query) (docs : List Json) :
    (sortDocuments keys (q.matchesIn docs)).length =
      docs.countP fun doc => allMatch doc q.clauses := by
  rw [(sortDocuments_perm _ _).length_eq, q.length_matchesIn]

theorem finds_of_mem_sortDocuments {d : Nat × Json}
    (h : d ∈ sortDocuments keys (q.matchesIn docs)) : q.Finds docs d.2 :=
  Query.finds_of_mem ((sortDocuments_perm _ _).mem_iff.1 h)

end

section

variable {α : Type} {records : List α}

theorem answerOnly_of_many (allowEmpty : Bool) (h : 2 ≤ records.length) :
    answerOnly allowEmpty records = .error (.multipleResults 2) := by
  match records with
  | [] => simp at h
  | [record] => simp at h
  | _ :: _ :: _ => rfl

theorem answerOnly_of_one (allowEmpty : Bool) (h : records.length = 1) :
    ∃ record ∈ records, answerOnly allowEmpty records = .ok (.single (some record)) := by
  obtain ⟨record, rfl⟩ := List.length_eq_one_iff.1 h
  exact ⟨record, List.mem_singleton_self record, rfl⟩

theorem answerOnly_of_none (allowEmpty : Bool) (h : records.length = 0) :
    answerOnly allowEmpty records = answerNone allowEmpty := by
  rw [List.length_eq_zero_iff.1 h]
  rfl

theorem length_le_of_answerOnly_many {allowEmpty : Bool}
    (h : answerOnly allowEmpty records = .error (.multipleResults 2)) : 2 ≤ records.length := by
  match records with
  | [] => cases allowEmpty <;> cases h
  | [record] => cases h
  | _ :: _ :: rest => exact Nat.le_add_left 2 rest.length

end

/-- Where two matches or more are left behind the offset of a query without a limit, the query for
the only record fails because of them exactly if the window leaves room for two records behind the
offset. With room for one only it gives that one as if it were alone, and without any room it finds
nothing. -/
theorem single_sees_more_iff {settings : Settings} {s : Store} {r : Resolver} {q : Query}
    {docs : List Json} {keys : List SortField} {field : Option String}
    (hdocs : s.indexes.lookup settings.index = some docs)
    (hsort : sortFields r q.sortKeys = .ok keys) (hfield : projectionField r q = .ok field)
    (hlimit : q.limit = none)
    (hmany : q.offset.getD 0 + 2 ≤ docs.countP fun doc => allMatch doc q.clauses)
    (allowEmpty : Bool) :
    let answer := (Executor.mk settings s.transport r).execute Transcoder.json q
      (.single allowEmpty)
    (answer = .error (.multipleResults 2) ↔ q.offset.getD 0 + 2 ≤ settings.maxResultWindow) ∧
      (settings.maxResultWindow = q.offset.getD 0 + 1 → ∃ doc, q.Finds docs doc ∧
        answer = .ok (.single (some (Executor.recordOf field doc)))) ∧
      (settings.maxResultWindow ≤ q.offset.getD 0 → answer = answerNone allowEmpty) := by
  intro answer
  let offset := q.offset.getD 0
  let page := ((sortDocuments keys (q.matchesIn docs)).drop offset).take
    (settings.maxResultWindow - offset)
  let records := page.map fun d => Executor.recordOf field d.2
  have hanswer : answer = answerOnly allowEmpty records := by
    have h : answer = _ := Executor.execute_single hdocs hsort hfield allowEmpty
    rwa [Query.pageSize_of_none hlimit] at h
  have hlength : records.length = min (settings.maxResultWindow - offset)
      ((docs.countP fun doc => allMatch doc q.clauses) - offset) := by
    rw [List.length_map, List.length_take, List.length_drop, length_sortDocuments_matchesIn]
  rw [hanswer]
  refine ⟨⟨fun h => ?_, fun h => ?_⟩, fun h => ?_, fun h => ?_⟩
  · have hroom := length_le_of_answerOnly_many h
    omega
  · exact answerOnly_of_many allowEmpty (by omega)
  · have hone : records.length = 1 := by omega
    obtain ⟨record, hrecord, hgives⟩ := answerOnly_of_one allowEmpty hone
    obtain ⟨d, hd, rfl⟩ := List.mem_map.1 hrecord
    have hsorted := List.mem_of_mem_drop (List.mem_of_mem_take hd)
    exact ⟨d.2, finds_of_mem_sortDocuments hsorted, hgives⟩
  · exact answerOnly_of_none allowEmpty (by omega)

/-- Two of three tickets are left behind the offset; the window has room for both, for one, for
none. -/
theorem single_sees_more_ticket :
    let doc (urgent : Bool) := Json.object [("done", .bool true), ("urgent", .bool urgent)]
    let docs := [doc false, doc true, doc true]
    let s : Store := ⟨[("tickets", docs)]⟩
    let e (window : Nat) := Executor.mk { index := "tickets", maxResultWindow := window }
      s.transport ticketIndex.resolver
    let q : Query := { offset := some 1, sortKeys := [⟨"Urgent", .asc⟩] }
    (e 3).execute Transcoder.json q (.single false) = .error (.multipleResults 2) ∧
      (∃ d, q.Finds docs d ∧
        (e 2).execute Transcoder.json q (.single false) = .ok (.single (some d))) ∧
      (e 1).execute Transcoder.json q (.single false) = .error .notFound := by
  intro doc docs s e q
  have hsees (window : Nat) := @single_sees_more_iff (e window).settings s ticketIndex.resolver q
    docs _ _ rfl rfl rfl rfl (by decide) false
  exact ⟨(hsees 3).1.2 (by decide), (hsees 2).2.1 rfl, (hsees 1).2.2 (by decide)⟩

/-- A window of one record hides that a second one matches; the settings are valid. -/
theorem single_misses_ticket :
    let doc (done : Bool) := Json.object [("done", .bool done)]
    let s : Store := ⟨[("tickets", [doc true, doc false])]⟩
    let settings : Settings := { index := "tickets", maxResultWindow := 1 }
    settings.validate = .ok () ∧
      ([doc true, doc false].countP fun d => allMatch d ({} : Query).clauses) = 2 ∧
      (Executor.mk settings s.transport ticketIndex.resolver).execute Transcoder.json {}
        (.single false) = .ok (.single (some (doc true))) := by
  refine ⟨?_, ?_, ?_⟩
  · decide
  · decide
  · rfl

end DocQuery
