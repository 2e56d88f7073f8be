import Mathlib.Data.List.Forall2
import DocQuery.Execution.Executor
import DocQuery.Execution.Transcoder
import DocQuery.Proofs.Outcome

/-
  Records of hits.
  Every hit gives one record, so the records of a part of the hits are that part of the records.
-/

namespace DocQuery

/-- A list of steps succeeds exactly when every step does. -/
theorem mapM_eq_ok_iff {ε α β : Type} {f : α → Except ε β} {xs : List α} {ys : List β} :
    xs.mapM f = .ok ys ↔ List.Forall₂ (fun x y => f x = .ok y) xs ys := by
  induction xs generalizing ys with
  | nil => rw [List.mapM_nil, pure_eq_ok, List.forall₂_nil_left_iff, eq_comm]
  | cons x xs ih =>
    rw [List.mapM_cons, List.forall₂_cons_left_iff]
    simp only [bind_eq_ok, pure_eq_ok, ih]
    constructor
    · rintro ⟨y, hy, ys, hys, rfl⟩
      exact ⟨y, ys, hy, hys, rfl⟩
    · rintro ⟨y, ys, hy, hys, rfl⟩
      exact ⟨y, hy, ys, hys, rfl⟩

/-- Every result of a list of steps is that of one of the steps. -/
theorem exists_of_mapM {ε α β : Type} {f : α → Except ε β} {xs : List α} {ys : List β}
    (h : xs.mapM f = .ok ys) {y : β} (hy : y ∈ ys) : ∃ x ∈ xs, f x = .ok y := by
  rw [mapM_eq_ok_iff] at h
  induction h with
  | nil => cases hy
  | @cons x z xs zs hx _ ih =>
    rcases List.mem_cons.1 hy with rfl | hy
    · exact ⟨x, List.mem_cons_self, hx⟩
    · obtain ⟨x', hx', hfx'⟩ := ih hy
      exact ⟨x', List.mem_cons_of_mem x hx', hfx'⟩

namespace Executor

variable {α : Type} {r : Resolver} {transcoder : Transcoder α} {q : Query} {hits : List Hit}
  {records : List α}

/-- A query makes its records hit by hit, all in the same way. -/
theorem decodeHits_eq_ok (h : decodeHits r transcoder q hits = .ok records) :
    ∃ decode : Hit → Except ExecutionError α,
      (∀ hits, decodeHits r transcoder q hits = hits.mapM decode) ∧
      List.Forall₂ (fun hit record => decode hit = .ok record) hits records := by
  unfold decodeHits at h ⊢
  cases hfield : liftQuery (projectionField r q) with
  | error cause =>
    rw [hfield] at h
    cases h
  | ok field =>
    rw [hfield] at h
    cases field with
    | none => exact ⟨_, fun _ => rfl, mapM_eq_ok_iff.1 h⟩
    | some name => exact ⟨_, fun _ => rfl, mapM_eq_ok_iff.1 h⟩

theorem length_decodeHits (h : decodeHits r transcoder q hits = .ok records) :
    records.length = hits.length := by
  obtain ⟨decode, -, hrecords⟩ := decodeHits_eq_ok h
  exact hrecords.length_eq.symm

theorem decodeHits_take (h : decodeHits r transcoder q hits = .ok records) (n : Nat) :
    decodeHits r transcoder q (hits.take n) = .ok (records.take n) := by
  obtain ⟨decode, hdecode, hrecords⟩ := decodeHits_eq_ok h
  rw [hdecode]
  exact mapM_eq_ok_iff.2 (List.forall₂_take n hrecords)

/-! ## Records of documents -/

/-- The record of a document: the document, or its value in the field of the projection. -/
def recordOf (field : Option String) (doc : Json) : Json :=
  match field with
  | none => doc
  | some name => selectValue (Document.segments name) (Document.project [name] doc)

theorem decodeRecord_eq_ok {raw : Json} {record : α} :
    decodeRecord transcoder raw = .ok record ↔ transcoder raw = .ok record := by
  rw [decodeRecord, mapError_eq_ok]

/-- The records of documents are made of what the query takes of them. -/
theorem forall₂_of_decodeHits {field : Option String} (hfield : projectionField r q = .ok field)
    {docs : Document.Positioned}
    (h : decodeHits r transcoder q (docs.map (Store.toHit (field.map fun name => [name]))) =
      .ok records) :
    List.Forall₂ (fun d record => transcoder (recordOf field d.2) = .ok record) docs records := by
  unfold decodeHits at h
  rw [hfield] at h
  cases field with
  | none =>
    have h := List.forall₂_map_left_iff.1 (mapM_eq_ok_iff.1 h)
    exact h.imp fun _ _ hrecord => decodeRecord_eq_ok.1 hrecord
  | some name =>
    have h := List.forall₂_map_left_iff.1 (mapM_eq_ok_iff.1 h)
    exact h.imp fun _ _ hrecord => decodeRecord_eq_ok.1 hrecord

/-! ## Records that are JSON values -/

theorem mapM_ok {ε β γ : Type} (f : β → γ) (xs : List β) :
    (xs.mapM fun x => (.ok (f x) : Except ε γ)) = .ok (xs.map f) := by
  induction xs with
  | nil => rfl
  | cons x xs ih =>
    rw [List.mapM_cons, ih]
    rfl

/-- The hits of documents become their records. -/
theorem decodeHits_toHit {field : Option String} (hfield : projectionField r q = .ok field)
    (docs : Document.Positioned) :
    decodeHits r Transcoder.json q (docs.map (Store.toHit (field.map fun name => [name]))) =
      .ok (docs.map fun d => recordOf field d.2) := by
  unfold decodeHits
  rw [hfield]
  cases field with
  | none =>
    show (docs.map (Store.toHit none)).mapM (fun h => (.ok h.source : Except _ Json)) = _
    rw [mapM_ok, List.map_map]
    rfl
  | some name =>
    show (docs.map (Store.toHit (some [name]))).mapM (fun h =>
      (.ok (selectValue (Document.segments name) h.source) : Except _ Json)) = _
    rw [mapM_ok, List.map_map]
    rfl

end Executor

end DocQuery
