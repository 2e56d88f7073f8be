import DocQuery.Proofs.Store.Groups
import Mathlib.Data.List.Forall2

/-
  Buckets and equality.
  A filter takes an integer and a floating-point number for equal if their values are, and so two
  integers that are rounded to one value. Groups also tell such numbers apart. So two documents
  whose values are all equal are counted together if and only if their numbers are spelt alike, and
  two groups whose keys a filter takes for equal differ in the spelling of a number
  (`counted_together_iff`).
-/

namespace DocQuery

/-- Whether two numbers are of one kind and, if they are integers, the same one. -/
inductive Number.SpeltAlike : Number → Number → Prop where
  | integer (n : Int) : SpeltAlike (.integer n) (.integer n)
  | real (x y : Binary64) : SpeltAlike (.real x) (.real y)

/-- Whether two values are spelt alike if they are numbers. -/
def Json.SpeltAlike (v w : Json) : Prop :=
  ∀ m n, v = .number m → w = .number n → m.SpeltAlike n

/-- Whether a filter takes two lists of values for equal. -/
def Document.KeysEqual (ks ls : List Json) : Prop :=
  List.Forall₂ (fun v w => valuesEqual v w = true) ks ls

/-! ## Two equalities -/

theorem Document.keysEqual_cons {v w : Json} {vs ws : List Json} :
    KeysEqual (v :: vs) (w :: ws) ↔ valuesEqual v w = true ∧ KeysEqual vs ws :=
  List.forall₂_cons

theorem Number.same_iff {m n : Number} : m.same n = true ↔ m.value = n.value ∧ m.SpeltAlike n := by
  refine ⟨fun h => ⟨Number.value_eq_of_same h, ?_⟩, ?_⟩
  · cases m with
    | integer a =>
      cases n with
      | integer b =>
        rw [same, beq_iff_eq] at h
        rw [h]
        exact .integer b
      | real y => cases h
    | real x =>
      cases n with
      | integer b => cases h
      | real y => exact .real x y
  · rintro ⟨hvalue, hspelt⟩
    cases hspelt with
    | integer n => exact Number.same_refl (.integer n)
    | real x y => exact beq_iff_eq.2 hvalue

/-- Values are the same if a filter takes them for equal and they are spelt alike. -/
theorem Json.same_iff {v w : Json} :
    v.same w = true ↔ Document.valuesEqual v w = true ∧ v.SpeltAlike w := by
  by_cases hnumbers : ∃ m n, v = .number m ∧ w = .number n
  · obtain ⟨m, n, rfl, rfl⟩ := hnumbers
    have hspelt : (Json.number m).SpeltAlike (.number n) ↔ m.SpeltAlike n := by
      refine ⟨fun h => h m n rfl rfl, ?_⟩
      rintro h _ _ ⟨⟩ ⟨⟩
      exact h
    rw [hspelt, Document.valuesEqual, beq_iff_eq, ← Number.same_iff, same]
  · have hspelt : v.SpeltAlike w := fun m n hm hn => absurd ⟨m, n, hm, hn⟩ hnumbers
    have hequal : Document.valuesEqual v w = v.same w := by
      cases v with
      | number m =>
        cases w with
        | number n => exact absurd ⟨m, n, rfl, rfl⟩ hnumbers
        | _ => rfl
      | _ => rfl
    rw [hequal, and_iff_left hspelt]

theorem Json.sameItems_iff {ks ls : List Json} :
    sameItems ks ls = true ↔ Document.KeysEqual ks ls ∧ List.Forall₂ Json.SpeltAlike ks ls := by
  induction ks generalizing ls with
  | nil => cases ls <;> simp [sameItems, Document.KeysEqual]
  | cons v vs ih =>
    cases ls with
    | nil => simp [sameItems, Document.KeysEqual]
    | cons w ws =>
      rw [sameItems, Bool.and_eq_true, Json.same_iff, ih, Document.keysEqual_cons,
        List.forall₂_cons]
      exact and_and_and_comm

namespace Store

open Document

/-! ## Documents of one group -/

section

variable {fields : List String} {docs : Positioned} {groups : List (List Json × Positioned)}

/-- Two documents are in one group if their keys are the same. -/
theorem IsGrouped.together_iff (h : IsGrouped fields docs groups) {d e : Nat × Json}
    (hd : d ∈ docs) (he : e ∈ docs) {ks ls : List Json} (hks : keyOf? fields d.2 = some ks)
    (hls : keyOf? fields e.2 = some ls) :
    (∃ g ∈ groups, d ∈ g.2 ∧ e ∈ g.2) ↔ Json.sameItems ks ls = true := by
  have hmem {g : List Json × Positioned} (hg : g ∈ groups) {x : Nat × Json} (hx : x ∈ docs)
      {key : List Json} (hkey : keyOf? fields x.2 = some key) :
      x ∈ g.2 ↔ Json.sameItems g.1 key = true := by
    rw [h.members g hg, List.mem_filter, hasKey_of_some hkey, and_iff_right hx]
  constructor
  · rintro ⟨g, hg, hdg, heg⟩
    rw [hmem hg hd hks] at hdg
    rw [hmem hg he hls] at heg
    rwa [← Json.sameItems_congr hdg]
  · intro hsame
    obtain ⟨g, hg, hgk⟩ := h.complete d hd ks hks
    refine ⟨g, hg, (hmem hg hd hks).2 hgk, (hmem hg he hls).2 ?_⟩
    rwa [Json.sameItems_congr hgk]

end

/-! ## Main theorem -/

/-- The buckets of an aggregation are its first groups. Two matches with equal values are counted in
one bucket if and only if their values are spelt alike, and no two buckets have equal keys that are
spelt alike. -/
theorem counted_together_iff {s : Store} {request : SearchRequest} {a : CompositeAggregation}
    {docs : Positioned} (hdocs : s.matching request.index request.query = .ok docs)
    (ha : request.aggregation = some a) :
    let groups := orderedGroups a.sources (sortDocuments request.sort docs)
    (∃ response result, s.search request = .ok response ∧ response.aggregation = some result ∧
      result.buckets.map (fun b => (b.key, b.docCount)) =
        (groups.take (a.size.getD defaultPageSize)).map fun g =>
          (bucketKey a.sources g.1, g.2.length)) ∧
    (∀ d ∈ docs, ∀ e ∈ docs, ∀ ks ls, groupKey? a.sources d.2 = some ks →
      groupKey? a.sources e.2 = some ls → KeysEqual ks ls →
        ((∃ g ∈ groups, d ∈ g.2 ∧ e ∈ g.2) ↔ List.Forall₂ Json.SpeltAlike ks ls)) ∧
    groups.Pairwise fun g h => KeysEqual g.1 h.1 → ¬List.Forall₂ Json.SpeltAlike g.1 h.1 := by
  intro groups
  have hsorted {d : Nat × Json} (hd : d ∈ docs) : d ∈ sortDocuments request.sort docs :=
    (sortDocuments_perm _ _).mem_iff.2 hd
  refine ⟨?buckets, ?together, ?apart⟩
  case buckets =>
    refine ⟨_, _, by rw [search, hdocs]; rfl, by rw [ha]; rfl, ?_⟩
    simp only [aggregate, List.map_map]
    rfl
  case together =>
    intro d hd e he ks ls hks hls hequal
    rw [groupKey?_eq_keyOf?] at hks hls
    have hgrouped := groupsOf_isGrouped a.sources (sortDocuments request.sort docs)
    have htogether := hgrouped.together_iff (hsorted hd) (hsorted he) hks hls
    simp only [groups, mem_orderedGroups]
    rw [htogether, Json.sameItems_iff, and_iff_right hequal]
  case apart =>
    refine (orderedGroups_distinct _ _).imp fun hne hequal hspelt => ?_
    rw [Json.sameItems_iff.2 ⟨hequal, hspelt⟩] at hne
    cases hne

/-- A zero is counted with another zero of its kind and not with one of the other kind. -/
theorem counted_together_ticket :
    let doc (n : Number) := Json.object [("age", .number n)]
    let zero := doc (.integer 0)
    let real := doc (.real (.zero false))
    let a : CompositeAggregation := { sources := [⟨"Age", "age"⟩] }
    let s : Store := ⟨[("tickets", [zero, real, zero])]⟩
    let request : SearchRequest :=
      { index := "tickets", query := .matchAll, size := 0, aggregation := some a }
    let docs : Positioned := [(0, zero), (1, real), (2, zero)]
    let groups := orderedGroups a.sources (sortDocuments request.sort docs)
    s.matching request.index request.query = .ok docs ∧
      (∃ g ∈ groups, (0, zero) ∈ g.2 ∧ (2, zero) ∈ g.2) ∧
      ¬∃ g ∈ groups, (0, zero) ∈ g.2 ∧ (1, real) ∈ g.2 := by
  intro doc zero real a s request docs groups
  have hdocs : s.matching request.index request.query = .ok docs := by rfl
  obtain ⟨-, htogether, -⟩ := counted_together_iff hdocs rfl
  have hzero : groupKey? a.sources zero = some [.number (.integer 0)] := by rfl
  have hreal : groupKey? a.sources real = some [.number (.real (.zero false))] := by rfl
  have hvalue : valuesEqual (.number (.integer 0)) (.number (.real (.zero false))) = true := by
    decide +kernel
  refine ⟨hdocs, ?_, ?_⟩
  · refine (htogether (0, zero) (by simp [docs]) (2, zero) (by simp [docs]) _ _ hzero hzero
      (.cons (by simp [valuesEqual]) .nil)).2 (.cons ?_ .nil)
    exact (Json.same_iff.1 (Json.same_refl _)).2
  · rw [htogether (0, zero) (by simp [docs]) (1, real) (by simp [docs]) _ _ hzero hreal
      (.cons hvalue .nil)]
    intro hspelt
    cases (List.forall₂_cons.1 hspelt).1 _ _ rfl rfl

/-- Two documents whose ages are equal are in two buckets. -/
theorem counted_apart_ticket :
    let doc (n : Number) := Json.object [("age", .number n)]
    let zero := doc (.integer 0)
    let real := doc (.real (.zero false))
    let a : CompositeAggregation := { sources := [⟨"Age", "age"⟩] }
    let docs : Positioned := [(0, zero), (1, real)]
    valuesEqual (.number (.integer 0)) (.number (.real (.zero false))) = true ∧
      groupKey? a.sources zero = some [.number (.integer 0)] ∧
      groupKey? a.sources real = some [.number (.real (.zero false))] ∧
      (aggregate a none docs).buckets.map (fun b => (b.key, b.docCount)) =
        [([("Age", .number (.integer 0))], 1), ([("Age", .number (.real (.zero false)))], 1)] := by
  intro doc zero real a docs
  refine ⟨by decide +kernel, by rfl, by rfl, ?_⟩
  have hgroups : groupsOf a.sources docs = [([.number (.integer 0)], [(0, zero)]),
      ([.number (.real (.zero false))], [(1, real)])] := by rfl
  have htie : compareKeys [.number (.real (.zero false))] [.number (.integer 0)] = .eq := by
    decide +kernel
  have hsorted : sortBy (fun g h => compareKeys g.1 h.1) (groupsOf a.sources docs) =
      groupsOf a.sources docs := by
    refine sortBy_eq_self ?_
    rw [hgroups, List.pairwise_pair, htie]
    simp
  rw [aggregate, hsorted, hgroups]
  rfl

end Store

end DocQuery
