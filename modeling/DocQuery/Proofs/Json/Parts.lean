import DocQuery.Json.Draft
import DocQuery.Proofs.Document.Fields
import DocQuery.Proofs.Entries

/-
  Parts of JSON values.
  Taking entries of objects away leaves a part of a value. Along every path a part leads to a part
  of what the whole leads to (`exists_lookup`). Values whose objects are in order, as those that are
  read are (`isOrdered_of_toJson?`), are the same if they are parts of each other (`antisymm`).
-/

namespace DocQuery

/-- Whether a value is what is left of another one when entries of its objects are taken away, at
any depth. -/
inductive Json.IsPart : Json → Json → Prop where
  | refl (j : Json) : IsPart j j
  | entries {xs ys : List (String × Json)}
      (keys : ∀ key v, xs.lookup key = some v → ∃ w, ys.lookup key = some w)
      (values : ∀ key v w, xs.lookup key = some v → ys.lookup key = some w → IsPart v w) :
      IsPart (.object xs) (.object ys)

/-- Whether the keys of every object that a path of a value leads to ascend. -/
def Json.IsOrdered (j : Json) : Prop :=
  ∀ path entries, Document.lookup path j = some (.object entries) →
    entries.Pairwise fun e f => e.1 < f.1

namespace Document

/-! ## Paths -/

theorem segments_ne_nil (field : String) : segments field ≠ [] := by
  simp [segments, Text.splitAt_ne_nil]

theorem lookup_cons_object (key : String) (rest : List String) (entries : List (String × Json)) :
    lookup (key :: rest) (.object entries) = (entries.lookup key).bind (lookup rest) := by
  rw [lookup]
  cases entries.lookup key <;> rfl

theorem lookup_cons_of_not_object {j : Json} (h : j.entries? = none) (key : String)
    (rest : List String) : lookup (key :: rest) j = none := by
  cases j with
  | object entries => cases h
  | _ => rfl

end Document

open Document

/-! ## Ordered values -/

namespace Json

theorem isOrdered_of_not_object {j : Json} (h : j.entries? = none) : j.IsOrdered := by
  intro path entries hpath
  cases path with
  | nil =>
    cases hpath
    cases h
  | cons key rest =>
    rw [lookup_cons_of_not_object h] at hpath
    cases hpath

theorem isOrdered_object {entries : List (String × Json)} :
    (object entries).IsOrdered ↔ (entries.Pairwise fun e f => e.1 < f.1) ∧
      ∀ key v, entries.lookup key = some v → v.IsOrdered := by
  constructor
  · refine fun h => ⟨h [] entries rfl, fun key v hv path inner hpath => ?_⟩
    refine h (key :: path) inner ?_
    rw [lookup_cons_object, hv]
    exact hpath
  · rintro ⟨hentries, hvalues⟩ path inner hpath
    cases path with
    | nil =>
      cases hpath
      exact hentries
    | cons key rest =>
      rw [lookup_cons_object] at hpath
      obtain ⟨v, hv, hrest⟩ := Option.bind_eq_some_iff.1 hpath
      exact hvalues key v hv rest inner hrest

theorem IsOrdered.of_lookup {j v : Json} (h : j.IsOrdered) {path : List String}
    (hv : lookup path j = some v) : v.IsOrdered := by
  intro rest entries hrest
  refine h (path ++ rest) entries ?_
  rw [lookup_append, hv]
  exact hrest

theorem isOrdered_nil : (object []).IsOrdered :=
  isOrdered_object.2 ⟨.nil, fun _ _ h => by cases h⟩

/-- The entries of an object; any other value has none. -/
def contents (j : Json) : List (String × Json) :=
  j.entries?.getD []

theorem lookup_contents {path : List String} (hne : path ≠ []) (j : Json) :
    lookup path (.object j.contents) = lookup path j := by
  obtain ⟨key, rest, rfl⟩ := List.exists_cons_of_ne_nil hne
  cases j with
  | object entries => rfl
  | _ => rfl

theorem IsOrdered.contents {j : Json} (h : j.IsOrdered) : (object j.contents).IsOrdered := by
  cases j with
  | object entries => exact h
  | _ => exact isOrdered_nil

end Json

namespace Draft

mutual

/-- The values that are read are ordered. -/
theorem isOrdered_of_toJson? : ∀ (d : Draft) {j : Json}, d.toJson? = some j → j.IsOrdered
  | .null, _, h | .bool _, _, h | .number _, _, h | .string _, _, h => by
    cases h
    exact Json.isOrdered_of_not_object rfl
  | .array items, _, h => by
    obtain ⟨items, -, rfl⟩ := Option.map_eq_some_iff.1 h
    exact Json.isOrdered_of_not_object rfl
  | .object drafts, _, h => by
    obtain ⟨entries, hentries, rfl⟩ := Option.map_eq_some_iff.1 h
    refine Json.isOrdered_object.2 ⟨Entries.pairwise_ofList entries, fun key v hv => ?_⟩
    exact isOrdered_of_toEntries? drafts hentries _
      (Entries.mem_of_mem_ofList (Entries.mem_of_lookup hv))
  | .unreadable, _, h => by cases h

theorem isOrdered_of_toEntries? :
    ∀ (drafts : List (String × Draft)) {entries : List (String × Json)},
    toEntries? drafts = some entries → ∀ e ∈ entries, e.2.IsOrdered
  | [], _, h => by
    cases h
    simp
  | (key, d) :: rest, _, h => by
    obtain ⟨j, hj, h⟩ := Option.bind_eq_some_iff.1 h
    obtain ⟨others, hothers, h⟩ := Option.bind_eq_some_iff.1 h
    cases h
    exact List.forall_mem_cons.2
      ⟨isOrdered_of_toJson? d hj, isOrdered_of_toEntries? rest hothers⟩

end

end Draft

/-! ## Parts -/

namespace Json

variable {a b v w : Json} {xs ys : List (String × Json)} {key : String}

theorem isPart_object : (object xs).IsPart (object ys) ↔
    ∀ key v, xs.lookup key = some v → ∃ w, ys.lookup key = some w ∧ v.IsPart w := by
  constructor
  · intro h key v hv
    cases h with
    | refl => exact ⟨v, hv, .refl v⟩
    | entries keys values =>
      obtain ⟨w, hw⟩ := keys key v hv
      exact ⟨w, hw, values key v w hv hw⟩
  · intro h
    refine .entries (fun key v hv => ?_) fun key v w hv hw => ?_
    · obtain ⟨w, hw, -⟩ := h key v hv
      exact ⟨w, hw⟩
    · obtain ⟨w', hw', hpart⟩ := h key v hv
      rw [hw] at hw'
      cases hw'
      exact hpart

namespace IsPart

/-- What a path leads to in a part is a part of what it leads to in the whole. -/
theorem exists_lookup (h : a.IsPart b) {path : List String} (hv : lookup path a = some v) :
    ∃ w, lookup path b = some w ∧ v.IsPart w := by
  induction path generalizing a b with
  | nil =>
    cases hv
    exact ⟨b, rfl, h⟩
  | cons key rest ih =>
    cases h with
    | refl => exact ⟨v, hv, .refl v⟩
    | entries keys values =>
      rw [lookup_cons_object] at hv ⊢
      obtain ⟨x, hx, hrest⟩ := Option.bind_eq_some_iff.1 hv
      obtain ⟨y, hy⟩ := keys key x hx
      rw [hy]
      exact ih (values key x y hx hy) hrest

/-- Ordered values that are parts of each other are the same. -/
theorem antisymm (h : a.IsPart b) (h' : b.IsPart a) (ha : a.IsOrdered) (hb : b.IsOrdered) :
    a = b := by
  induction h with
  | refl j => rfl
  | @entries xs ys keys values ih =>
    rw [isPart_object] at h'
    rw [isOrdered_object] at ha hb
    rw [Entries.eq_of_lookup_eq ha.1 hb.1 fun key => ?_]
    cases hx : xs.lookup key with
    | none =>
      cases hy : ys.lookup key with
      | none => rfl
      | some w =>
        obtain ⟨v, hv, -⟩ := h' key w hy
        rw [hx] at hv
        cases hv
    | some v =>
      obtain ⟨w, hw⟩ := keys key v hx
      obtain ⟨v', hv', hpart⟩ := h' key w hw
      rw [hx] at hv'
      cases hv'
      rw [hw, ih key v w hx hw hpart (ha.2 key v hx) (hb.2 key w hw)]

theorem nil (ys : List (String × Json)) : (object []).IsPart (object ys) :=
  isPart_object.2 fun _ _ h => by cases h

/-- A part stays one when a part of what the whole has under a key is put under that key. -/
theorem insert (h : (object xs).IsPart (object ys)) (hw : ys.lookup key = some w)
    (hv : v.IsPart w) : (object (Entries.insert key v xs)).IsPart (object ys) := by
  refine isPart_object.2 fun name u hu => ?_
  rw [Entries.lookup_insert] at hu
  split at hu
  · next hname =>
    cases hu
    exact ⟨w, hname ▸ hw, hv⟩
  · exact isPart_object.1 h name u hu

/-- Nothing is lost when what stands under a key is a part of the value that is put there. -/
theorem of_insert (h : ∀ u, xs.lookup key = some u → u.IsPart v) :
    (object xs).IsPart (object (Entries.insert key v xs)) := by
  refine isPart_object.2 fun name u hu => ?_
  rw [Entries.lookup_insert]
  split
  · next hname => exact ⟨v, rfl, h u (hname ▸ hu)⟩
  · exact ⟨u, hu, .refl u⟩

end IsPart

end Json

end DocQuery
