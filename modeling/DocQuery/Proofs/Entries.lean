import DocQuery.Entries
import Mathlib.Data.List.Nodup
import Mathlib.Data.String.Basic

/-
  Entries in order, and looking them up.
  The entries of a list ascend, so every key stands there once (`pairwise_ofList`). An entry put
  into a list is found under its key and hides nothing else; so entries with keys of their own are
  all found again (`lookup_ofList`). Ascending entries are determined by what is found under their
  keys (`eq_of_lookup_eq`).
-/

namespace DocQuery.Entries

variable {α : Type}

/-! ## Ascending entries -/

theorem mem_of_mem_insert {key : String} {value : α} {entries : List (String × α)}
    {e : String × α} (he : e ∈ insert key value entries) : e = (key, value) ∨ e ∈ entries := by
  induction entries with
  | nil => exact .inl (List.mem_singleton.1 he)
  | cons f rest ih =>
    obtain ⟨k, v⟩ := f
    rw [insert] at he
    split at he
    · exact List.mem_cons.1 he
    · split at he
      · exact (List.mem_cons.1 he).imp_right (List.mem_cons_of_mem _)
      · rcases List.mem_cons.1 he with rfl | he
        · exact .inr List.mem_cons_self
        · exact (ih he).imp_right (List.mem_cons_of_mem _)

theorem mem_of_mem_ofList {entries : List (String × α)} {e : String × α}
    (he : e ∈ ofList entries) : e ∈ entries := by
  have hfold : ∀ acc : List (String × α),
      e ∈ entries.foldl (fun acc e => insert e.1 e.2 acc) acc → e ∈ entries ∨ e ∈ acc := by
    clear he
    induction entries with
    | nil => exact fun _ h => .inr h
    | cons f entries ih =>
      intro acc h
      rcases ih _ h with h | h
      · exact .inl (List.mem_cons_of_mem f h)
      · rcases mem_of_mem_insert h with rfl | h
        · exact .inl List.mem_cons_self
        · exact .inr h
  exact (hfold [] he).resolve_right (by simp)

theorem pairwise_insert {key : String} {value : α} {entries : List (String × α)}
    (h : entries.Pairwise fun e f => e.1 < f.1) :
    (insert key value entries).Pairwise fun e f => e.1 < f.1 := by
  induction entries with
  | nil => exact List.pairwise_singleton _ _
  | cons e rest ih =>
    obtain ⟨k, v⟩ := e
    obtain ⟨hk, hrest⟩ := List.pairwise_cons.1 h
    rw [insert]
    split
    · next hlt =>
      refine List.pairwise_cons.2 ⟨List.forall_mem_cons.2 ⟨hlt, fun f hf => ?_⟩, h⟩
      exact lt_trans hlt (hk f hf)
    · next hle =>
      split
      · next heq =>
        subst heq
        exact List.pairwise_cons.2 ⟨hk, hrest⟩
      · next hne =>
        have hgt : k < key := lt_of_le_of_ne (not_lt.1 hle) (Ne.symm hne)
        refine List.pairwise_cons.2 ⟨fun f hf => ?_, ih hrest⟩
        rcases mem_of_mem_insert hf with rfl | hf
        · exact hgt
        · exact hk f hf

/-- The entries of a list ascend. -/
theorem pairwise_ofList (entries : List (String × α)) :
    (ofList entries).Pairwise fun e f => e.1 < f.1 := by
  have hfold : ∀ acc : List (String × α), (acc.Pairwise fun e f => e.1 < f.1) →
      (entries.foldl (fun acc e => insert e.1 e.2 acc) acc).Pairwise fun e f => e.1 < f.1 := by
    induction entries with
    | nil => exact fun _ h => h
    | cons e entries ih => exact fun acc h => ih _ (pairwise_insert h)
  exact hfold [] List.Pairwise.nil

/-! ## Looking up -/

theorem lookup_cons_self (key : String) (value : α) (entries : List (String × α)) :
    ((key, value) :: entries).lookup key = some value := by
  rw [List.lookup_cons, beq_self_eq_true]

theorem lookup_cons_of_ne {key k : String} (h : key ≠ k) (value : α)
    (entries : List (String × α)) : ((k, value) :: entries).lookup key = entries.lookup key := by
  rw [List.lookup_cons, beq_false_of_ne h]

theorem lookup_insert_self (key : String) (value : α) (entries : List (String × α)) :
    (insert key value entries).lookup key = some value := by
  induction entries with
  | nil => exact lookup_cons_self key value []
  | cons e rest ih =>
    obtain ⟨k, v⟩ := e
    rw [insert]
    split
    · exact lookup_cons_self key value _
    · split
      · exact lookup_cons_self key value rest
      · next hne =>
        rw [lookup_cons_of_ne hne]
        exact ih

theorem lookup_insert_of_ne {key name : String} (h : name ≠ key) (value : α)
    (entries : List (String × α)) :
    (insert key value entries).lookup name = entries.lookup name := by
  induction entries with
  | nil => exact lookup_cons_of_ne h value []
  | cons e rest ih =>
    obtain ⟨k, v⟩ := e
    rw [insert]
    split
    · exact lookup_cons_of_ne h value _
    · split
      · next heq =>
        subst heq
        rw [lookup_cons_of_ne h, lookup_cons_of_ne h]
      · by_cases hk : name = k
        · subst hk
          rw [lookup_cons_self, lookup_cons_self]
        · rw [lookup_cons_of_ne hk, lookup_cons_of_ne hk, ih]

theorem lookup_insert (key name : String) (value : α) (entries : List (String × α)) :
    (insert key value entries).lookup name =
      if name = key then some value else entries.lookup name := by
  split
  · next h =>
    subst h
    exact lookup_insert_self name value entries
  · next h => exact lookup_insert_of_ne h value entries

theorem lookup_foldl_insert {entries acc : List (String × α)} {name : String}
    (h : name ∉ entries.map Prod.fst) :
    (entries.foldl (fun acc e => insert e.1 e.2 acc) acc).lookup name = acc.lookup name := by
  induction entries generalizing acc with
  | nil => rfl
  | cons e entries ih =>
    rw [List.map_cons, List.mem_cons, not_or] at h
    rw [List.foldl_cons, ih h.2, lookup_insert_of_ne h.1]

/-- Entries whose keys differ are all found. -/
theorem lookup_ofList {entries : List (String × α)} (h : (entries.map Prod.fst).Nodup)
    {e : String × α} (he : e ∈ entries) : (ofList entries).lookup e.1 = some e.2 := by
  have hfold : ∀ acc : List (String × α),
      (entries.foldl (fun acc e => insert e.1 e.2 acc) acc).lookup e.1 = some e.2 := by
    induction entries with
    | nil => cases he
    | cons f entries ih =>
      obtain ⟨hf, hentries⟩ := List.nodup_cons.1 h
      intro acc
      rw [List.foldl_cons]
      rcases List.mem_cons.1 he with rfl | he
      · rw [lookup_foldl_insert hf, lookup_insert_self]
      · exact ih hentries he _
  exact hfold []

theorem lookup_eq_none {key : String} {entries : List (String × α)} :
    entries.lookup key = none ↔ key ∉ entries.map Prod.fst := by
  simp only [List.lookup_eq_none_iff, List.mem_map, bne_iff_ne, not_exists, not_and, ne_comm]

/-- Values that are made from others and their keys are found where the others were. -/
theorem lookup_map {β : Type} (f : String → α → β) (entries : List (String × α)) (key : String) :
    (entries.map fun e => (e.1, f e.1 e.2)).lookup key = (entries.lookup key).map (f key) := by
  induction entries with
  | nil => rfl
  | cons e entries ih =>
    obtain ⟨k, v⟩ := e
    rw [List.map_cons]
    by_cases h : key = k
    · subst h
      rw [lookup_cons_self, lookup_cons_self, Option.map_some]
    · rw [lookup_cons_of_ne h, lookup_cons_of_ne h, ih]

theorem mem_of_lookup {key : String} {value : α} {entries : List (String × α)}
    (h : entries.lookup key = some value) : (key, value) ∈ entries := by
  obtain ⟨before, behind, rfl, -⟩ := List.lookup_eq_some_iff.1 h
  exact List.mem_append_right before List.mem_cons_self

/-- A key that some entry has is found. -/
theorem isSome_lookup_ofList {entries : List (String × α)} {name : String}
    (h : name ∈ entries.map Prod.fst) : ((ofList entries).lookup name).isSome := by
  have hfold : ∀ acc : List (String × α), name ∈ entries.map Prod.fst ∨ (acc.lookup name).isSome →
      ((entries.foldl (fun acc e => insert e.1 e.2 acc) acc).lookup name).isSome := by
    clear h
    induction entries with
    | nil => exact fun _ h => h.resolve_left (by simp)
    | cons e entries ih =>
      intro acc h
      refine ih _ ?_
      rw [lookup_insert]
      split
      · exact .inr rfl
      · next hne =>
        rw [List.map_cons, List.mem_cons] at h
        exact h.imp_left fun h => h.resolve_left hne
  exact hfold [] (.inl h)

/-- What is found under a key is the value of one of the entries that have the key. -/
theorem exists_lookup_ofList {entries : List (String × α)} {name : String}
    (h : name ∈ entries.map Prod.fst) :
    ∃ value, (ofList entries).lookup name = some value ∧ (name, value) ∈ entries := by
  obtain ⟨value, hvalue⟩ := Option.isSome_iff_exists.1 (isSome_lookup_ofList h)
  exact ⟨value, hvalue, mem_of_mem_ofList (mem_of_lookup hvalue)⟩

theorem lookup_filter_self (key : String) (entries : List (String × α)) :
    (entries.filter fun e => e.1 != key).lookup key = none := by
  refine List.lookup_eq_none_iff.2 fun e he => ?_
  have hne : e.1 ≠ key := by simpa using (List.mem_filter.1 he).2
  simpa using hne.symm

/-- Taking the entries of one key away leaves the others. -/
theorem lookup_filter_ne {key name : String} (h : name ≠ key) (entries : List (String × α)) :
    (entries.filter fun e => e.1 != key).lookup name = entries.lookup name := by
  induction entries with
  | nil => rfl
  | cons e entries ih =>
    obtain ⟨k, v⟩ := e
    rw [List.filter_cons]
    split
    · by_cases hk : name = k
      · subst hk
        rw [lookup_cons_self, lookup_cons_self]
      · rw [lookup_cons_of_ne hk, lookup_cons_of_ne hk, ih]
    · next hk =>
      have hk : k = key := by simpa using hk
      rw [ih, lookup_cons_of_ne (hk ▸ h)]

/-- Every one of some entries whose keys differ is found under its key. -/
theorem lookup_of_mem {entries : List (String × α)} (h : (entries.map Prod.fst).Nodup)
    {e : String × α} (he : e ∈ entries) : entries.lookup e.1 = some e.2 := by
  induction entries with
  | nil => cases he
  | cons f entries ih =>
    obtain ⟨hf, hentries⟩ := List.nodup_cons.1 h
    rcases List.mem_cons.1 he with rfl | he
    · exact lookup_cons_self e.1 e.2 entries
    · have hne : e.1 ≠ f.1 := fun heq => hf (heq ▸ List.mem_map_of_mem he)
      rw [lookup_cons_of_ne hne]
      exact ih hentries he

/-- Entries whose keys differ are found alike in every order. -/
theorem lookup_eq_of_perm {xs ys : List (String × α)} (h : xs.Perm ys)
    (hxs : (xs.map Prod.fst).Nodup) (key : String) : xs.lookup key = ys.lookup key := by
  have hys : (ys.map Prod.fst).Nodup := (h.map Prod.fst).nodup_iff.1 hxs
  refine Option.ext fun value => ⟨fun hvalue => ?_, fun hvalue => ?_⟩
  · exact lookup_of_mem hys (h.mem_iff.1 (mem_of_lookup hvalue))
  · exact lookup_of_mem hxs (h.mem_iff.2 (mem_of_lookup hvalue))

/-- Ascending entries with the same values under all keys are the same entries. -/
theorem eq_of_lookup_eq {xs ys : List (String × α)} (hxs : xs.Pairwise fun e f => e.1 < f.1)
    (hys : ys.Pairwise fun e f => e.1 < f.1) (h : ∀ key, xs.lookup key = ys.lookup key) :
    xs = ys := by
  have hkeys {es : List (String × α)} (hes : es.Pairwise fun e f => e.1 < f.1) :
      (es.map Prod.fst).Nodup :=
    List.pairwise_map.2 (hes.imp fun hlt => ne_of_lt hlt)
  have hmem : ∀ e, e ∈ xs ↔ e ∈ ys := fun e =>
    ⟨fun he => mem_of_lookup ((h e.1).symm.trans (lookup_of_mem (hkeys hxs) he)),
      fun he => mem_of_lookup ((h e.1).trans (lookup_of_mem (hkeys hys) he))⟩
  have hperm : xs.Perm ys :=
    (List.perm_ext_iff_of_nodup (.of_map Prod.fst (hkeys hxs)) (.of_map Prod.fst (hkeys hys))).2
      hmem
  exact hperm.eq_of_pairwise (fun e f _ _ hlt hgt => absurd hgt (lt_asymm hlt)) hxs hys

end DocQuery.Entries
