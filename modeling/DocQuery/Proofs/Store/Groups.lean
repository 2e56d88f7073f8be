import DocQuery.Proofs.Document.Comparing
import DocQuery.Proofs.Json.Equality
import DocQuery.Store

/-
  Groups of documents.
  A store takes documents one by one into the groups of their keys. What it has collected at any
  time are the documents so far, split by their keys: one group for each key, with all documents
  that have the key, in their order (`groupsOf_isGrouped`).
-/

namespace DocQuery.Store

open Document

/-! ## Keys -/

/-- Whether a document has a key that is equal to a given one. -/
def hasKey (fields : List String) (key : List Json) (doc : Json) : Bool :=
  (keyOf? fields doc).any (Json.sameItems key)

/-- The keys of some documents, equal ones once. -/
def distinctKeys (fields : List String) (docs : Positioned) : List (List Json) :=
  (docs.filterMap fun d => keyOf? fields d.2).eraseDupsBy Json.sameItems

theorem hasKey_of_some {fields : List String} {doc : Json} {k : List Json}
    (h : keyOf? fields doc = some k) (key : List Json) :
    hasKey fields key doc = Json.sameItems key k := by
  rw [hasKey, h, Option.any_some]

theorem hasKey_of_none {fields : List String} {doc : Json} (h : keyOf? fields doc = none)
    (key : List Json) : hasKey fields key doc = false := by
  rw [hasKey, h, Option.any_none]

theorem hasKey_eq_true {fields : List String} {doc : Json} {key : List Json} :
    hasKey fields key doc = true ↔
      ∃ k, keyOf? fields doc = some k ∧ Json.sameItems key k = true := by
  cases hk : keyOf? fields doc with
  | none => simp [hasKey_of_none hk]
  | some k => simp [hasKey_of_some hk]

theorem groupKey?_eq_keyOf? (sources : List CompositeSource) (doc : Json) :
    groupKey? sources doc = keyOf? (sources.map CompositeSource.field) doc := by
  induction sources with
  | nil => rfl
  | cons source sources ih =>
    simp only [groupKey?, keyOf?] at ih
    simp only [groupKey?, keyOf?, List.map_cons, List.mapM_cons, ih]

/-- One more item joins the others unless it is equal to one that was kept. -/
theorem eraseDupsBy_concat {α : Type} (r : α → α → Bool) (xs : List α) (x : α) :
    (xs ++ [x]).eraseDupsBy r =
      if (xs.eraseDupsBy r).any (r x) then xs.eraseDupsBy r else xs.eraseDupsBy r ++ [x] := by
  have hloop : ∀ kept : List α, List.eraseDupsBy.loop r (xs ++ [x]) kept =
      if (List.eraseDupsBy.loop r xs kept).any (r x) then List.eraseDupsBy.loop r xs kept
      else List.eraseDupsBy.loop r xs kept ++ [x] := by
    induction xs with
    | nil =>
      intro kept
      simp only [List.nil_append, List.eraseDupsBy.loop, List.any_reverse]
      cases kept.any (r x) <;> simp
    | cons y ys ih =>
      intro kept
      simp only [List.cons_append, List.eraseDupsBy.loop]
      by_cases hkept : kept.any (r y) = true
      · simp only [hkept, ih kept]
      · simp only [Bool.not_eq_true] at hkept
        simp only [hkept, ih (y :: kept)]
  exact hloop []

theorem distinctKeys_concat_of_none {fields : List String} {docs : Positioned} {d : Nat × Json}
    (h : keyOf? fields d.2 = none) :
    distinctKeys fields (docs ++ [d]) = distinctKeys fields docs := by
  simp [distinctKeys, List.filterMap_append, h]

theorem distinctKeys_concat_of_some {fields : List String} {docs : Positioned} {d : Nat × Json}
    {key : List Json} (h : keyOf? fields d.2 = some key) :
    distinctKeys fields (docs ++ [d]) =
      if (distinctKeys fields docs).any (Json.sameItems key) then distinctKeys fields docs
      else distinctKeys fields docs ++ [key] := by
  rw [distinctKeys, distinctKeys, List.filterMap_append, ← eraseDupsBy_concat]
  simp [h]

/-! ## One document -/

section

variable {key : List Json} {d : Nat × Json} {groups : List (List Json × Positioned)}

/-- A group with one more document if it has the document's key. -/
def joined (key : List Json) (d : Nat × Json) (g : List Json × Positioned) :
    List Json × Positioned :=
  (g.1, if Json.sameItems g.1 key then g.2 ++ [d] else g.2)

theorem joined_eq_self {g : List Json × Positioned} (h : Json.sameItems g.1 key = false) :
    joined key d g = g := by
  simp [joined, h]

theorem map_joined_eq_self (h : ∀ g ∈ groups, Json.sameItems g.1 key = false) :
    groups.map (joined key d) = groups := by
  rw [List.map_congr_left fun g hg => joined_eq_self (h g hg), List.map_id']

/-- A document goes into the group of its key. -/
theorem addToGroup_of_mem (hdistinct : groups.Pairwise fun g h => Json.sameItems g.1 h.1 = false)
    (hmem : ∃ g ∈ groups, Json.sameItems g.1 key = true) :
    addToGroup key d groups = groups.map (joined key d) := by
  induction groups with
  | nil => simp at hmem
  | cons g groups ih =>
    obtain ⟨hg, hgroups⟩ := List.pairwise_cons.1 hdistinct
    rw [addToGroup, List.map_cons]
    split
    · next hkey =>
      -- a later group with the key would have the key of this one
      have hrest : ∀ h ∈ groups, Json.sameItems h.1 key = false := by
        intro h hh
        rw [Json.sameItems_comm, ← Json.sameItems_congr hkey]
        exact hg h hh
      rw [map_joined_eq_self hrest, joined, if_pos hkey]
    · next hkey =>
      have hkey : Json.sameItems g.1 key = false := by simpa using hkey
      obtain ⟨h, hh, hsame⟩ := hmem
      rcases List.mem_cons.1 hh with rfl | hh
      · rw [hkey] at hsame
        cases hsame
      · rw [joined_eq_self hkey, ih hgroups ⟨h, hh, hsame⟩]

/-- A document whose key is new makes a group. -/
theorem addToGroup_of_not_mem (h : ∀ g ∈ groups, Json.sameItems g.1 key = false) :
    addToGroup key d groups = groups ++ [(key, [d])] := by
  induction groups with
  | nil => rfl
  | cons g groups ih =>
    obtain ⟨hg, hgroups⟩ := List.forall_mem_cons.1 h
    rw [addToGroup, hg, ih hgroups]
    rfl

end

/-! ## All documents -/

/-- Groups that split some documents by their keys. -/
structure IsGrouped (fields : List String) (docs : Positioned)
    (groups : List (List Json × Positioned)) : Prop where
  /-- Every key has one group. -/
  keys : groups.map Prod.fst = distinctKeys fields docs
  distinct : groups.Pairwise fun g h => Json.sameItems g.1 h.1 = false
  /-- The key of a group is the key of a document. -/
  keyed : ∀ g ∈ groups, ∃ d ∈ docs, keyOf? fields d.2 = some g.1
  members : ∀ g ∈ groups, g.2 = docs.filter fun d => hasKey fields g.1 d.2
  /-- Every document with a key is in a group. -/
  complete : ∀ d ∈ docs, ∀ key, keyOf? fields d.2 = some key →
    ∃ g ∈ groups, Json.sameItems g.1 key = true

section

variable {fields : List String} {docs : Positioned} {groups : List (List Json × Positioned)}
  {d : Nat × Json}

theorem IsGrouped.any_distinctKeys (h : IsGrouped fields docs groups) (key : List Json) :
    (distinctKeys fields docs).any (Json.sameItems key) =
      groups.any fun g => Json.sameItems g.1 key := by
  rw [← h.keys, List.any_map]
  congr 1
  funext g
  exact Json.sameItems_comm key g.1

/-- Every group has a member. -/
theorem IsGrouped.exists_member (h : IsGrouped fields docs groups) {g : List Json × Positioned}
    (hg : g ∈ groups) : ∃ d, d ∈ g.2 := by
  obtain ⟨d, hd, hkey⟩ := h.keyed g hg
  refine ⟨d, ?_⟩
  rw [h.members g hg, List.mem_filter]
  exact ⟨hd, hasKey_eq_true.2 ⟨g.1, hkey, Json.sameItems_refl g.1⟩⟩

theorem filter_concat_of_false {p : Nat × Json → Bool} (h : p d = false) :
    (docs ++ [d]).filter p = docs.filter p := by
  simp [List.filter_append, h]

theorem filter_concat_of_true {p : Nat × Json → Bool} (h : p d = true) :
    (docs ++ [d]).filter p = docs.filter p ++ [d] := by
  simp [List.filter_append, h]

/-- A document without a key changes nothing. -/
theorem IsGrouped.concat_of_none (h : IsGrouped fields docs groups)
    (hnone : keyOf? fields d.2 = none) : IsGrouped fields (docs ++ [d]) groups where
  keys := by rw [h.keys, distinctKeys_concat_of_none hnone]
  distinct := h.distinct
  keyed g hg := by
    obtain ⟨e, he, hkey⟩ := h.keyed g hg
    exact ⟨e, List.mem_append_left _ he, hkey⟩
  members g hg := by
    rw [h.members g hg, filter_concat_of_false (hasKey_of_none hnone g.1)]
  complete e he key hkey := by
    rcases List.mem_append.1 he with he | he
    · exact h.complete e he key hkey
    · rw [List.mem_singleton.1 he, hnone] at hkey
      cases hkey

/-- A document whose key has a group joins it. -/
theorem IsGrouped.concat_of_mem (h : IsGrouped fields docs groups) {key : List Json}
    (hkey : keyOf? fields d.2 = some key) (hmem : ∃ g ∈ groups, Json.sameItems g.1 key = true) :
    IsGrouped fields (docs ++ [d]) (groups.map (joined key d)) where
  keys := by
    have hany : (distinctKeys fields docs).any (Json.sameItems key) = true := by
      rw [h.any_distinctKeys]
      exact List.any_eq_true.2 hmem
    rw [distinctKeys_concat_of_some hkey, if_pos hany, ← h.keys, List.map_map]
    rfl
  distinct := h.distinct.map _ fun _ _ hne => hne
  keyed _ hmap := by
    obtain ⟨g, hg, rfl⟩ := List.mem_map.1 hmap
    obtain ⟨e, he, hkey⟩ := h.keyed g hg
    exact ⟨e, List.mem_append_left _ he, hkey⟩
  members _ hmap := by
    obtain ⟨g, hg, rfl⟩ := List.mem_map.1 hmap
    simp only [joined, h.members g hg]
    have hd := hasKey_of_some hkey g.1
    split
    · next hsame => rw [filter_concat_of_true (hd.trans hsame)]
    · next hsame =>
      have hsame : Json.sameItems g.1 key = false := by simpa using hsame
      rw [filter_concat_of_false (hd.trans hsame)]
  complete e he k hk := by
    have hold : ∃ g ∈ groups, Json.sameItems g.1 k = true := by
      rcases List.mem_append.1 he with he | he
      · exact h.complete e he k hk
      · rw [List.mem_singleton.1 he, hkey] at hk
        cases hk
        exact hmem
    obtain ⟨g, hg, hsame⟩ := hold
    exact ⟨joined key d g, List.mem_map_of_mem hg, hsame⟩

/-- A document with a key would have made a group for it. -/
theorem IsGrouped.filter_eq_nil (h : IsGrouped fields docs groups) {key : List Json}
    (hnew : ∀ g ∈ groups, Json.sameItems g.1 key = false) :
    docs.filter (fun e => hasKey fields key e.2) = [] := by
  refine List.filter_eq_nil_iff.2 fun e he hhas => ?_
  obtain ⟨k, hk, hsame⟩ := hasKey_eq_true.1 hhas
  obtain ⟨g, hg, hgk⟩ := h.complete e he k hk
  have hgkey := hnew g hg
  rw [Json.sameItems_comm, Json.sameItems_congr hsame, Json.sameItems_comm, hgk] at hgkey
  cases hgkey

/-- A document with a new key makes a group of its own. -/
theorem IsGrouped.concat_of_not_mem (h : IsGrouped fields docs groups) {key : List Json}
    (hkey : keyOf? fields d.2 = some key)
    (hnew : ∀ g ∈ groups, Json.sameItems g.1 key = false) :
    IsGrouped fields (docs ++ [d]) (groups ++ [(key, [d])]) where
  keys := by
    have hany : (distinctKeys fields docs).any (Json.sameItems key) = false := by
      rw [h.any_distinctKeys]
      exact List.any_eq_false.2 fun g hg => by simp [hnew g hg]
    rw [distinctKeys_concat_of_some hkey, if_neg (by simp [hany]), ← h.keys, List.map_append]
    rfl
  distinct := by
    refine List.pairwise_append.2 ⟨h.distinct, List.pairwise_singleton _ _, fun g hg e he => ?_⟩
    rw [List.mem_singleton.1 he]
    exact hnew g hg
  keyed g hg := by
    rcases List.mem_append.1 hg with hg | hg
    · obtain ⟨e, he, hkey⟩ := h.keyed g hg
      exact ⟨e, List.mem_append_left _ he, hkey⟩
    · rw [List.mem_singleton.1 hg]
      exact ⟨d, by simp, hkey⟩
  members g hg := by
    rcases List.mem_append.1 hg with hg | hg
    · have hd := hasKey_of_some hkey g.1
      rw [filter_concat_of_false (hd.trans (hnew g hg)), ← h.members g hg]
    · rw [List.mem_singleton.1 hg]
      have hd : hasKey fields key d.2 = true := by
        rw [hasKey_of_some hkey, Json.sameItems_refl]
      rw [filter_concat_of_true hd, h.filter_eq_nil hnew]
      rfl
  complete e he k hk := by
    rcases List.mem_append.1 he with he | he
    · obtain ⟨g, hg, hsame⟩ := h.complete e he k hk
      exact ⟨g, List.mem_append_left _ hg, hsame⟩
    · rw [List.mem_singleton.1 he, hkey] at hk
      cases hk
      exact ⟨(key, [d]), by simp, Json.sameItems_refl key⟩

end

/-- What a store does with one document. -/
def collect (sources : List CompositeSource) (groups : List (List Json × Positioned))
    (d : Nat × Json) : List (List Json × Positioned) :=
  match groupKey? sources d.2 with
  | none => groups
  | some key => addToGroup key d groups

theorem IsGrouped.collect {sources : List CompositeSource} {docs : Positioned}
    {groups : List (List Json × Positioned)}
    (h : IsGrouped (sources.map CompositeSource.field) docs groups) (d : Nat × Json) :
    IsGrouped (sources.map CompositeSource.field) (docs ++ [d]) (collect sources groups d) := by
  unfold Store.collect
  rw [groupKey?_eq_keyOf?]
  cases hkey : keyOf? (sources.map CompositeSource.field) d.2 with
  | none => exact h.concat_of_none hkey
  | some key =>
    show IsGrouped _ _ (addToGroup key d groups)
    by_cases hmem : ∃ g ∈ groups, Json.sameItems g.1 key = true
    · rw [addToGroup_of_mem h.distinct hmem]
      exact h.concat_of_mem hkey hmem
    · have hnew : ∀ g ∈ groups, Json.sameItems g.1 key = false := fun g hg =>
        Bool.eq_false_iff.2 fun hsame => hmem ⟨g, hg, hsame⟩
      rw [addToGroup_of_not_mem hnew]
      exact h.concat_of_not_mem hkey hnew

/-- The groups of a store split its documents by their keys. -/
theorem groupsOf_isGrouped (sources : List CompositeSource) (docs : Positioned) :
    IsGrouped (sources.map CompositeSource.field) docs (groupsOf sources docs) := by
  have hrun : ∀ (rest seen : Positioned) (groups : List (List Json × Positioned)),
      IsGrouped (sources.map CompositeSource.field) seen groups →
      IsGrouped (sources.map CompositeSource.field) (seen ++ rest)
        (rest.foldl (collect sources) groups) := by
    intro rest
    induction rest with
    | nil =>
      intro seen groups h
      rw [List.append_nil]
      exact h
    | cons d rest ih =>
      intro seen groups h
      rw [List.append_cons, List.foldl_cons]
      exact ih (seen ++ [d]) _ (h.collect d)
  exact hrun docs [] [] ⟨rfl, List.Pairwise.nil, by simp, by simp, by simp⟩

/-! ## Groups in order -/

/-- The groups of an aggregation, in the order of their keys. -/
def orderedGroups (sources : List CompositeSource) (docs : Positioned) :
    List (List Json × Positioned) :=
  sortBy (fun g h => compareKeys g.1 h.1) (groupsOf sources docs)

theorem orderedGroups_perm (sources : List CompositeSource) (docs : Positioned) :
    (orderedGroups sources docs).Perm (groupsOf sources docs) :=
  sortBy_perm _

theorem mem_orderedGroups {sources : List CompositeSource} {docs : Positioned}
    {g : List Json × Positioned} :
    g ∈ orderedGroups sources docs ↔ g ∈ groupsOf sources docs :=
  (orderedGroups_perm sources docs).mem_iff

theorem orderedGroups_distinct (sources : List CompositeSource) (docs : Positioned) :
    (orderedGroups sources docs).Pairwise fun g h => Json.sameItems g.1 h.1 = false := by
  have hperm := orderedGroups_perm sources docs
  refine (hperm.pairwise_iff fun {g h} hne => ?_).2 (groupsOf_isGrouped sources docs).distinct
  rw [Json.sameItems_comm]
  exact hne

/-- The bucket of a group. -/
def bucketOf (a : CompositeAggregation) (source : Option (List String))
    (g : List Json × Positioned) : Bucket where
  key := bucketKey a.sources g.1
  docCount := g.2.length
  hits := some (((sortDocuments a.sort g.2).take (a.hitsSize.getD defaultGroupSize)).map
    (toHit source))

theorem aggregate_eq (a : CompositeAggregation) (source : Option (List String))
    (docs : Positioned) :
    let groups := orderedGroups a.sources docs
    let buckets := (groups.take (a.size.getD defaultPageSize)).map (bucketOf a source)
    aggregate a source docs = ⟨if a.size.getD defaultPageSize < groups.length then
      buckets.getLast?.map Bucket.key else none, buckets⟩ := rfl

end DocQuery.Store
