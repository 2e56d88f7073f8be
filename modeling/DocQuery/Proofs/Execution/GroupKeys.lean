import DocQuery.Proofs.Execution.Grouping
import Mathlib.Data.List.Induction

/-
  The keys of groups.
  The value of a property is taken out of the key of its bucket, so a property that is named twice
  finds nothing the second time (`value_of_takeKey`). The entries of all groups have the first
  values of their members exactly if no property is named twice (`group_keys_hold_iff`).
-/

namespace DocQuery

open Document Store

/-- Whether an entry of a group key has the first value of a document in the field of its
property. -/
def HasFirst (r : Resolver) (e : String × Json) (doc : Json) : Prop :=
  ∃ field v, r.variant .sortable e.1 = .ok field ∧ firstValue? doc field = some v ∧
    e.2.same v = true

/-- Whether an entry of a group key is not null and has the first value of all members. -/
def HasFirstOfAll (r : Resolver) (members : Positioned) (e : String × Json) : Prop :=
  e.2 ≠ .null ∧ ∀ d ∈ members, HasFirst r e d.2

/-! ## Taking a key apart -/

namespace Executor

theorem map_fst_takeKey (properties : List String) (entries : List (String × Json)) :
    (takeKey properties entries).map Prod.fst = properties := by
  induction properties generalizing entries with
  | nil => rfl
  | cons property properties ih => rw [takeKey, List.map_cons, ih]

/-- The first entry of a property has the value under its name, and every later one is null. -/
theorem value_of_takeKey {properties : List String} {entries : List (String × Json)}
    {before behind : GroupKey} {e : String × Json}
    (h : takeKey properties entries = before ++ e :: behind) :
    e.2 = if e.1 ∈ before.map Prod.fst then .null
      else (entries.lookup (groupSourceLead ++ e.1)).getD .null := by
  induction properties generalizing entries before with
  | nil => simp [takeKey] at h
  | cons property properties ih =>
    rw [takeKey] at h
    cases before with
    | nil =>
      cases h
      rfl
    | cons first before =>
      rw [List.cons_append, List.cons.injEq] at h
      obtain ⟨rfl, h⟩ := h
      have hvalue := ih h
      -- the first entry has taken the value of its property away and left the others
      by_cases hname : e.1 = property
      · rw [hname, Entries.lookup_filter_self] at hvalue
        rw [hvalue]
        simp [hname]
      · have hne : groupSourceLead ++ e.1 ≠ groupSourceLead ++ property := fun heq =>
          hname (groupSourceLead_inj heq)
        rw [hvalue, Entries.lookup_filter_ne hne]
        simp only [List.map_cons, List.mem_cons, hname, false_or]

end Executor

/-! ## Values of the members -/

theorem ne_null_of_firstValue? {doc v : Json} {field : String}
    (h : firstValue? doc field = some v) : v ≠ .null := by
  rintro rfl
  have hmem : Json.null ∈ fieldValues doc field := List.mem_of_head? h
  unfold fieldValues at hmem
  cases hvalue : lookup (path field) doc with
  | none => simp [hvalue] at hmem
  | some w => cases w <;> simp [hvalue, Json.isNull] at hmem

theorem HasFirst.ne_null {r : Resolver} {e : String × Json} {doc : Json} (h : HasFirst r e doc) :
    e.2 ≠ .null := by
  obtain ⟨field, v, -, hv, hsame⟩ := h
  intro hnull
  rw [hnull] at hsame
  cases v with
  | null => exact ne_null_of_firstValue? hv rfl
  | _ => simp [Json.same] at hsame

/-- A key that is equal to that of a document has the document's values. -/
theorem hasFirst_of_sameItems {r : Resolver} {properties fields : List String} {doc : Json}
    {key values : List Json} (hfields : properties.mapM (r.variant .sortable) = .ok fields)
    (hvalues : keyOf? fields doc = some values) (hsame : Json.sameItems key values = true)
    {e : String × Json} (he : e ∈ properties.zip key) : HasFirst r e doc := by
  rw [mapM_eq_ok_iff] at hfields
  induction hfields generalizing key values with
  | nil => cases he
  | @cons property field properties fields hfield _ ih =>
    obtain ⟨v, vs, hv, hvs, rfl⟩ := keyOf?_cons_eq_some.1 hvalues
    cases key with
    | nil => cases he
    | cons k ks =>
      simp only [Json.sameItems, Bool.and_eq_true] at hsame
      rw [List.zip_cons_cons] at he
      rcases List.mem_cons.1 he with rfl | he
      · exact ⟨field, v, hfield, hv, hsame.1⟩
      · exact ih hvs hsame.2 he

/-- What stands in a bucket under the name of a property is a value of the group's key. -/
theorem exists_lookup_bucketKey {properties fields : List String} {key : List Json}
    (hfields : fields.length = properties.length) (hkey : key.length = properties.length)
    {property : String} (h : property ∈ properties) :
    ∃ v, (bucketKey (sourcesOf properties fields) key).lookup (groupSourceLead ++ property) =
      some v ∧ (property, v) ∈ properties.zip key := by
  have hname : groupSourceLead ++ property ∈
      ((properties.zip key).map fun e => (groupSourceLead ++ e.1, e.2)).map Prod.fst := by
    rw [map_fst_zip_names hkey]
    exact List.mem_map_of_mem h
  obtain ⟨v, hv, hmem⟩ := Entries.exists_lookup_ofList hname
  obtain ⟨e, he, heq⟩ := List.mem_map.1 hmem
  obtain ⟨hproperty, rfl⟩ := Prod.mk.inj heq
  obtain rfl := groupSourceLead_inj hproperty
  rw [bucketKey, zip_sourcesOf hfields]
  exact ⟨e.2, hv, he⟩

/-! ## The groups of a result -/

section

variable {α : Type} {settings : Settings} {s : Store} {r : Resolver} {q : Query} {docs : List Json}
  {transcoder : Transcoder α} {groups : List (Grouping α)}

/-- Every group of a result comes from a group of the matches: its key is taken out of that of the
bucket, and its members are records of documents of the group. -/
theorem Executor.groups_of_execute (hdocs : s.indexes.lookup settings.index = some docs)
    (h : (Executor.mk settings s.transport r).execute transcoder q .grouped =
      .ok (.grouped groups)) :
    ∃ field fields, projectionField r q = .ok field ∧
      q.groupKeys.mapM (r.variant .sortable) = .ok fields ∧
      ∀ g ∈ groups, ∃ source ∈ groupsOf (sourcesOf q.groupKeys fields) (q.matchesIn docs),
        g.key = takeKey q.groupKeys (bucketKey (sourcesOf q.groupKeys fields) source.1) ∧
        ∃ shown ⊆ source.2, List.Forall₂ (fun d record =>
          transcoder (recordOf field d.2) = .ok record) shown g.members := by
  obtain ⟨request, response, hrequest, hsearch, hresult⟩ := (execute_eq_ok (by simp)).1 h
  obtain ⟨keys, field, fields, hsort, hfield, hne, hfields⟩ :=
    settings.exists_of_searchRequest_grouped hrequest
  rw [settings.searchRequest_grouped hsort hfield hne hfields] at hrequest
  cases hrequest
  rw [Store.search_of_lookup hdocs] at hsearch
  cases hsearch
  refine ⟨field, fields, hfield, hfields, fun g hg => ?_⟩
  obtain ⟨groups', hgroups, heq⟩ := bind_eq_ok.1 hresult
  cases heq
  obtain ⟨bucket, hbucket, hg⟩ := exists_of_mapM hgroups hg
  obtain ⟨members, hmembers, heq⟩ := bind_eq_ok.1 hg
  cases heq
  dsimp only at hbucket
  rw [q.sortedMatches_eq docs _ rfl, sortDocuments_nil, aggregate_eq] at hbucket
  obtain ⟨source, hsource, rfl⟩ := List.mem_map.1 hbucket
  refine ⟨source, mem_orderedGroups.1 (List.mem_of_mem_take hsource), rfl, _, ?_,
    forall₂_of_decodeHits hfield hmembers⟩
  intro d hd
  exact (sortDocuments_perm _ _).mem_iff.1 (List.mem_of_mem_take hd)

end

/-! ## Entries of a key -/

/-- The names of entries differ if and only if none is that of an earlier one. -/
theorem nodup_names_iff {α : Type} {entries : List (String × α)} :
    (entries.map Prod.fst).Nodup ↔
      ∀ before e behind, entries = before ++ e :: behind → e.1 ∉ before.map Prod.fst := by
  constructor
  · rintro h before e behind rfl hmem
    rw [List.map_append, List.map_cons, List.nodup_append] at h
    exact h.2.2 e.1 hmem e.1 List.mem_cons_self rfl
  · intro h
    induction entries using List.reverseRecOn with
    | nil => exact List.nodup_nil
    | append_singleton entries e ih =>
      rw [List.map_append, List.map_singleton, List.nodup_append]
      refine ⟨ih fun before f behind heq => ?_, List.nodup_singleton e.1, ?_⟩
      · exact h before f (behind ++ [e]) (by rw [heq, List.append_assoc, List.cons_append])
      · rintro name hname _ hmem rfl
        rw [List.mem_singleton.1 hmem] at hname
        exact h entries e [] rfl hname

/-- Where only the first entry of a name is good, all entries are good if and only if their names
differ. -/
theorem forall_entries_iff {key : GroupKey} {good : String × Json → Prop}
    (hgood : ∀ e, good e → e.2 ≠ .null)
    (h : ∀ before e behind, key = before ++ e :: behind →
      if e.1 ∈ before.map Prod.fst then e.2 = .null else good e) :
    (∀ e ∈ key, good e) ↔ (key.map Prod.fst).Nodup := by
  rw [nodup_names_iff]
  constructor
  · intro hall before e behind hsplit hearlier
    have hnull := h before e behind hsplit
    rw [if_pos hearlier] at hnull
    refine hgood e (hall e ?_) hnull
    rw [hsplit]
    exact List.mem_append_right before List.mem_cons_self
  · intro hfirst e he
    obtain ⟨before, behind, hsplit⟩ := List.append_of_mem he
    have hentry := h before e behind hsplit
    rwa [if_neg (hfirst before e behind hsplit)] at hentry

section

variable {r : Resolver} {properties fields : List String} {docs : Positioned}
  {groups : List (List Json × Positioned)} {source : List Json × Positioned}

theorem hasFirstOfAll_of_mem_zip (hgrouped : IsGrouped fields docs groups)
    (hsource : source ∈ groups)
    (hfields : properties.mapM (r.variant .sortable) = .ok fields) {e : String × Json}
    (he : e ∈ properties.zip source.1) : HasFirstOfAll r source.2 e := by
  have hall : ∀ d ∈ source.2, HasFirst r e d.2 := by
    intro d hd
    rw [hgrouped.members source hsource, List.mem_filter] at hd
    obtain ⟨values, hvalues, hsame⟩ := hasKey_eq_true.1 hd.2
    exact hasFirst_of_sameItems hfields hvalues hsame he
  obtain ⟨d, hd⟩ := hgrouped.exists_member hsource
  exact ⟨(hall d hd).ne_null, hall⟩

/-- The first entry of a property has the first value of all members, and a later one is null. -/
theorem entry_of_takeKey (hgrouped : IsGrouped fields docs groups) (hsource : source ∈ groups)
    (hfields : properties.mapM (r.variant .sortable) = .ok fields) {before behind : GroupKey}
    {e : String × Json} (h : Executor.takeKey properties
      (bucketKey (sourcesOf properties fields) source.1) = before ++ e :: behind) :
    if e.1 ∈ before.map Prod.fst then e.2 = .null else HasFirstOfAll r source.2 e := by
  have hlength : fields.length = properties.length := (mapM_eq_ok_iff.1 hfields).length_eq.symm
  have hvalue := Executor.value_of_takeKey h
  split
  · next hearlier => rw [hvalue, if_pos hearlier]
  · next hfirst =>
    obtain ⟨d, -, hkey⟩ := hgrouped.keyed source hsource
    have hproperty : e.1 ∈ properties := by
      rw [← Executor.map_fst_takeKey properties, h, List.map_append, List.map_cons]
      exact List.mem_append_right _ List.mem_cons_self
    obtain ⟨v, hv, hzip⟩ :=
      exists_lookup_bucketKey hlength ((length_of_keyOf? hkey).trans hlength) hproperty
    rw [if_neg hfirst, hv, Option.getD_some] at hvalue
    rw [← hvalue] at hzip
    exact hasFirstOfAll_of_mem_zip hgrouped hsource hfields hzip

end

/-! ## Main theorem -/

/-- The key of every group has one entry for each property of the query, in their order. The first
entry of a property has the first value of every member of the group in the field of the property,
and a later one is null; so all entries have the members' values if and only if no property is
named twice. -/
theorem group_keys_hold_iff {α : Type} {settings : Settings} {s : Store} {r : Resolver} {q : Query}
    {docs : List Json} {transcoder : Transcoder α} {groups : List (Grouping α)}
    (hdocs : s.indexes.lookup settings.index = some docs)
    (h : (Executor.mk settings s.transport r).execute transcoder q .grouped =
      .ok (.grouped groups)) :
    ∃ field, projectionField r q = .ok field ∧ ∀ g ∈ groups,
      g.key.map Prod.fst = q.groupKeys ∧
      ∃ members shown : Positioned, members ≠ [] ∧ members ⊆ q.matchesIn docs ∧ shown ⊆ members ∧
        List.Forall₂ (fun d record => transcoder (Executor.recordOf field d.2) = .ok record) shown
          g.members ∧
        (∀ before e behind, g.key = before ++ e :: behind →
          if e.1 ∈ before.map Prod.fst then e.2 = .null else HasFirstOfAll r members e) ∧
        ((∀ e ∈ g.key, HasFirstOfAll r members e) ↔ q.groupKeys.Nodup) := by
  obtain ⟨field, fields, hfield, hfields, hgroups⟩ := Executor.groups_of_execute hdocs h
  have hlength : fields.length = q.groupKeys.length := (mapM_eq_ok_iff.1 hfields).length_eq.symm
  have hgrouped := groupsOf_isGrouped (sourcesOf q.groupKeys fields) (q.matchesIn docs)
  rw [map_field_sourcesOf hlength] at hgrouped
  refine ⟨field, hfield, fun g hg => ?_⟩
  obtain ⟨source, hsource, hkey, shown, hshown, hrecords⟩ := hgroups g hg
  have hnames : g.key.map Prod.fst = q.groupKeys := by rw [hkey, Executor.map_fst_takeKey]
  have hentries : ∀ before e behind, g.key = before ++ e :: behind →
      if e.1 ∈ before.map Prod.fst then e.2 = .null else HasFirstOfAll r source.2 e :=
    fun before e behind hsplit =>
      entry_of_takeKey hgrouped hsource hfields (hkey.symm.trans hsplit)
  refine ⟨hnames, source.2, shown, ?_, ?_, hshown, hrecords, hentries, ?_⟩
  · obtain ⟨d, hd⟩ := hgrouped.exists_member hsource
    exact List.ne_nil_of_mem hd
  · rw [hgrouped.members source hsource]
    exact List.filter_subset_self _
  · rw [← hnames]
    exact forall_entries_iff (fun e he => he.1) hentries

/-- Tickets by two properties: every entry has the values of the members. -/
theorem group_keys_hold_ticket :
    let doc (urgent : Bool) := Json.object [("done", .bool true), ("urgent", .bool urgent)]
    let docs := [doc true, doc false, doc true]
    let s : Store := ⟨[("tickets", docs)]⟩
    let e := Executor.mk { index := "tickets" } s.transport ticketIndex.resolver
    let q : Query := { groupKeys := ["Done", "Urgent"] }
    let groups : List (Grouping Json) :=
      [⟨[("Done", .bool true), ("Urgent", .bool false)], [doc false]⟩,
        ⟨[("Done", .bool true), ("Urgent", .bool true)], [doc true, doc true]⟩]
    e.execute Transcoder.json q .grouped = .ok (.grouped groups) ∧
      ∀ g ∈ groups, ∃ members ⊆ q.matchesIn docs,
        members ≠ [] ∧ ∀ e ∈ g.key, HasFirstOfAll ticketIndex.resolver members e := by
  intro doc docs s e q groups
  have hdocs : s.indexes.lookup e.settings.index = some docs := by rfl
  have h : e.execute Transcoder.json q .grouped = .ok (.grouped groups) := by rfl
  obtain ⟨_, -, hgroups⟩ := group_keys_hold_iff hdocs h
  refine ⟨h, fun g hg => ?_⟩
  obtain ⟨-, members, -, hne, hmatches, -, -, -, hiff⟩ := hgroups g hg
  exact ⟨members, hmatches, hne, hiff.2 (by decide)⟩

/-- A ticket that is done is in a group whose key says so the first time only. -/
theorem group_key_lost_ticket :
    let doc := Json.object [("done", .bool true)]
    let s : Store := ⟨[("tickets", [doc])]⟩
    let e := Executor.mk { index := "tickets" } s.transport ticketIndex.resolver
    let q : Query := { groupKeys := ["Done", "Done"] }
    e.execute Transcoder.json q .grouped =
        .ok (.grouped [⟨[("Done", .bool true), ("Done", .null)], [doc]⟩]) ∧
      firstValue? doc "done" = some (.bool true) ∧
      ¬HasFirst ticketIndex.resolver ("Done", .null) doc := by
  intro doc s e q
  refine ⟨by rfl, by rfl, fun h => ?_⟩
  exact h.ne_null rfl

end DocQuery
