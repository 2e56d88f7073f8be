import DocQuery.Proofs.Compilation.Conjunction
import DocQuery.Proofs.Entries
import DocQuery.Proofs.Execution.Collection
import DocQuery.Proofs.Store.Groups

/-
  Grouped results.
  A grouped result splits the matches by their keys (`grouped_partitions`): every group has the
  documents of one key in the order of the sort keys, up to the size of a group, and the groups are
  the first ones in the order of keys.
-/

namespace DocQuery

open Document Store

/-- The key of a group without the names of its properties. -/
def Grouping.values {α : Type} (g : Grouping α) : List Json :=
  g.key.map Prod.snd

/-- Groups that split the sorted matches of a query by the fields of their keys: the first `bound`
groups, with the records of the first `size` documents of each. -/
structure Partitions (properties fields : List String) (record : Json → Json) (bound size : Nat)
    (docs sorted : Positioned) (groups : List (Grouping Json)) : Prop where
  length_eq : groups.length = min bound (distinctKeys fields docs).length
  distinct : groups.Pairwise fun g h => Json.sameItems g.values h.values = false
  ascending : groups.Pairwise fun g h => (compareKeys g.values h.values).isLE
  /-- A key that is left out is not less than one that is there. -/
  first : ∀ g ∈ groups, ∀ d ∈ docs, ∀ key, keyOf? fields d.2 = some key →
    (∀ h ∈ groups, Json.sameItems h.values key = false) → (compareKeys g.values key).isLE
  named : ∀ g ∈ groups, g.key.map Prod.fst = properties
  keyed : ∀ g ∈ groups, ∃ d ∈ docs, keyOf? fields d.2 = some g.values
  members_eq : ∀ g ∈ groups, g.members =
    ((sorted.filter fun d => hasKey fields g.values d.2).take size).map fun d => record d.2

/-! ## Keys of buckets -/

theorem groupSourceLead_inj {p q : String} (h : groupSourceLead ++ p = groupSourceLead ++ q) :
    p = q := by
  have h := congrArg String.toList h
  rw [String.toList_append, String.toList_append] at h
  exact String.toList_injective (List.append_cancel_left h)

/-- Properties that differ get the values that stand under their names. -/
theorem Executor.takeKey_eq_zip {properties : List String} (hnodup : properties.Nodup)
    {values : List Json} {entries : List (String × Json)}
    (hlength : values.length = properties.length)
    (h : ∀ e ∈ properties.zip values, entries.lookup (groupSourceLead ++ e.1) = some e.2) :
    takeKey properties entries = properties.zip values := by
  induction properties generalizing values entries with
  | nil => rfl
  | cons property properties ih =>
    cases values with
    | nil => cases hlength
    | cons value values =>
      obtain ⟨hproperty, hnodup⟩ := List.nodup_cons.1 hnodup
      rw [List.zip_cons_cons] at h ⊢
      obtain ⟨hvalue, hvalues⟩ := List.forall_mem_cons.1 h
      rw [takeKey, hvalue]
      congr 1
      refine ih hnodup (by simpa using hlength) fun e he => ?_
      have hne : groupSourceLead ++ e.1 ≠ groupSourceLead ++ property := by
        intro heq
        have hmem := (List.of_mem_zip he).1
        rw [groupSourceLead_inj heq] at hmem
        exact hproperty hmem
      rw [Entries.lookup_filter_ne hne]
      exact hvalues e he

/-- The sources of properties, given their fields. -/
def sourcesOf (properties fields : List String) : List CompositeSource :=
  List.zipWith CompositeSource.ofProperty properties fields

theorem map_field_sourcesOf {properties fields : List String}
    (h : fields.length = properties.length) :
    (sourcesOf properties fields).map CompositeSource.field = fields := by
  induction properties generalizing fields with
  | nil => rw [List.length_eq_zero_iff.1 h]; rfl
  | cons property properties ih =>
    cases fields with
    | nil => cases h
    | cons field fields =>
      have ih := @ih fields (by simpa using h)
      rw [sourcesOf] at ih ⊢
      rw [List.zipWith_cons_cons, List.map_cons, ih]
      rfl

theorem compositeSources_eq {r : Resolver} {properties fields : List String}
    (h : properties.mapM (r.variant .sortable) = .ok fields) :
    compositeSources r properties = .ok (sourcesOf properties fields) := by
  rw [mapM_eq_ok_iff] at h
  rw [compositeSources, mapM_eq_ok_iff]
  induction h with
  | nil => exact .nil
  | cons hfield _ ih => exact .cons (by rw [hfield]; rfl) ih

theorem exists_of_compositeSources {r : Resolver} {properties : List String}
    {sources : List CompositeSource} (h : compositeSources r properties = .ok sources) :
    ∃ fields, properties.mapM (r.variant .sortable) = .ok fields ∧
      sources = sourcesOf properties fields := by
  rw [compositeSources, mapM_eq_ok_iff] at h
  induction h with
  | nil => exact ⟨[], rfl, rfl⟩
  | cons hsource _ ih =>
    obtain ⟨field, hfield, hsource⟩ := bind_eq_ok.1 hsource
    obtain ⟨fields, hfields, rfl⟩ := ih
    cases hsource
    exact ⟨field :: fields, mapM_eq_ok_iff.2 (.cons hfield (mapM_eq_ok_iff.1 hfields)), rfl⟩

theorem zip_sourcesOf {properties fields : List String} {key : List Json}
    (h : fields.length = properties.length) :
    ((sourcesOf properties fields).zip key).map (fun (s, value) => (s.name, value)) =
      (properties.zip key).map fun e => (groupSourceLead ++ e.1, e.2) := by
  induction properties generalizing fields key with
  | nil => rfl
  | cons property properties ih =>
    cases fields with
    | nil => cases h
    | cons field fields =>
      cases key with
      | nil => rfl
      | cons value key =>
        have ih := @ih fields key (by simpa using h)
        rw [sourcesOf] at ih ⊢
        rw [List.zipWith_cons_cons, List.zip_cons_cons, List.map_cons, ih]
        rfl

theorem map_fst_zip_names {properties : List String} {key : List Json}
    (h : key.length = properties.length) :
    ((properties.zip key).map fun e => (groupSourceLead ++ e.1, e.2)).map Prod.fst =
      properties.map (groupSourceLead ++ ·) := by
  rw [List.map_map]
  show (properties.zip key).map ((groupSourceLead ++ ·) ∘ Prod.fst) = _
  rw [← List.map_map, List.map_fst_zip (by omega)]

/-- The key of a bucket is read back as it was written. -/
theorem takeKey_bucketKey {properties fields : List String} (hnodup : properties.Nodup)
    {key : List Json} (hfields : fields.length = properties.length)
    (hkey : key.length = properties.length) :
    Executor.takeKey properties (bucketKey (sourcesOf properties fields) key) =
      properties.zip key := by
  have hnames : (((properties.zip key).map fun e => (groupSourceLead ++ e.1, e.2)).map
      Prod.fst).Nodup := by
    rw [map_fst_zip_names hkey]
    exact List.pairwise_map.2 (hnodup.imp fun hne heq => hne (groupSourceLead_inj heq))
  refine Executor.takeKey_eq_zip hnodup hkey fun e he => ?_
  rw [bucketKey, zip_sourcesOf hfields]
  exact Entries.lookup_ofList hnames (e := (groupSourceLead ++ e.1, e.2))
    (List.mem_map_of_mem he)

/-! ## The result of a grouped query -/

section

variable {settings : Settings} {s : Store} {r : Resolver} {q : Query} {docs : List Json}
  {keys : List SortField} {fields : List String} {field : Option String}

theorem length_of_keyOf? {doc : Json} {key : List Json} (h : keyOf? fields doc = some key) :
    key.length = fields.length := by
  induction fields generalizing key with
  | nil =>
    rw [keyOf?_nil] at h
    cases h
    rfl
  | cons field fields ih =>
    obtain ⟨v, vs, -, hvs, rfl⟩ := keyOf?_cons_eq_some.1 h
    rw [List.length_cons, List.length_cons, ih hvs]

/-- Without sort keys documents stay where they are. -/
theorem sortDocuments_nil (docs : Positioned) : sortDocuments [] docs = docs :=
  sortBy_eq_self (List.pairwise_of_forall fun _ _ => by simp [compareDocuments])

theorem Settings.searchRequest_grouped (hsort : sortFields r q.sortKeys = .ok keys)
    (hfield : projectionField r q = .ok field) (hne : q.groupKeys ≠ [])
    (hfields : q.groupKeys.mapM (r.variant .sortable) = .ok fields) :
    settings.searchRequest r q .grouped = .ok {
      index := settings.index, query := q.toClause, size := 0
      source := field.map fun name => [name]
      aggregation := some {
        sources := sourcesOf q.groupKeys fields, size := settings.groupBucketSize
        hitsSize := settings.groupHitsSize, sort := keys } } := by
  have hempty : q.groupKeys.isEmpty = false := by simpa using hne
  rw [searchRequest, hsort, hfield]
  simp only [ok_bind, if_true, hempty, compositeSources_eq hfields]
  rfl

/-- A grouped query with a request has resolved all its properties. -/
theorem Settings.exists_of_searchRequest_grouped {request : SearchRequest}
    (h : settings.searchRequest r q .grouped = .ok request) :
    ∃ keys field fields, sortFields r q.sortKeys = .ok keys ∧ projectionField r q = .ok field ∧
      q.groupKeys ≠ [] ∧ q.groupKeys.mapM (r.variant .sortable) = .ok fields := by
  obtain ⟨keys, hsort, h⟩ := bind_eq_ok.1 h
  obtain ⟨field, hfield, h⟩ := bind_eq_ok.1 h
  rw [if_pos rfl] at h
  split at h
  · cases h
  · next hempty =>
    obtain ⟨sources, hsources, -⟩ := bind_eq_ok.1 h
    obtain ⟨fields, hfields, -⟩ := exists_of_compositeSources hsources
    exact ⟨keys, field, fields, hsort, hfield, by simpa using hempty, hfields⟩

theorem Settings.of_searchRequest_grouped {request : SearchRequest}
    (h : settings.searchRequest r q .grouped = .ok request) :
    q.groupKeys ≠ [] ∧ ∃ field, projectionField r q = .ok field := by
  obtain ⟨_, field, _, -, hfield, hne, -⟩ := settings.exists_of_searchRequest_grouped h
  exact ⟨hne, field, hfield⟩

/-- The groups of a store that a query keeps, in the order of their keys. -/
def firstGroups (bound : Nat) (fields properties : List String) (docs : Positioned) :
    List (List Json × Positioned) :=
  (orderedGroups (sourcesOf properties fields) docs).take bound

/-- The group of some documents as a query returns it. -/
def toGrouping (properties : List String) (keys : List SortField) (field : Option String)
    (size : Nat) (g : List Json × Positioned) : Grouping Json where
  key := properties.zip g.1
  members := ((sortDocuments keys g.2).take size).map fun d => Executor.recordOf field d.2

theorem Executor.execute_grouped (hdocs : s.indexes.lookup settings.index = some docs)
    (hsort : sortFields r q.sortKeys = .ok keys) (hfield : projectionField r q = .ok field)
    (hne : q.groupKeys ≠ []) (hnodup : q.groupKeys.Nodup)
    (hfields : q.groupKeys.mapM (r.variant .sortable) = .ok fields) :
    (Executor.mk settings s.transport r).execute Transcoder.json q .grouped =
      .ok (.grouped ((firstGroups (settings.groupBucketSize.getD defaultPageSize) fields
        q.groupKeys (q.matchesIn docs)).map
          (toGrouping q.groupKeys keys field (settings.groupHitsSize.getD defaultGroupSize)))) := by
  have hrequest := settings.searchRequest_grouped hsort hfield hne hfields
  have hlength : fields.length = q.groupKeys.length := (mapM_eq_ok_iff.1 hfields).length_eq.symm
  have hgrouped := groupsOf_isGrouped (sourcesOf q.groupKeys fields) (q.matchesIn docs)
  rw [map_field_sourcesOf hlength] at hgrouped
  refine (execute_eq_ok (by simp)).2 ⟨_, _, hrequest, Store.search_of_lookup hdocs, ?_⟩
  refine bind_eq_ok.2 ⟨_, ?_, rfl⟩
  simp only [decodeGroups, Option.map_some, aggregate_eq]
  rw [q.sortedMatches_eq docs _ rfl, sortDocuments_nil]
  refine mapM_eq_ok_iff.2 ?_
  rw [List.forall₂_map_left_iff, List.forall₂_map_right_iff, firstGroups, List.forall₂_same]
  intro g hg
  obtain ⟨d, -, hkey⟩ := hgrouped.keyed g (mem_orderedGroups.1 (List.mem_of_mem_take hg))
  have hkeylength := (length_of_keyOf? hkey).trans hlength
  simp only [bucketOf, takeKey_bucketKey hnodup hlength hkeylength, Option.getD_some,
    decodeHits_toHit hfield]
  rfl

end

/-! ## Groups in the order of their keys -/

section

variable {properties fields : List String} {docs : Positioned} {bound size : Nat}
  {keys : List SortField} {field : Option String} {p : Json → Prop}

theorem values_toGrouping {g : List Json × Positioned} (h : g.1.length = properties.length) :
    (toGrouping properties keys field size g).values = g.1 :=
  List.map_snd_zip (by omega)

theorem orderedGroups_pairwise {sources : List CompositeSource}
    (h : IsGrouped fields docs (groupsOf sources docs)) (hp : ∀ d ∈ docs, p d.2)
    (hgroupable : ∀ name ∈ fields,
      ComparableIn name fun doc => p doc ∧ (keyOf? fields doc).isSome) :
    (orderedGroups sources docs).Pairwise fun g h => (compareKeys g.1 h.1).isLE := by
  have hvalues := fun name hname => (hgroupable name hname).isOrderOn
  have horder := (compareKeys_isOrderOn hvalues).comap (Prod.fst : List Json × Positioned → _)
  have hkeyed : ∀ g ∈ groupsOf sources docs, ∃ doc,
      (p doc ∧ (keyOf? fields doc).isSome) ∧ keyOf? fields doc = some g.1 := by
    intro g hg
    obtain ⟨d, hd, hkey⟩ := h.keyed g hg
    exact ⟨d.2, ⟨hp d hd, by rw [hkey]; rfl⟩, hkey⟩
  have hsorted := sortBy_pairwise horder hkeyed
    (List.pairwise_of_forall (R := fun _ _ => True) fun _ _ => trivial)
  exact hsorted.imp StablyBefore.isLE

/-- What a sorted list leaves out does not go before what it keeps. -/
theorem mem_take_or_rel {α : Type} {rel : α → α → Prop} {xs : List α} (h : xs.Pairwise rel)
    {n : Nat} {x y : α} (hx : x ∈ xs.take n) (hy : y ∈ xs) : y ∈ xs.take n ∨ rel x y := by
  rw [← List.take_append_drop n xs] at h hy
  rcases List.mem_append.1 hy with hkept | hleft
  · exact .inl hkept
  · exact .inr ((List.pairwise_append.1 h).2.2 x hx y hleft)

/-- The first groups in the order of their keys split documents whose values compare. -/
theorem partitions_firstGroups (hp : ∀ d ∈ docs, p d.2)
    (hpositions : docs.Pairwise fun a b => a.1 < b.1)
    (hlength : fields.length = properties.length)
    (hsortable : ∀ key ∈ keys, ComparableIn key.field p)
    (hgroupable : ∀ name ∈ fields,
      ComparableIn name fun doc => p doc ∧ (keyOf? fields doc).isSome) :
    Partitions properties fields (Executor.recordOf field) bound size docs
      (sortDocuments keys docs)
      ((firstGroups bound fields properties docs).map (toGrouping properties keys field size)) := by
  have hgrouped := groupsOf_isGrouped (sourcesOf properties fields) docs
  rw [map_field_sourcesOf hlength] at hgrouped
  have hsorted := orderedGroups_pairwise hgrouped hp hgroupable
  have hmem : ∀ g ∈ firstGroups bound fields properties docs,
      g ∈ groupsOf (sourcesOf properties fields) docs := fun g hg =>
    mem_orderedGroups.1 (List.mem_of_mem_take hg)
  have hvalues : ∀ g ∈ firstGroups bound fields properties docs,
      (toGrouping properties keys field size g).values = g.1 := by
    intro g hg
    obtain ⟨d, -, hkey⟩ := hgrouped.keyed g (hmem g hg)
    exact values_toGrouping ((length_of_keyOf? hkey).trans hlength)
  constructor
  case length_eq =>
    rw [List.length_map, firstGroups, List.length_take, (orderedGroups_perm _ _).length_eq,
      ← hgrouped.keys, List.length_map]
  case distinct =>
    have hdistinct := orderedGroups_distinct (sourcesOf properties fields) docs
    refine List.pairwise_map.2 ((hdistinct.sublist (List.take_sublist bound _)).imp_of_mem ?_)
    intro g h hg hh hne
    rw [hvalues g hg, hvalues h hh]
    exact hne
  case ascending =>
    refine List.pairwise_map.2 ((hsorted.sublist (List.take_sublist bound _)).imp_of_mem ?_)
    intro g h hg hh hle
    rw [hvalues g hg, hvalues h hh]
    exact hle
  case first =>
    intro _ hmap d hd key hkey habsent
    obtain ⟨g, hg, rfl⟩ := List.mem_map.1 hmap
    obtain ⟨h, hh, hsame⟩ := hgrouped.complete d hd key hkey
    rw [hvalues g hg, ← compareKeys_congr hsame]
    rcases mem_take_or_rel hsorted hg (mem_orderedGroups.2 hh) with hkept | hle
    · have hne := habsent _ (List.mem_map_of_mem hkept)
      rw [hvalues h hkept, hsame] at hne
      cases hne
    · exact hle
  case named =>
    intro _ hmap
    obtain ⟨g, hg, rfl⟩ := List.mem_map.1 hmap
    obtain ⟨d, -, hkey⟩ := hgrouped.keyed g (hmem g hg)
    have hkeylength := (length_of_keyOf? hkey).trans hlength
    exact List.map_fst_zip (by omega)
  case keyed =>
    intro _ hmap
    obtain ⟨g, hg, rfl⟩ := List.mem_map.1 hmap
    rw [hvalues g hg]
    exact hgrouped.keyed g (hmem g hg)
  case members_eq =>
    intro _ hmap
    obtain ⟨g, hg, rfl⟩ := List.mem_map.1 hmap
    have horder := compareDocuments_isOrderOn fun key hkey => (hsortable key hkey).isOrderOn
    rw [hvalues g hg, ← sortDocuments_filter horder hp hpositions, ← hgrouped.members g (hmem g hg)]
    rfl

end

/-! ## Main theorem -/

/-- A grouped result by properties that differ, where the values of every sort and group field
compare, splits the matches of the query. -/
theorem grouped_partitions {settings : Settings} {s : Store} {r : Resolver} {q : Query}
    {docs : List Json} {keys : List SortField} {fields : List String}
    {groups : List (Grouping Json)}
    (hdocs : s.indexes.lookup settings.index = some docs)
    (hsort : sortFields r q.sortKeys = .ok keys)
    (hfields : q.groupKeys.mapM (r.variant .sortable) = .ok fields)
    (hnodup : q.groupKeys.Nodup)
    (hsortable : ∀ key ∈ keys, ComparableIn key.field (q.Finds docs))
    (hgroupable : ∀ name ∈ fields,
      ComparableIn name fun doc => q.Finds docs doc ∧ (keyOf? fields doc).isSome)
    (h : (Executor.mk settings s.transport r).execute Transcoder.json q .grouped =
      .ok (.grouped groups)) :
    ∃ field sorted, projectionField r q = .ok field ∧
      IsStableSort keys (q.matchesIn docs) sorted ∧
      Partitions q.groupKeys fields (Executor.recordOf field)
        (settings.groupBucketSize.getD defaultPageSize)
        (settings.groupHitsSize.getD defaultGroupSize) (q.matchesIn docs) sorted groups := by
  obtain ⟨request, -, hrequest, -⟩ := (Executor.execute_eq_ok (by simp)).1 h
  obtain ⟨hne, field, hfield⟩ := Settings.of_searchRequest_grouped hrequest
  rw [Executor.execute_grouped hdocs hsort hfield hne hnodup hfields] at h
  cases h
  have hlength : fields.length = q.groupKeys.length := (mapM_eq_ok_iff.1 hfields).length_eq.symm
  refine ⟨field, _, hfield, Query.sortDocuments_matchesIn hsortable, ?_⟩
  exact partitions_firstGroups (fun _ hd => Query.finds_of_mem hd) (q.matchesIn_pairwise docs)
    hlength hsortable hgroupable

/-- Three tickets are in two groups, and the one without a value is in none. -/
theorem grouped_partitions_ticket :
    let doc (done urgent : Bool) := Json.object [("done", .bool done), ("urgent", .bool urgent)]
    let docs := [doc true true, doc false true, .object [("urgent", .bool true)], doc true false]
    let s : Store := ⟨[("tickets", docs)]⟩
    let e := Executor.mk { index := "tickets" } s.transport ticketIndex.resolver
    let q : Query := { sortKeys := [⟨"Urgent", .asc⟩], groupKeys := ["Done"] }
    let groups : List (Grouping Json) :=
      [⟨[("Done", .bool false)], [doc false true]⟩,
        ⟨[("Done", .bool true)], [doc true false, doc true true]⟩]
    e.execute Transcoder.json q .grouped = .ok (.grouped groups) ∧
      ∃ sorted, IsStableSort [⟨"urgent", .asc⟩] (q.matchesIn docs) sorted ∧
        Partitions ["Done"] ["done"] (Executor.recordOf none) 10 3 (q.matchesIn docs) sorted
          groups := by
  intro doc docs s e q groups
  have hurgent : ComparableIn "urgent" (q.Finds docs) := Query.comparableIn_finds .truthValues rfl
  have hdone : ComparableIn "done" (q.Finds docs) := Query.comparableIn_finds .truthValues rfl
  have hdocs : s.indexes.lookup e.settings.index = some docs := by rfl
  have hsort : sortFields e.resolver q.sortKeys = .ok [⟨"urgent", .asc⟩] := by rfl
  have hfields : q.groupKeys.mapM (e.resolver.variant .sortable) = .ok ["done"] := by rfl
  have h : e.execute Transcoder.json q .grouped = .ok (.grouped groups) := by rfl
  obtain ⟨field, sorted, hfield, hstable, hgroups⟩ :=
    grouped_partitions hdocs hsort hfields (by decide) (List.forall_mem_singleton.2 hurgent)
      (List.forall_mem_singleton.2 (hdone.mono fun _ hd => hd.1)) h
  cases hfield
  exact ⟨h, sorted, hstable, hgroups⟩

end DocQuery
