import DocQuery.Proofs.Json.Parts

/-
  Documents reduced to some fields.
  Putting the value of one field into what is kept of a document takes nothing away
  (`insertPath_isPart`), so taking the fields one by one ends with the smallest part of the document
  that has all their values (`foldl_isProjection`). There is only one such part, whatever the order
  of the fields is and however often they are named (`project_keeps_asked`).
-/

namespace DocQuery

open Document

/-! ## Putting one value at its path -/

namespace Document

/-- The entries of the object under a key; none if nothing is there. -/
def InnerEntries (entries : List (String × Json)) (key : String) (inner : List (String × Json)) :
    Prop :=
  entries.lookup key = none ∧ inner = [] ∨ entries.lookup key = some (.object inner)

section

variable {xs ys zs inner : List (String × Json)} {key next : String} {rest path : List String}
  {value : Json}

theorem lookup_innerEntries (h : InnerEntries xs key inner) (hne : path ≠ []) :
    lookup path (.object inner) = lookup (key :: path) (.object xs) := by
  rw [lookup_cons_object]
  rcases h with ⟨h, rfl⟩ | h
  · obtain ⟨name, rest, rfl⟩ := List.exists_cons_of_ne_nil hne
    rw [h]
    rfl
  · rw [h]
    rfl

theorem insertPath_cons (h : InnerEntries xs key inner) :
    insertPath (key :: next :: rest) value xs =
      Entries.insert key (.object (insertPath (next :: rest) value inner)) xs := by
  rw [insertPath]
  · rcases h with ⟨h, rfl⟩ | h <;> rw [h]
  · simp

/-- A longer path goes on inside the object under its first key, or nothing happens. -/
theorem insertPath_cases (key next : String) (rest : List String) (value : Json)
    (xs : List (String × Json)) :
    (∃ inner, InnerEntries xs key inner) ∨ insertPath (key :: next :: rest) value xs = xs := by
  cases hkey : xs.lookup key with
  | none => exact .inl ⟨[], .inl ⟨hkey, rfl⟩⟩
  | some v =>
    cases v with
    | object inner => exact .inl ⟨inner, .inr hkey⟩
    | _ => exact .inr (by simp [insertPath, hkey])

theorem exists_innerEntries (h : (Json.object xs).IsPart (.object ys))
    (hkey : ys.lookup key = some (.object zs)) :
    ∃ inner, InnerEntries xs key inner ∧ (Json.object inner).IsPart (.object zs) := by
  cases hv : xs.lookup key with
  | none => exact ⟨[], .inl ⟨hv, rfl⟩, .nil zs⟩
  | some v =>
    obtain ⟨w, hw, hpart⟩ := Json.isPart_object.1 h key v hv
    rw [hkey] at hw
    cases hw
    cases hpart with
    | refl => exact ⟨zs, .inr hv, .refl _⟩
    | entries keys values => exact ⟨_, .inr hv, .entries keys values⟩

/-- Putting a value of a document at its path into a part of it gives a part again, which has lost
nothing and has the value at the path. -/
theorem insertPath_isPart (hne : path ≠ []) (h : (Json.object xs).IsPart (.object ys))
    (hvalue : lookup path (.object ys) = some value) :
    (Json.object (insertPath path value xs)).IsPart (.object ys) ∧
      (Json.object xs).IsPart (.object (insertPath path value xs)) ∧
      lookup path (.object (insertPath path value xs)) = some value := by
  induction path generalizing xs ys with
  | nil => exact absurd rfl hne
  | cons key rest ih =>
    rw [lookup_cons_object] at hvalue
    obtain ⟨w, hw, hrest⟩ := Option.bind_eq_some_iff.1 hvalue
    cases rest with
    | nil =>
      cases hrest
      refine ⟨h.insert hw (.refl value), .of_insert fun u hu => ?_, ?_⟩
      · obtain ⟨w', hw', hpart⟩ := Json.isPart_object.1 h key u hu
        rw [hw] at hw'
        cases hw'
        exact hpart
      · rw [lookup_cons_object, insertPath, Entries.lookup_insert_self]
        rfl
    | cons next rest =>
      cases w with
      | object zs =>
        obtain ⟨inner, hinner, hpart⟩ := exists_innerEntries h hw
        obtain ⟨hin, hkept, hthere⟩ := ih (by simp) hpart hrest
        rw [insertPath_cons hinner]
        refine ⟨h.insert hw hin, .of_insert fun u hu => ?_, ?_⟩
        · rcases hinner with ⟨hnone, -⟩ | hinner
          · rw [hnone] at hu
            cases hu
          · rw [hinner] at hu
            cases hu
            exact hkept
        · rw [lookup_cons_object, Entries.lookup_insert_self]
          exact hthere
      | _ => cases hrest

theorem isOrdered_insert (h : (Json.object xs).IsOrdered) (hvalue : value.IsOrdered) :
    (Json.object (Entries.insert key value xs)).IsOrdered := by
  rw [Json.isOrdered_object] at h ⊢
  refine ⟨Entries.pairwise_insert h.1, fun name v hv => ?_⟩
  rw [Entries.lookup_insert] at hv
  split at hv
  · cases hv
    exact hvalue
  · exact h.2 name v hv

theorem isOrdered_insertPath (h : (Json.object xs).IsOrdered) (hvalue : value.IsOrdered) :
    (Json.object (insertPath path value xs)).IsOrdered := by
  induction path generalizing xs with
  | nil => exact h
  | cons key rest ih =>
    cases rest with
    | nil => exact isOrdered_insert h hvalue
    | cons next rest =>
      rcases insertPath_cases key next rest value xs with ⟨inner, hinner⟩ | hsame
      · rw [insertPath_cons hinner]
        refine isOrdered_insert h (ih ?_)
        rcases hinner with ⟨-, rfl⟩ | hinner
        · exact Json.isOrdered_nil
        · exact (Json.isOrdered_object.1 h).2 key _ hinner
      · rw [hsame]
        exact h

theorem lookup_insertPath_of_ne {name : String} (h : name ≠ key) :
    (insertPath (key :: rest) value xs).lookup name = xs.lookup name := by
  cases rest with
  | nil => exact Entries.lookup_insert_of_ne h value xs
  | cons next rest =>
    rcases insertPath_cases key next rest value xs with ⟨inner, hinner⟩ | hsame
    · rw [insertPath_cons hinner, Entries.lookup_insert_of_ne h]
    · rw [hsame]

/-- A path that does not lead through another one, and does not go on from it either, leads to what
was there before. -/
theorem lookup_insertPath_of_apart {other : List String} (h : ¬other <+: path)
    (h' : ¬path <+: other) :
    lookup other (.object (insertPath path value xs)) = lookup other (.object xs) := by
  induction path generalizing other xs with
  | nil => exact absurd List.nil_prefix h'
  | cons key rest ih =>
    cases other with
    | nil => exact absurd List.nil_prefix h
    | cons name others =>
      by_cases hname : name = key
      · subst hname
        rw [List.cons_prefix_cons, and_iff_right rfl] at h h'
        cases rest with
        | nil => exact absurd List.nil_prefix h'
        | cons next rest =>
          rcases insertPath_cases name next rest value xs with ⟨inner, hinner⟩ | hsame
          · have hothers : others ≠ [] := fun hnil => h (hnil ▸ List.nil_prefix)
            rw [insertPath_cons hinner, ← lookup_innerEntries hinner hothers, ← ih h h',
              lookup_cons_object, Entries.lookup_insert_self]
            rfl
          · rw [hsame]
      · rw [lookup_cons_object, lookup_cons_object, lookup_insertPath_of_ne hname]

end

/-! ## All fields -/

/-- What a projection does with one field. -/
def keepField (doc : Json) (kept : List (String × Json)) (field : String) :
    List (String × Json) :=
  match lookup (path field) doc with
  | none => kept
  | some value => insertPath (path field) value kept

theorem path_ne_nil (field : String) : path field ≠ [] :=
  segments_ne_nil _

theorem keepField_of_none {doc : Json} {field : String} (h : lookup (path field) doc = none)
    (kept : List (String × Json)) : keepField doc kept field = kept := by
  unfold keepField
  rw [h]

theorem keepField_of_some {doc value : Json} {field : String}
    (h : lookup (path field) doc = some value) (kept : List (String × Json)) :
    keepField doc kept field = insertPath (path field) value kept := by
  unfold keepField
  rw [h]

theorem project_eq (fields : List String) (doc : Json) :
    project fields doc = .object (fields.foldl (keepField (.object doc.contents)) []) := by
  unfold project
  refine congrArg (fun keep => Json.object (fields.foldl keep [])) ?_
  funext kept field
  have hlookup := Json.lookup_contents (path_ne_nil field) doc
  cases hvalue : lookup (path field) doc with
  | none => exact (keepField_of_none (hlookup.trans hvalue) kept).symm
  | some value => exact (keepField_of_some (hlookup.trans hvalue) kept).symm

theorem lookup_project_singleton (field : String) (doc : Json) :
    lookup (path field) (project [field] doc) = lookup (path field) doc := by
  have hne := path_ne_nil field
  rw [project_eq, List.foldl_cons, List.foldl_nil, ← Json.lookup_contents hne doc]
  cases hvalue : lookup (path field) (.object doc.contents) with
  | none =>
    rw [keepField_of_none hvalue]
    obtain ⟨key, rest, hpath⟩ := List.exists_cons_of_ne_nil hne
    rw [hpath]
    rfl
  | some value =>
    rw [keepField_of_some hvalue]
    exact (insertPath_isPart hne (.nil _) hvalue).2.2

/-- Entries that are kept of a document for the sake of some fields: a part of the document that has
the values of the fields and nothing but what these values need. -/
structure IsProjection (fields : List String) (doc kept : List (String × Json)) : Prop where
  ordered : (Json.object kept).IsOrdered
  part : (Json.object kept).IsPart (.object doc)
  values : ∀ field ∈ fields,
    lookup (path field) (.object kept) = lookup (path field) (.object doc)
  /-- Every object with these values has all that is kept. -/
  least : ∀ other : List (String × Json),
    (∀ field ∈ fields, lookup (path field) (.object other) = lookup (path field) (.object doc)) →
      (Json.object kept).IsPart (.object other)
  /-- What is kept stands on the way to the value of a field or inside it. -/
  asked : ∀ p v, lookup p (.object kept) = some v → p = [] ∨ ∃ field ∈ fields,
    (lookup (path field) (.object doc)).isSome ∧ (p <+: path field ∨ path field <+: p)

/-- Between a value and a part of it that leads to the same along a path, all parts do. -/
theorem lookup_eq_of_between {a b c : Json} {p : List String} (hab : a.IsPart b) (hbc : b.IsPart c)
    (hb : b.IsOrdered) (hc : c.IsOrdered) (h : lookup p a = lookup p c) :
    lookup p b = lookup p c := by
  cases hv : lookup p c with
  | none =>
    cases hw : lookup p b with
    | none => rfl
    | some w =>
      obtain ⟨v, hv', -⟩ := hbc.exists_lookup hw
      rw [hv] at hv'
      cases hv'
  | some v =>
    obtain ⟨w, hw, hvw⟩ := hab.exists_lookup (h.trans hv)
    obtain ⟨v', hv', hwv⟩ := hbc.exists_lookup hw
    rw [hv] at hv'
    cases hv'
    rw [hw, hwv.antisymm hvw (hb.of_lookup hw) (hc.of_lookup hv)]

namespace IsProjection

variable {fields others : List String} {doc kept again : List (String × Json)}

theorem nil (doc : List (String × Json)) : IsProjection [] doc [] where
  ordered := Json.isOrdered_nil
  part := .nil doc
  values := by simp
  least other _ := .nil other
  asked p v h := by
    cases p with
    | nil => exact .inl rfl
    | cons key rest => cases h

/-- One more field without a value changes nothing. -/
theorem concat_of_none (h : IsProjection fields doc kept) {field : String}
    (hnone : lookup (path field) (.object doc) = none) :
    IsProjection (fields ++ [field]) doc kept where
  ordered := h.ordered
  part := h.part
  values := by
    refine List.forall_mem_append.2 ⟨h.values, List.forall_mem_singleton.2 ?_⟩
    cases hv : lookup (path field) (.object kept) with
    | none => rw [hnone]
    | some v =>
      obtain ⟨w, hw, -⟩ := h.part.exists_lookup hv
      rw [hnone] at hw
      cases hw
  least other hother := h.least other (List.forall_mem_append.1 hother).1
  asked p v hv := (h.asked p v hv).imp_right fun ⟨g, hg, hasked⟩ =>
    ⟨g, List.mem_append_left _ hg, hasked⟩

/-- One more field with a value adds it. -/
theorem concat_of_some (h : IsProjection fields doc kept) (hdoc : (Json.object doc).IsOrdered)
    {field : String} {value : Json} (hvalue : lookup (path field) (.object doc) = some value) :
    IsProjection (fields ++ [field]) doc (insertPath (path field) value kept) := by
  obtain ⟨hpart, hkept, hthere⟩ := insertPath_isPart (path_ne_nil field) h.part hvalue
  have hordered : (Json.object (insertPath (path field) value kept)).IsOrdered :=
    isOrdered_insertPath h.ordered (hdoc.of_lookup hvalue)
  refine ⟨hordered, hpart, ?values, ?least, ?asked⟩
  case values =>
    refine List.forall_mem_append.2 ⟨fun g hg => ?_, List.forall_mem_singleton.2 ?_⟩
    · exact lookup_eq_of_between hkept hpart hordered hdoc (h.values g hg)
    · rw [hthere, hvalue]
  case least =>
    intro other hother
    obtain ⟨hothers, hfield⟩ := List.forall_mem_append.1 hother
    have hfield := (List.forall_mem_singleton.1 hfield).trans hvalue
    exact (insertPath_isPart (path_ne_nil field) (h.least other hothers) hfield).1
  case asked =>
    intro p v hv
    by_cases hp : p <+: path field ∨ path field <+: p
    · exact .inr ⟨field, by simp, by simp [hvalue], hp⟩
    · obtain ⟨hp, hp'⟩ := not_or.1 hp
      rw [lookup_insertPath_of_apart hp hp'] at hv
      refine (h.asked p v hv).imp_right fun ⟨g, hg, hasked⟩ => ?_
      exact ⟨g, List.mem_append_left _ hg, hasked⟩

theorem keepField (h : IsProjection fields doc kept) (hdoc : (Json.object doc).IsOrdered)
    (field : String) :
    IsProjection (fields ++ [field]) doc (keepField (.object doc) kept field) := by
  cases hvalue : lookup (path field) (.object doc) with
  | none =>
    rw [keepField_of_none hvalue]
    exact h.concat_of_none hvalue
  | some value =>
    rw [keepField_of_some hvalue]
    exact h.concat_of_some hdoc hvalue

/-- What is kept for the sake of the same fields is the same. -/
theorem unique (h : IsProjection fields doc kept) (h' : IsProjection others doc again)
    (hfields : ∀ field, field ∈ others ↔ field ∈ fields) : again = kept := by
  have hkept := h.least again fun field hfield => h'.values field ((hfields field).2 hfield)
  have hagain := h'.least kept fun field hfield => h.values field ((hfields field).1 hfield)
  have heq := hagain.antisymm hkept h'.ordered h.ordered
  cases heq
  rfl

/-- Nothing of what is kept is left out the next time. -/
theorem idem (h : IsProjection fields doc kept) (h' : IsProjection fields kept again) :
    again = kept := by
  have hkept := h.least again fun field hfield =>
    (h'.values field hfield).trans (h.values field hfield)
  have heq := h'.part.antisymm hkept h'.ordered h.ordered
  cases heq
  rfl

end IsProjection

/-- Taking the fields one by one keeps their projection. -/
theorem foldl_isProjection {doc : List (String × Json)} (hdoc : (Json.object doc).IsOrdered)
    (fields : List String) :
    IsProjection fields doc (fields.foldl (keepField (.object doc)) []) := by
  induction fields using List.reverseRecOn with
  | nil => exact .nil doc
  | append_singleton fields field ih =>
    rw [List.foldl_append, List.foldl_cons, List.foldl_nil]
    exact ih.keepField hdoc field

/-! ## Main theorem -/

/-- A projection has the values of the fields and nothing else: whatever path leads somewhere in it
leads somewhere in the document, to a value that has what is found, and is the way to a field or
goes on from it. It does not depend on the order and the repetitions of the fields, and the
projection of a projection is the same again. -/
theorem project_keeps_asked {doc : Json} (hdoc : doc.IsOrdered) (fields : List String) :
    (∀ field ∈ fields, lookup (path field) (project fields doc) = lookup (path field) doc) ∧
    (∀ p v, p ≠ [] → lookup p (project fields doc) = some v →
      (∃ w, lookup p doc = some w ∧ v.IsPart w) ∧
      ∃ field ∈ fields, (lookup (path field) doc).isSome ∧
        (p <+: path field ∨ path field <+: p)) ∧
    (∀ others : List String, (∀ field, field ∈ others ↔ field ∈ fields) →
      project others doc = project fields doc) ∧
    project fields (project fields doc) = project fields doc := by
  have h := foldl_isProjection hdoc.contents fields
  refine ⟨fun field hfield => ?values, fun p v hne hv => ?part, fun others hothers => ?order,
    ?again⟩
  case values =>
    rw [project_eq, h.values field hfield, Json.lookup_contents (path_ne_nil field)]
  case part =>
    rw [project_eq] at hv
    obtain ⟨w, hw, hpart⟩ := h.part.exists_lookup hv
    rw [Json.lookup_contents hne] at hw
    obtain ⟨field, hfield, hsome, hway⟩ := (h.asked p v hv).resolve_left hne
    rw [Json.lookup_contents (path_ne_nil field)] at hsome
    exact ⟨⟨w, hw, hpart⟩, field, hfield, hsome, hway⟩
  case order =>
    rw [project_eq, project_eq, h.unique (foldl_isProjection hdoc.contents others) hothers]
  case again =>
    have hagain := foldl_isProjection h.ordered fields
    rw [project_eq fields doc, project_eq]
    exact congrArg Json.object (h.idem hagain)

/-- A field inside another one changes nothing, before it or behind it, and a path that leads
nowhere leaves no trace. -/
theorem project_keeps_asked_ticket :
    let draft := Draft.object
      [("done", .null), ("by", .object [("team", .string "red"), ("role", .string "editor")])]
    let doc := Json.object
      [("by", .object [("role", .string "editor"), ("team", .string "red")]), ("done", .null)]
    let kept := Json.object
      [("by", .object [("role", .string "editor"), ("team", .string "red")])]
    draft.toJson? = some doc ∧ project ["by.role", "by", "done.at"] doc = kept ∧
      project ["by", "done.at", "by", "by.role"] doc = kept ∧
      project ["by.role", "by", "done.at"] kept = kept := by
  intro draft doc kept
  have hread : draft.toJson? = some doc := by rfl
  have hkept : project ["by.role", "by", "done.at"] doc = kept := by rfl
  have h :=
    project_keeps_asked (Draft.isOrdered_of_toJson? draft hread) ["by.role", "by", "done.at"]
  rw [hkept] at h
  refine ⟨hread, hkept, ?_, h.2.2.2⟩
  exact h.2.2.1 _ (by simp; tauto)

end Document

end DocQuery
