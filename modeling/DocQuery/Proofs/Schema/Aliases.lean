import DocQuery.Proofs.Document.Fields

/-
  Names that two properties share.
  The check of a declaration compares the plain names of the properties. A property has a second
  name, the one of its untokenised form, and nothing keeps another property from having that one as
  its plain name; documents are then read at one place for both. This is the only way in which two
  properties of a valid declaration meet (`meet_iff_of_validate`).
-/

namespace DocQuery

namespace IndexDeclaration

open Document

/-! ## The names and places of a property -/

/-- The name of the untokenised form of the field of a property, if it has that form. -/
def keywordName (index : IndexDeclaration) (property : String) : String :=
  index.fieldName property ++ "." ++ keywordSuffix

/-- Whether a name is the plain one of a property or that of a form of its field. -/
def ResolvesTo (index : IndexDeclaration) (property name : String) : Prop :=
  (∃ resolved, index.resolve property = .ok resolved ∧ resolved.name = name) ∨
    ∃ variant, index.resolveVariant variant property = .ok name

/-- Whether documents are read at a place for a property, under any of its names. -/
def ReadsAt (index : IndexDeclaration) (property : String) (place : List String) : Prop :=
  ∃ name, index.ResolvesTo property name ∧ path name = place

variable {index : IndexDeclaration} {p q property name : String} {f g field : FieldDeclaration}

theorem resolvesTo_iff (hfield : index.field? property = some field) :
    index.ResolvesTo property name ↔ name = index.fieldName property ∨
      field.keyword = true ∧ name = index.keywordName property := by
  constructor
  · rintro (⟨resolved, hresolved, rfl⟩ | ⟨variant, hvariant⟩)
    · obtain ⟨_, -, rfl⟩ := resolve_eq_ok.1 hresolved
      exact Or.inl rfl
    · obtain ⟨field', hfield', hname⟩ := exists_of_resolveVariant hvariant
      rw [hfield, Option.some.injEq] at hfield'
      exact hfield' ▸ hname
  · rintro (rfl | ⟨hkeyword, rfl⟩)
    · exact Or.inl ⟨_, resolve_eq_ok.2 ⟨field, hfield, rfl⟩, rfl⟩
    · refine Or.inr ⟨.exact, ?_⟩
      rw [resolveVariant_exact hfield, if_pos hkeyword, keywordName]

theorem readsAt_iff (hfield : index.field? property = some field) {place : List String} :
    index.ReadsAt property place ↔ place = path (index.fieldName property) ∨
      field.keyword = true ∧ place = segments (index.fieldName property) := by
  simp only [ReadsAt, resolvesTo_iff hfield, or_and_right, exists_or, exists_eq_left, and_assoc,
    exists_and_left, keywordName, path_append, eq_comm]

/-! ## Where two properties meet -/

theorem keywordName_inj :
    index.keywordName p = index.keywordName q ↔ index.fieldName p = index.fieldName q := by
  simp only [keywordName, String.append_left_inj]

/-- Properties with different plain names share a name only if the plain name of the one is that of
the untokenised form of the other. -/
theorem shareName_iff (hp : index.field? p = some f) (hq : index.field? q = some g)
    (hne : index.fieldName p ≠ index.fieldName q) :
    (∃ name, index.ResolvesTo p name ∧ index.ResolvesTo q name) ↔
      f.keyword = true ∧ index.fieldName q = index.keywordName p ∨
      g.keyword = true ∧ index.fieldName p = index.keywordName q := by
  simp only [resolvesTo_iff hp, resolvesTo_iff hq]
  constructor
  · rintro ⟨name, rfl | ⟨hf, rfl⟩, hname | ⟨hg, hname⟩⟩
    · exact absurd hname hne
    · exact Or.inr ⟨hg, hname⟩
    · exact Or.inl ⟨hf, hname.symm⟩
    · exact absurd (keywordName_inj.1 hname) hne
  · rintro (⟨hf, hname⟩ | ⟨hg, hname⟩)
    · exact ⟨_, Or.inr ⟨hf, rfl⟩, Or.inl hname.symm⟩
    · exact ⟨_, Or.inl rfl, Or.inr ⟨hg, hname⟩⟩

theorem stripKeyword_fieldName_eq_iff (hne : index.fieldName p ≠ index.fieldName q) :
    stripKeyword (index.fieldName p) = index.fieldName q ↔
      index.fieldName p = index.keywordName q := by
  rw [stripKeyword_eq_iff, keywordName, or_iff_left fun h => hne h.1]

/-- Of two different names that are read at one place, one has the ending of an untokenised form
and the other, which has none, stands before that ending. -/
theorem stripKeyword_fieldNames_eq_iff (hne : index.fieldName p ≠ index.fieldName q) :
    stripKeyword (index.fieldName p) = stripKeyword (index.fieldName q) ↔
      index.fieldName q = index.keywordName p ∧
        stripKeyword (index.fieldName p) = index.fieldName p ∨
      index.fieldName p = index.keywordName q ∧
        stripKeyword (index.fieldName q) = index.fieldName q := by
  constructor
  · intro h
    rcases stripKeyword_cases (index.fieldName p) with hkept | ⟨base, hbase⟩
    · refine Or.inl ⟨?_, hkept⟩
      rw [hkept] at h
      exact (stripKeyword_fieldName_eq_iff hne.symm).1 h.symm
    · rw [hbase, stripKeyword_append] at h
      -- Both names cannot have the ending: without it they are the same text.
      rcases stripKeyword_eq_iff.1 h.symm with hended | ⟨hkept, hbare⟩
      · exact absurd (hbase.trans hended.symm) hne
      · rw [← hkept] at hbare hbase
        exact Or.inr ⟨hbase, hbare⟩
  · rintro (⟨hname, hkept⟩ | ⟨hname, hkept⟩)
    · rw [hname, hkept, keywordName, stripKeyword_append]
    · rw [hname, hkept, keywordName, stripKeyword_append]

/-- Documents are read at one place for properties with different plain names only if the plain name
of the one is that of the untokenised form of the other, and the other is read at its own name. -/
theorem sharePlace_iff (hp : index.field? p = some f) (hq : index.field? q = some g)
    (hne : index.fieldName p ≠ index.fieldName q) :
    (∃ place, index.ReadsAt p place ∧ index.ReadsAt q place) ↔
      index.fieldName q = index.keywordName p ∧
        (stripKeyword (index.fieldName p) = index.fieldName p ∨ f.keyword = true) ∨
      index.fieldName p = index.keywordName q ∧
        (stripKeyword (index.fieldName q) = index.fieldName q ∨ g.keyword = true) := by
  have hplaces : (∃ place, index.ReadsAt p place ∧ index.ReadsAt q place) ↔
      stripKeyword (index.fieldName p) = stripKeyword (index.fieldName q) ∨
      stripKeyword (index.fieldName q) = index.fieldName p ∧ f.keyword = true ∨
      stripKeyword (index.fieldName p) = index.fieldName q ∧ g.keyword = true := by
    simp only [readsAt_iff hp, readsAt_iff hq]
    constructor
    · rintro ⟨place, rfl | ⟨hf, rfl⟩, hplace | ⟨hg, hplace⟩⟩
      · exact Or.inl (path_eq_path.1 hplace)
      · exact Or.inr (Or.inr ⟨segments_injective hplace, hg⟩)
      · exact Or.inr (Or.inl ⟨segments_injective hplace.symm, hf⟩)
      · exact absurd (segments_injective hplace) hne
    · rintro (hplace | ⟨hplace, hf⟩ | ⟨hplace, hg⟩)
      · exact ⟨_, Or.inl rfl, Or.inl (path_eq_path.2 hplace)⟩
      · exact ⟨_, Or.inr ⟨hf, rfl⟩, Or.inl (by rw [path, hplace])⟩
      · exact ⟨_, Or.inl rfl, Or.inr ⟨hg, by rw [path, hplace]⟩⟩
  rw [hplaces, stripKeyword_fieldNames_eq_iff hne, stripKeyword_fieldName_eq_iff hne,
    stripKeyword_fieldName_eq_iff hne.symm, or_or_or_comm, ← and_or_left, ← and_or_left]

theorem fieldName_ne_of_validate (h : index.validate = .ok ()) (hp : index.field? p = some f)
    (hq : index.field? q = some g) (hne : p ≠ q) : index.fieldName p ≠ index.fieldName q := by
  obtain ⟨-, -, hnames⟩ := validate_eq_ok.1 h
  intro hname
  exact hne ((nodup_fieldNames (isKeyed_of_nodup_fieldNames hnames)).1 hnames
    p (mem_properties_of_field? hp) q (mem_properties_of_field? hq) hname)

end IndexDeclaration

/-! ## Main theorem -/

open IndexDeclaration Document

/-- Two properties of a valid declaration share a name exactly if the plain name of the one is that
of the untokenised form the other has. Documents are read at one place for both exactly if the plain
name of the one would be that of the untokenised form of the other, and the other has that form or a
name that does not end like one itself. -/
theorem meet_iff_of_validate {index : IndexDeclaration} (hvalid : index.validate = .ok ())
    {p q : String} {f g : FieldDeclaration} (hp : index.field? p = some f)
    (hq : index.field? q = some g) (hne : p ≠ q) :
    ((∃ name, index.ResolvesTo p name ∧ index.ResolvesTo q name) ↔
      f.keyword = true ∧ index.fieldName q = index.keywordName p ∨
      g.keyword = true ∧ index.fieldName p = index.keywordName q) ∧
    ((∃ place, index.ReadsAt p place ∧ index.ReadsAt q place) ↔
      index.fieldName q = index.keywordName p ∧
        (stripKeyword (index.fieldName p) = index.fieldName p ∨ f.keyword = true) ∨
      index.fieldName p = index.keywordName q ∧
        (stripKeyword (index.fieldName q) = index.fieldName q ∨ g.keyword = true)) :=
  have hnames := fieldName_ne_of_validate hvalid hp hq hne
  ⟨shareName_iff hp hq hnames, sharePlace_iff hp hq hnames⟩

/-- A number has no untokenised form, so its name is not shared, but a text that is called like such
a form is read at its place. -/
theorem meet_iff_size :
    let size : FieldDeclaration := { type := .numeric }
    let text : FieldDeclaration := .renamed { type := .text } "size.keyword"
    let index : IndexDeclaration :=
      { name := "tickets", fields := [("Size", size), ("Text", text)] }
    index.validate = .ok () ∧
      (¬∃ name, index.ResolvesTo "Size" name ∧ index.ResolvesTo "Text" name) ∧
      ∃ place, index.ReadsAt "Size" place ∧ index.ReadsAt "Text" place := by
  intro size text index
  have hvalid : index.validate = .ok () :=
    validate_eq_ok.2 ⟨by decide, by decide, by decide +kernel⟩
  have hsize : index.fieldName "Size" = "size" := by decide +kernel
  have htext : index.fieldName "Text" = "size.keyword" := by decide +kernel
  obtain ⟨hname, hplace⟩ := meet_iff_of_validate hvalid (p := "Size") (q := "Text")
    (f := size) (g := text) rfl rfl (by decide)
  refine ⟨hvalid, fun h => ?_, hplace.2 (Or.inl ⟨?_, Or.inl ?_⟩)⟩
  · rcases hname.1 h with ⟨hkeyword, -⟩ | ⟨hkeyword, -⟩ <;> cases hkeyword
  · rw [htext, keywordName, hsize]
    rfl
  · rw [hsize]
    decide +kernel

/-- The exact form of one property and the plain name of another are one name, which documents are
read at one place for. -/
theorem title_meets_raw :
    let title : FieldDeclaration := .withKeyword { type := .text }
    let raw : FieldDeclaration := .renamed { type := .text } "title.keyword"
    let index : IndexDeclaration :=
      { name := "tickets", fields := [("Title", title), ("Raw", raw)] }
    index.validate = .ok () ∧ index.resolveVariant .exact "Title" = .ok "title.keyword" ∧
      index.resolve "Raw" = .ok ⟨"title.keyword", .text⟩ ∧
      index.ReadsAt "Title" ["title"] ∧ index.ReadsAt "Raw" ["title"] := by
  intro title raw index
  have hexact : index.resolveVariant .exact "Title" = .ok "title.keyword" := by decide +kernel
  have hraw : index.resolve "Raw" = .ok ⟨"title.keyword", .text⟩ := by decide +kernel
  have hplace : path "title.keyword" = ["title"] := by decide +kernel
  exact ⟨validate_eq_ok.2 ⟨by decide, by decide, by decide +kernel⟩, hexact, hraw,
    ⟨_, Or.inr ⟨_, hexact⟩, hplace⟩, ⟨_, Or.inl ⟨_, hraw, rfl⟩, hplace⟩⟩

end DocQuery
