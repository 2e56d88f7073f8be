import DocQuery.Document.Field
import DocQuery.Proofs.Outcome
import DocQuery.Proofs.Schema.Validation
import DocQuery.Proofs.Text.Pieces

/-
  Where the forms of a field are read.
  The untokenised form of a field is read at the place of the field, because its ending is taken off
  the name. A field whose own name ends like that loses the ending as well, so it has another place
  than its untokenised form (`path_exact`, `fieldValues_exact_eq_nil`).
-/

namespace DocQuery

namespace Document

/-! ## Names and paths -/

theorem stripKeyword_append (name : String) :
    stripKeyword (name ++ "." ++ keywordSuffix) = name := by
  have hlist : (name ++ "." ++ keywordSuffix).toList = name.toList ++ keywordEnding := by
    simp [keywordEnding]
  have hlength : (name.toList ++ keywordEnding).length - keywordEnding.length =
      name.toList.length := by
    rw [List.length_append, Nat.add_sub_cancel]
  unfold stripKeyword
  rw [hlist]
  simp only [hlength, List.drop_left, List.take_left, if_true, String.ofList_toList]

/-- A name keeps all its characters, or has the ending of an untokenised form. -/
theorem stripKeyword_cases (name : String) :
    stripKeyword name = name ∨ ∃ base, name = base ++ "." ++ keywordSuffix := by
  unfold stripKeyword
  dsimp only
  split
  · next h =>
    refine Or.inr ⟨String.ofList (name.toList.take (name.toList.length - keywordEnding.length)), ?_⟩
    apply String.toList_injective
    have hparts := List.take_append_drop (name.toList.length - keywordEnding.length) name.toList
    rw [h] at hparts
    simpa [keywordEnding] using hparts.symm
  · exact Or.inl rfl

theorem stripKeyword_eq_iff {name base : String} : stripKeyword name = base ↔
    name = base ++ "." ++ keywordSuffix ∨ name = base ∧ stripKeyword base = base := by
  constructor
  · intro h
    rcases stripKeyword_cases name with hkept | ⟨base', rfl⟩
    · rw [hkept] at h
      exact Or.inr ⟨h, h ▸ hkept⟩
    · rw [stripKeyword_append] at h
      exact Or.inl (by rw [h])
  · rintro (rfl | ⟨rfl, h⟩)
    · exact stripKeyword_append base
    · exact h

theorem path_append (name : String) : path (name ++ "." ++ keywordSuffix) = segments name := by
  rw [path, stripKeyword_append]

theorem segments_append (name : String) :
    segments (name ++ "." ++ keywordSuffix) = segments name ++ [keywordSuffix] := by
  have hlist : (name ++ "." ++ keywordSuffix).toList =
      name.toList ++ '.' :: keywordSuffix.toList := by simp
  have hsuffix : Text.splitAt (· == '.') keywordSuffix.toList = [keywordSuffix.toList] := by decide
  unfold segments
  rw [hlist, Text.splitAt_append_cons (by rfl), hsuffix]
  simp

theorem segments_injective : Function.Injective segments := by
  have hjoin (name : String) :
      ['.'].intercalate ((segments name).map String.toList) = name.toList := by
    have hpieces : (segments name).map String.toList =
        Text.splitAt (· == '.') name.toList := by
      simp [segments, Function.comp_def]
    rw [hpieces, Text.intercalate_splitAt]
  intro m n h
  rw [← String.toList_inj, ← hjoin m, ← hjoin n, h]

theorem path_eq_path {m n : String} : path m = path n ↔ stripKeyword m = stripKeyword n :=
  segments_injective.eq_iff

theorem lookup_append (p q : List String) (j : Json) :
    lookup (p ++ q) j = (lookup p j).bind (lookup q) := by
  induction p generalizing j with
  | nil => rfl
  | cons key p ih =>
    cases j with
    | object entries =>
      simp only [List.cons_append, lookup]
      cases entries.lookup key with
      | none => rfl
      | some inner => exact ih inner
    | _ => rfl

/-- Below values that are no objects there is nothing. -/
theorem lookup_below {doc : Json} {name key : String}
    (h : ∀ v ∈ fieldValues doc name, v.entries? = none) :
    lookup (path name ++ [key]) doc = none := by
  rw [lookup_append]
  unfold fieldValues at h
  cases hvalue : lookup (path name) doc with
  | none => rfl
  | some value =>
    rw [hvalue] at h
    cases value with
    | object entries => cases h _ (List.mem_singleton_self _)
    | _ => rfl

theorem fieldValues_only_entry {name key : String} (h : path name = [key]) (text : String) :
    fieldValues (.object [(key, .string text)]) name = [.string text] := by
  have hvalue : lookup (path name) (.object [(key, .string text)]) = some (.string text) := by
    simp [h, lookup]
  unfold fieldValues
  rw [hvalue]

end Document

theorem FieldDeclaration.type_kind (field : FieldDeclaration) : field.kind.type = field.type := by
  unfold FieldDeclaration.kind
  cases field.type <;> rfl

namespace IndexDeclaration

open Document

variable {index : IndexDeclaration} {property : String}

/-- The field of a property has no untokenised form, or is read at the same place as it, because its
own name does not end like the one of such a form. -/
def FormsReadAlike (index : IndexDeclaration) (property : String) : Prop :=
  ∀ field, index.field? property = some field → field.keyword = true →
    stripKeyword (index.fieldName property) = index.fieldName property

/-! ## Declared properties -/

theorem resolve_eq_ok {resolved : ResolvedField} :
    index.resolve property = .ok resolved ↔ ∃ field, index.field? property = some field ∧
      resolved = ⟨index.fieldName property, field.kind⟩ := by
  unfold resolve
  cases index.field? property with
  | none => simp
  | some field => simp [eq_comm]

/-- Only the look-up of a property that is not declared fails. -/
theorem resolve_eq_error {e : QueryError} : index.resolve property = .error e ↔
    index.field? property = none ∧ e = .unknownProperty property := by
  unfold resolve
  cases index.field? property with
  | none => simp [eq_comm]
  | some field => simp

/-- A declared field has every form but the one to sort by, which a text has only with its
untokenised form. A form has the name of the field, or the one of the untokenised form if the field
has it. -/
theorem resolveVariant_eq_ok {variant : FieldVariant} {name : String} :
    index.resolveVariant variant property = .ok name ↔
      ∃ field, index.field? property = some field ∧
        ¬(variant = .sortable ∧ field.type = .text ∧ field.keyword = false) ∧
        name = if field.keyword then index.fieldName property ++ "." ++ keywordSuffix
          else index.fieldName property := by
  unfold resolveVariant
  simp only [eq_comm (a := name)]
  cases index.field? property with
  | none => simp
  | some field =>
    obtain ⟨type, keyword, rename, representation, members⟩ := field
    cases keyword <;> cases variant <;> cases type <;> simp

theorem resolveVariant_eq_unknownProperty {variant : FieldVariant} {name : String} :
    index.resolveVariant variant property = .error (.unknownProperty name) ↔
      index.field? property = none ∧ name = property := by
  unfold resolveVariant
  cases index.field? property with
  | none => simp [eq_comm]
  | some field =>
    obtain ⟨type, keyword, rename, representation, members⟩ := field
    cases keyword <;> cases variant <;> cases type <;> simp

/-- A form of a field has the name of the field, or the name of its untokenised form if it has
one. -/
theorem exists_of_resolveVariant {variant : FieldVariant} {name : String}
    (h : index.resolveVariant variant property = .ok name) :
    ∃ field, index.field? property = some field ∧ (name = index.fieldName property ∨
      field.keyword = true ∧ name = index.fieldName property ++ "." ++ keywordSuffix) := by
  obtain ⟨field, hfield, -, rfl⟩ := resolveVariant_eq_ok.1 h
  refine ⟨field, hfield, ?_⟩
  cases field.keyword with
  | true => exact Or.inr ⟨rfl, rfl⟩
  | false => exact Or.inl rfl

/-- Every declared property has an exact form. -/
theorem resolveVariant_exact {field : FieldDeclaration} (h : index.field? property = some field) :
    index.resolveVariant .exact property = .ok (if field.keyword then
      index.fieldName property ++ "." ++ keywordSuffix else index.fieldName property) :=
  resolveVariant_eq_ok.2 ⟨field, h, nofun, rfl⟩

theorem exists_resolveVariant_exact {resolved : ResolvedField}
    (h : index.resolve property = .ok resolved) :
    ∃ exactName, index.resolveVariant .exact property = .ok exactName := by
  obtain ⟨field, hfield, -⟩ := resolve_eq_ok.1 h
  exact ⟨_, resolveVariant_exact hfield⟩

theorem path_exact {resolved : ResolvedField} {exactName : String}
    (hresolve : index.resolve property = .ok resolved)
    (hexact : index.resolveVariant .exact property = .ok exactName)
    (hforms : index.FormsReadAlike property) : path exactName = path resolved.name := by
  obtain ⟨field, hfield, rfl⟩ := resolve_eq_ok.1 hresolve
  rw [resolveVariant_exact hfield, Except.ok.injEq] at hexact
  subst hexact
  cases hkeyword : field.keyword with
  | false => rfl
  | true =>
    have hname := hforms field hfield hkeyword
    rw [if_pos rfl, path_append, path, hname]

theorem fieldValues_exact {resolved : ResolvedField} {exactName : String}
    (hresolve : index.resolve property = .ok resolved)
    (hexact : index.resolveVariant .exact property = .ok exactName)
    (hforms : index.FormsReadAlike property) (doc : Json) :
    fieldValues doc exactName = fieldValues doc resolved.name := by
  unfold fieldValues
  rw [path_exact hresolve hexact hforms]

theorem ending_of_not_formsReadAlike {field : FieldDeclaration}
    (hfield : index.field? property = some field) (h : ¬index.FormsReadAlike property) :
    field.keyword = true ∧ ∃ base, index.fieldName property = base ++ "." ++ keywordSuffix := by
  have hnot : ¬(field.keyword = true →
      stripKeyword (index.fieldName property) = index.fieldName property) := by
    intro hname
    refine h fun field' hfield' => ?_
    rw [hfield, Option.some.injEq] at hfield'
    subst hfield'
    exact hname
  obtain ⟨hkeyword, hname⟩ := Classical.not_imp.1 hnot
  exact ⟨hkeyword, (stripKeyword_cases _).resolve_left hname⟩

/-- A field that is not read at the place of its untokenised form stands above that place, so where
the field holds no object the form has no value. -/
theorem fieldValues_exact_of_no_object {resolved : ResolvedField} {exactName : String}
    (hresolve : index.resolve property = .ok resolved)
    (hexact : index.resolveVariant .exact property = .ok exactName)
    (hforms : ¬index.FormsReadAlike property) {doc : Json}
    (hdoc : ∀ v ∈ fieldValues doc resolved.name, v.entries? = none) :
    fieldValues doc exactName = [] := by
  obtain ⟨field, hfield, rfl⟩ := resolve_eq_ok.1 hresolve
  obtain ⟨hkeyword, base, hbase⟩ := ending_of_not_formsReadAlike hfield hforms
  rw [resolveVariant_exact hfield, if_pos hkeyword, Except.ok.injEq] at hexact
  have hpath : path exactName = path (index.fieldName property) ++ [keywordSuffix] := by
    rw [← hexact, path_append, hbase, segments_append, path_append]
  unfold fieldValues
  rw [hpath, lookup_below hdoc]

theorem fieldValues_exact_eq_nil {resolved : ResolvedField} {exactName : String}
    (hresolve : index.resolve property = .ok resolved)
    (hexact : index.resolveVariant .exact property = .ok exactName)
    (hforms : ¬index.FormsReadAlike property) {doc : Json} {text : String}
    (hdoc : fieldValues doc resolved.name = [.string text]) : fieldValues doc exactName = [] :=
  fieldValues_exact_of_no_object hresolve hexact hforms (by simp [hdoc, Json.entries?])

/-- The untokenised form of a field that holds no object has a value that passes a test exactly if
the form is read at the place of the field and a value of the field passes it. -/
theorem exists_fieldValues_exact {resolved : ResolvedField} {exactName : String}
    (hresolve : index.resolve property = .ok resolved)
    (hexact : index.resolveVariant .exact property = .ok exactName) {doc : Json}
    (hdoc : ∀ v ∈ fieldValues doc resolved.name, v.entries? = none) (p : Json → Prop) :
    (∃ v ∈ fieldValues doc exactName, p v) ↔
      index.FormsReadAlike property ∧ ∃ v ∈ fieldValues doc resolved.name, p v := by
  by_cases hforms : index.FormsReadAlike property
  · rw [fieldValues_exact hresolve hexact hforms, and_iff_right hforms]
  · rw [fieldValues_exact_of_no_object hresolve hexact hforms hdoc]
    simp [hforms]

/-! ## Valid declarations -/

/-- Only texts and identifiers of a valid index have untokenised forms. -/
theorem formsReadAlike_of_validate (h : index.validate = .ok ()) {resolved : ResolvedField}
    (hresolve : index.resolve property = .ok resolved) (htext : resolved.kind.type ≠ .text)
    (hidentifier : resolved.kind.type ≠ .identifier) : index.FormsReadAlike property := by
  intro field hfield hkeyword
  obtain ⟨field', hfield', rfl⟩ := resolve_eq_ok.1 hresolve
  rw [hfield, Option.some.injEq] at hfield'
  subst hfield'
  rw [FieldDeclaration.type_kind] at htext hidentifier
  exact absurd ⟨hkeyword, htext, hidentifier⟩ (isSound_of_validate h hfield .strayKeyword)

end IndexDeclaration

end DocQuery
