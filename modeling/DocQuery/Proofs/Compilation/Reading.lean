import DocQuery.Proofs.Clause.Fields
import DocQuery.Proofs.Compilation.Leaf
import DocQuery.Proofs.Document.Fields

/-
  What compiled clauses read.
  Every clause names the field of a property of its leaf or the untokenised form of that field
  (`leafClause_readsFrom`), and joining clauses names no other fields (`conj_disj_readsFrom`). What
  is found under the second name depends on what is found under the first
  (`lookup_path_append_congr`), so documents with the same values in the fields of a predicate are
  matched alike (`compile_reads_properties`).
-/

namespace DocQuery

open Document

namespace IndexDeclaration

variable {index : IndexDeclaration} {property name : String}

/-- Whether a name is that of a property's field or of its untokenised form. -/
def Names (index : IndexDeclaration) (property name : String) : Prop :=
  ∃ field, index.resolve property = .ok field ∧
    (name = field.name ∨ name = field.name ++ "." ++ keywordSuffix)

theorem names_of_resolve {field : ResolvedField} (h : index.resolve property = .ok field) :
    index.Names property field.name :=
  ⟨field, h, .inl rfl⟩

theorem names_of_resolveVariant (variant : FieldVariant)
    (h : index.resolveVariant variant property = .ok name) : index.Names property name := by
  obtain ⟨field, hfield, hname⟩ := exists_of_resolveVariant h
  exact ⟨_, resolve_eq_ok.2 ⟨field, hfield, rfl⟩, hname.imp_right And.right⟩

end IndexDeclaration

namespace Compilation

open Clause

variable {index : IndexDeclaration}

/-! ## Leaves -/

theorem fields_of_nullClause {property field : String} {op : Comparison} {c : Clause}
    (h : nullClause property field op = .ok c) : c.fields = [field] := by
  cases op with
  | eq =>
    cases h
    simp [fields]
  | ne =>
    cases h
    simp [fields]
  | _ => cases h

theorem fields_of_termClause? {field : String} {kind : FieldType} {op : Comparison} {term : Json}
    {c : Clause} (h : termClause? field kind op term = some c) : c.fields = [field] := by
  unfold termClause? at h
  split at h <;> cases h <;> simp [fields]

theorem fields_patternClause (field : String) (method : StringMethod) (pattern : String) :
    (patternClause field method pattern).fields = [field] := by
  unfold patternClause
  split
  · split <;> simp [fields]
  · simp [fields]
  · simp [fields]

/-- Clauses that name no other fields than those of some properties. -/
def ReadsFrom (index : IndexDeclaration) (properties : List String) (cs : List Clause) : Prop :=
  ∀ name ∈ fieldsAll cs, ∃ property ∈ properties, index.Names property name

theorem readsFrom_leaf {property : String} {c : Clause}
    (h : ∀ name ∈ c.fields, index.Names property name) : ReadsFrom index [property] [c] := by
  intro name hname
  rw [fieldsAll_singleton] at hname
  exact ⟨property, List.mem_singleton_self _, h name hname⟩

theorem readsFrom_field {property : String} {field : ResolvedField} {c : Clause}
    (hfield : index.resolve property = .ok field) (h : c.fields = [field.name]) :
    ReadsFrom index [property] [c] := by
  refine readsFrom_leaf ?_
  rw [h, List.forall_mem_singleton]
  exact IndexDeclaration.names_of_resolve hfield

theorem readsFrom_comparisonClause {property : String} {op : Comparison} {value : Value}
    {c : Clause}
    (h : comparisonClause index.resolver property op value = .ok c) :
    ReadsFrom index [property] [c] := by
  obtain ⟨field, hfield, h | ⟨term, h⟩⟩ := exists_of_comparisonClause h
  · exact readsFrom_field hfield (fields_of_nullClause h)
  · exact readsFrom_field hfield (fields_of_termClause? h)

theorem readsFrom_stringClause {method : StringMethod} {property pattern : String} {c : Clause}
    (h : stringClause index.resolver method property pattern = .ok c) :
    ReadsFrom index [property] [c] := by
  obtain ⟨field, hfield, rfl | rfl⟩ := exists_of_stringClause h
  · exact readsFrom_field hfield (by simp [fields])
  · exact readsFrom_field hfield (fields_patternClause _ _ _)

theorem readsFrom_membershipClause {property : String} {candidates : List Value} {c : Clause}
    (h : membershipClause index.resolver property candidates = .ok c) :
    ReadsFrom index [property] [c] := by
  obtain ⟨field, exactName, terms, hfield, hexact, h⟩ := exists_of_membershipClause h
  have hfields : ∀ name ∈ c.fields, name = exactName ∨ name = field.name := by
    rcases h with rfl | rfl
    · simp [fields]
    · simp [fields, fieldsAll]
  refine readsFrom_leaf fun name hname => ?_
  rcases hfields name hname with rfl | rfl
  · exact IndexDeclaration.names_of_resolveVariant .exact hexact
  · exact IndexDeclaration.names_of_resolve hfield

/-- The clause of a leaf names the field of the leaf's property or its untokenised form. -/
theorem leafClause_readsFrom {p : Predicate} {c : Clause}
    (h : leafClause index.resolver p = .ok c) : ReadsFrom index p.properties [c] := by
  cases p with
  | comparison property op value => exact readsFrom_comparisonClause h
  | flag property => exact readsFrom_comparisonClause h
  | stringOp method property pattern => exact readsFrom_stringClause h
  | membership property candidates => exact readsFrom_membershipClause h
  | _ => cases h

/-! ## Nodes -/

theorem ReadsFrom.mono {properties others : List String} {cs : List Clause}
    (h : ReadsFrom index properties cs) (hsubset : properties ⊆ others) :
    ReadsFrom index others cs := by
  intro name hname
  obtain ⟨property, hproperty, hnames⟩ := h name hname
  exact ⟨property, hsubset hproperty, hnames⟩

theorem ReadsFrom.append {properties others : List String} {cs ds : List Clause}
    (hc : ReadsFrom index properties cs) (hd : ReadsFrom index others ds) :
    ReadsFrom index (properties ++ others) (cs ++ ds) := by
  intro name hname
  rw [fieldsAll_append] at hname
  rcases List.mem_append.1 hname with hname | hname
  · exact hc.mono (List.subset_append_left _ _) name hname
  · exact hd.mono (List.subset_append_right _ _) name hname

/-- Clauses that are joined to one name the same fields. -/
theorem ReadsFrom.of_fieldsAll_eq {properties : List String} {cs ds : List Clause}
    (h : ReadsFrom index properties cs) (hfields : fieldsAll ds = fieldsAll cs) :
    ReadsFrom index properties ds := by
  intro name hname
  rw [hfields] at hname
  exact h name hname

theorem fields_group (cs : List Clause) : (group cs).fields = fieldsAll cs := by
  match cs with
  | [] => simp [group]
  | [c] => simp [group]
  | _ :: _ :: _ => simp [group]

/-- The clauses of a node name no other fields than those of the node's properties. -/
theorem conj_disj_readsFrom (p : Predicate) :
    (∀ cs, conj index.resolver p = .ok cs → ReadsFrom index p.properties cs) ∧
    (∀ cs, disj index.resolver p = .ok cs → ReadsFrom index p.properties cs) := by
  refine conj_disj_induction (C := fun p cs => ReadsFrom index p.properties cs)
    (D := fun p cs => ReadsFrom index p.properties cs) ?leaf ?and ?or ?flipped ?not ?branches
    ?branch p
  case leaf => exact fun _ _ h => leafClause_readsFrom h
  case and => exact fun _ _ _ _ hc hd => hc.append hd
  case or => exact fun _ _ _ _ hc hd => (hc.append hd).of_fieldsAll_eq (by simp)
  case flipped =>
    intro x property op value c hx hc
    obtain ⟨_, -, -, hproperty⟩ := flipped?_eq_some (r := index.resolver) hx
    exact (readsFrom_comparisonClause hc).mono (List.cons_subset.2 ⟨hproperty, List.nil_subset _⟩)
  case not => exact fun _ _ _ h => h.of_fieldsAll_eq (by simp [fields_group])
  case branches => exact fun _ _ _ _ hc hd => hc.append hd
  case branch => exact fun _ _ _ h => h.of_fieldsAll_eq (by simp [fields_group])

end Compilation

/-! ## Places -/

/-- What is found at the place of a field decides on what is found at that of its untokenised
form. -/
theorem lookup_path_append_congr {d e : Json} {name : String}
    (h : lookup (path name) d = lookup (path name) e) :
    lookup (path (name ++ "." ++ keywordSuffix)) d =
      lookup (path (name ++ "." ++ keywordSuffix)) e := by
  rw [path_append]
  rcases stripKeyword_cases name with hname | ⟨base, hbase⟩
  · rwa [path, hname] at h
  -- a name with the ending itself is read at the place of `base`, one step above its own form
  · rw [hbase, path_append] at h
    rw [hbase, segments_append, lookup_append, lookup_append, h]

theorem fieldValues_congr {d e : Json} {name : String}
    (h : lookup (path name) d = lookup (path name) e) :
    fieldValues d name = fieldValues e name := by
  unfold fieldValues
  rw [h]

/-- Documents with the same values in the fields of some properties are matched alike by clauses
that name no other fields. -/
theorem allMatch_congr_of_readsFrom {index : IndexDeclaration} {properties : List String}
    {cs : List Clause} (h : Compilation.ReadsFrom index properties cs) {d e : Json}
    (hsame : ∀ property ∈ properties, ∀ field, index.resolve property = .ok field →
      lookup (path field.name) d = lookup (path field.name) e) :
    allMatch d cs = allMatch e cs := by
  refine allMatch_congr cs fun name hname => fieldValues_congr ?_
  obtain ⟨property, hproperty, field, hfield, rfl | rfl⟩ := h name hname
  · exact hsame property hproperty field hfield
  · exact lookup_path_append_congr (hsame property hproperty field hfield)

theorem Folded.clauses_readsFrom {index : IndexDeclaration} {f : Folded} {cs : List Clause}
    (h : f.clauses index.resolver = .ok cs) : Compilation.ReadsFrom index f.properties cs := by
  cases f with
  | always =>
    cases h
    simp [Compilation.ReadsFrom, Clause.fieldsAll]
  | never =>
    cases h
    simp [Compilation.ReadsFrom, Clause.fields]
  | condition q =>
    obtain ⟨ds, hconj, h⟩ := bind_eq_ok.1 h
    cases pure_eq_ok.1 h
    exact ((Compilation.conj_disj_readsFrom q).1 ds hconj).of_fieldsAll_eq (by simp)

/-! ## Main theorem -/

/-- The clauses of a predicate name the fields of properties that are left in its normal form, and
the untokenised forms of these fields, and no others. Two documents with the same values at the
places of these fields are matched alike. -/
theorem compile_reads_properties {index : IndexDeclaration} {p : Predicate} {cs : List Clause}
    (h : p.compile index.resolver = .ok cs) :
    ∃ f, p.normalize = .ok f ∧ f.properties ⊆ p.properties ∧
      (∀ name ∈ Clause.fieldsAll cs, ∃ property ∈ f.properties, index.Names property name) ∧
      ∀ d e : Json, (∀ property ∈ f.properties, ∀ field, index.resolve property = .ok field →
        lookup (path field.name) d = lookup (path field.name) e) →
          allMatch d cs = allMatch e cs := by
  rw [p.compile_eq] at h
  obtain ⟨f, hf, hclauses⟩ := bind_eq_ok.1 h
  have hreads := Folded.clauses_readsFrom hclauses
  exact ⟨f, hf, Predicate.properties_normalize hf, hreads,
    fun _ _ hsame => allMatch_congr_of_readsFrom hreads hsame⟩

/-- A property that folding removes is not read. -/
theorem compile_reads_properties_ticket :
    let p := Predicate.and (.membership "Team" [.text "red"])
      (.or (.flag "Done") (.constant (.bool true)))
    let cs : List Clause := [.allOf [.terms "by.team.keyword" [.string "red"]]]
    let doc (done : Bool) :=
      Json.object [("by", .object [("team", .string "red")]), ("done", .bool done)]
    p.compile teamIndex.resolver = .ok cs ∧ allMatch (doc true) cs = allMatch (doc false) cs := by
  intro p cs doc
  have hp : p.compile teamIndex.resolver = .ok cs := by rfl
  have hnormal : p.normalize = .ok (.condition (.membership "Team" [.text "red"])) := by rfl
  obtain ⟨f, hf, -, -, hsame⟩ := compile_reads_properties hp
  rw [hnormal] at hf
  cases hf
  refine ⟨hp, hsame _ _ fun property hproperty field hfield => ?_⟩
  rw [Folded.properties, Predicate.properties, List.mem_singleton] at hproperty
  subst hproperty
  cases hfield
  rfl

end DocQuery
