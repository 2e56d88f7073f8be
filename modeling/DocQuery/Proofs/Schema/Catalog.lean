import DocQuery.Proofs.Document.Fields
import DocQuery.Schema.Catalog

/-
  Look-ups through the table of a catalog.
  The table of a catalog is made at a look-up and serves the later ones. It always belongs to the
  declaration as it is (`IsCurrent`): declaring a field throws it away, and nothing else changes the
  declaration. So whatever is called on a catalog and its copies, each of them keeps to what was
  declared on it (`isFaithful_copiesAfter`). A look-up through the table gives the field that was
  declared last, and fits the names of the forms of the field, which are made without the table
  (`resolve_never_stale`).
-/

namespace DocQuery

/-! ## Declaring a field -/

namespace IndexDeclaration

variable {index : IndexDeclaration}

theorem field?_withField (index : IndexDeclaration) (property : String) (field : FieldDeclaration)
    (name : String) : (index.withField property field).field? name =
      if name = property then some field else index.field? name := by
  have hany : (index.fields.any fun e => e.1 == property) = true ↔
      property ∈ index.fields.map Prod.fst := by simp
  unfold withField field?
  dsimp only
  split
  · next hknown =>
    have hreplace : (fun e : String × FieldDeclaration =>
        if e.1 == property then (property, field) else e) =
        fun e => (e.1, if e.1 = property then field else e.2) := by
      funext e
      by_cases he : e.1 = property <;> simp [he]
    rw [hreplace, Entries.lookup_map fun p old => if p = property then field else old]
    split
    · next hname =>
      subst hname
      cases hold : index.fields.lookup name with
      | none => exact absurd (hany.1 hknown) (Entries.lookup_eq_none.1 hold)
      | some old => rfl
    · exact Option.map_id'
  · next hnew =>
    rw [List.lookup_append]
    split
    · next hname =>
      subst hname
      rw [Entries.lookup_eq_none.2 (mt hany.2 hnew), Option.none_or, Entries.lookup_cons_self]
    · next hname => rw [Entries.lookup_cons_of_ne hname, List.lookup_nil, Option.or_none]

theorem fieldName_eq {property : String} {field : FieldDeclaration}
    (h : index.field? property = some field) :
    index.fieldName property = field.rename.getD (index.naming.apply property) := by
  unfold fieldName
  rw [h, Option.bind_some]
  cases field.rename <;> rfl

end IndexDeclaration

namespace Catalog

/-! ## Tables that belong to the declaration -/

/-- Whether the table, once it is made, is the one of the declaration as it is. -/
def IsCurrent (c : Catalog) : Prop :=
  ∀ table, c.table = some table → table = tableOf c.declaration

theorem lookup_tableOf (index : IndexDeclaration) (property : String) :
    (tableOf index).lookup property =
      (index.field? property).map fun field => ⟨index.fieldName property, field.kind⟩ :=
  Entries.lookup_map
    (fun p (field : FieldDeclaration) => ResolvedField.mk (index.fieldName p) field.kind) _ _

variable {c : Catalog}

theorem isCurrent_mk (index : IndexDeclaration) : IsCurrent { declaration := index } :=
  nofun

theorem isCurrent_withField (c : Catalog) (property : String) (field : FieldDeclaration) :
    (c.withField property field).IsCurrent :=
  nofun

theorem declaration_warm (c : Catalog) : c.warm.declaration = c.declaration := by
  unfold warm
  split <;> rfl

theorem table_warm (h : c.IsCurrent) : c.warm.table = some (tableOf c.declaration) := by
  unfold warm
  split
  · next table htable => rw [htable, h table htable]
  · rfl

theorem isCurrent_warm (h : c.IsCurrent) : c.warm.IsCurrent := by
  intro table htable
  rw [table_warm h, Option.some.injEq] at htable
  rw [declaration_warm, htable]

/-- A look-up leaves the catalog with its table made. -/
theorem resolve_snd (c : Catalog) (property : String) : (c.resolve property).2 = c.warm := by
  unfold resolve
  dsimp only
  split <;> rfl

/-- A look-up through the table finds what is found in the declaration. -/
theorem resolve_fst (h : c.IsCurrent) (property : String) :
    (c.resolve property).1 = c.declaration.resolve property := by
  unfold resolve IndexDeclaration.resolve
  dsimp only
  rw [table_warm h, Option.getD_some, lookup_tableOf]
  cases c.declaration.field? property <;> rfl

/-- An execution that looks properties up through the table is one that looks them up in the
declaration. -/
theorem resolver_eq (h : c.IsCurrent) : c.resolver = c.declaration.resolver := by
  have hresolve : (fun property => (c.warm.resolve property).1) = c.declaration.resolve := by
    funext property
    rw [resolve_fst (isCurrent_warm h), declaration_warm]
  have hvariant : c.warm.resolveVariant = c.declaration.resolveVariant := by
    unfold resolveVariant
    rw [declaration_warm]
  unfold resolver IndexDeclaration.resolver
  dsimp only
  rw [hresolve, hvariant]

/-! ## Calls on copies of a catalog -/

/-- A call on a catalog. -/
inductive Call where
  | withField (property : String) (field : FieldDeclaration)
  /-- Makes a copy, with the table if it is made. -/
  | clone
  | validate
  | resolve (property : String)
  | resolveVariant (variant : FieldVariant) (property : String)

/-- A copy of a catalog with what was declared on it and, before, on the catalog that it was made
from; the newest field stands first. -/
structure Copy where
  catalog : Catalog
  declared : List (String × FieldDeclaration)

/-- A copy after a call on it. Only a declaration and a look-up through the table leave a trace. -/
def Copy.after (copy : Copy) : Call → Copy
  | .withField property field =>
    ⟨copy.catalog.withField property field, (property, field) :: copy.declared⟩
  | .resolve property => { copy with catalog := (copy.catalog.resolve property).2 }
  | .clone | .validate | .resolveVariant _ _ => copy

/-- The copies after a call on the one at a place. -/
def afterCall (copies : List Copy) (place : Nat) (call : Call) : List Copy :=
  match copies[place]?, call with
  | none, _ => copies
  | some copy, .clone => copies ++ [copy]
  | some copy, _ => copies.set place (copy.after call)

/-- The copies after some calls, the first of them on a catalog without a table. -/
def copiesAfter (index : IndexDeclaration) (calls : List (Nat × Call)) : List Copy :=
  calls.foldl (fun copies call => afterCall copies call.1 call.2)
    [⟨{ declaration := index }, index.fields⟩]

/-- Whether the catalog of a copy keeps to what was declared. -/
structure Copy.IsFaithful (index : IndexDeclaration) (copy : Copy) : Prop where
  current : copy.catalog.IsCurrent
  naming : copy.catalog.declaration.naming = index.naming
  fields : ∀ property,
    copy.catalog.declaration.field? property = copy.declared.lookup property

variable {index : IndexDeclaration} {copies : List Copy} {copy : Copy}

theorem Copy.IsFaithful.after (h : copy.IsFaithful index) (call : Call) :
    (copy.after call).IsFaithful index := by
  cases call with
  | withField property field =>
    refine ⟨isCurrent_withField _ _ _, h.naming, fun name => ?_⟩
    show (copy.catalog.declaration.withField property field).field? name =
      ((property, field) :: copy.declared).lookup name
    rw [IndexDeclaration.field?_withField, h.fields]
    split
    · next hname => rw [hname, Entries.lookup_cons_self]
    · next hname => rw [Entries.lookup_cons_of_ne hname]
  | resolve property =>
    have hafter : copy.after (.resolve property) = { copy with catalog := copy.catalog.warm } := by
      rw [Copy.after, resolve_snd]
    have hdeclaration := declaration_warm copy.catalog
    rw [hafter]
    exact ⟨isCurrent_warm h.current, hdeclaration ▸ h.naming, hdeclaration ▸ h.fields⟩
  | clone => exact h
  | validate => exact h
  | resolveVariant variant property => exact h

theorem isFaithful_afterCall (h : ∀ copy ∈ copies, copy.IsFaithful index) (place : Nat)
    (call : Call) : ∀ copy ∈ afterCall copies place call, copy.IsFaithful index := by
  intro copy hcopy
  unfold afterCall at hcopy
  split at hcopy
  · exact h copy hcopy
  · next old hold =>
    rcases List.mem_append.1 hcopy with hcopy | hcopy
    · exact h copy hcopy
    · rw [List.mem_singleton.1 hcopy]
      exact h old (List.mem_of_getElem? hold)
  · next old hold _ =>
    rcases List.mem_or_eq_of_mem_set hcopy with hcopy | rfl
    · exact h copy hcopy
    · exact (h old (List.mem_of_getElem? hold)).after _

/-- By induction on the calls: each keeps every copy faithful. -/
theorem isFaithful_copiesAfter (calls : List (Nat × Call)) :
    ∀ copy ∈ copiesAfter index calls, copy.IsFaithful index := by
  have hcalls (copies : List Copy) (h : ∀ copy ∈ copies, copy.IsFaithful index) :
      ∀ copy ∈ calls.foldl (fun copies call => afterCall copies call.1 call.2) copies,
        copy.IsFaithful index := by
    induction calls generalizing copies with
    | nil => exact h
    | cons call calls ih => exact ih _ (isFaithful_afterCall h call.1 call.2)
  refine hcalls _ fun copy hcopy => ?_
  rw [List.mem_singleton.1 hcopy]
  exact ⟨isCurrent_mk index, rfl, fun _ => rfl⟩

end Catalog

/-! ## Main theorem -/

/-- After any calls on a catalog and its copies, a look-up on one of them gives the name and the
kind of the field that was declared last for a property, and fails exactly if none was declared. The
names of the forms of the field fail to be found for the same properties. A form has the name that
the look-up gives, with the ending of the untokenised form exactly if the field has that form; only
text without it has nothing to sort by. -/
theorem resolve_never_stale {index : IndexDeclaration} {calls : List (Nat × Catalog.Call)}
    {copy : Catalog.Copy} (hcopy : copy ∈ Catalog.copiesAfter index calls) (property : String) :
    (∀ field, copy.declared.lookup property = some field → (copy.catalog.resolve property).1 =
      .ok ⟨field.rename.getD (index.naming.apply property), field.kind⟩) ∧
    ((copy.catalog.resolve property).1 = .error (.unknownProperty property) ↔
      property ∉ copy.declared.map Prod.fst) ∧
    ∀ variant,
      (copy.catalog.resolveVariant variant property = .error (.unknownProperty property) ↔
        (copy.catalog.resolve property).1 = .error (.unknownProperty property)) ∧
      ∀ name, copy.catalog.resolveVariant variant property = .ok name ↔
        ∃ field resolved, copy.declared.lookup property = some field ∧
          (copy.catalog.resolve property).1 = .ok resolved ∧
          ¬(variant = .sortable ∧ field.type = .text ∧ field.keyword = false) ∧
          name = if field.keyword then resolved.name ++ "." ++ keywordSuffix
            else resolved.name := by
  obtain ⟨hcurrent, hnaming, hfields⟩ := Catalog.isFaithful_copiesAfter calls copy hcopy
  have hfield := hfields property
  rw [Catalog.resolve_fst hcurrent]
  refine ⟨fun field hlast => ?_, ?_, fun variant => ⟨?_, fun name => ?_⟩⟩
  · rw [← hfield] at hlast
    rw [← hnaming, ← IndexDeclaration.fieldName_eq hlast]
    exact IndexDeclaration.resolve_eq_ok.2 ⟨field, hlast, rfl⟩
  · rw [IndexDeclaration.resolve_eq_error, and_iff_left rfl, hfield, Entries.lookup_eq_none]
  · rw [Catalog.resolveVariant, IndexDeclaration.resolveVariant_eq_unknownProperty,
      IndexDeclaration.resolve_eq_error, and_iff_left rfl, and_iff_left rfl]
  · rw [Catalog.resolveVariant, IndexDeclaration.resolveVariant_eq_ok, ← hfield]
    simp only [IndexDeclaration.resolve_eq_ok]
    constructor
    · rintro ⟨field, hlast, hform, rfl⟩
      exact ⟨field, _, hlast, ⟨field, hlast, rfl⟩, hform, rfl⟩
    · rintro ⟨field, _, hlast, ⟨_, -, rfl⟩, hform, rfl⟩
      exact ⟨field, hlast, hform, rfl⟩

/-- A title is declared and looked up, and the catalog is copied. Then the title becomes a number on
the first of the two catalogs. -/
def Catalog.titleCalls : List (Nat × Call) :=
  [(0, .withField "Title" (.withKeyword { type := .text })), (0, .validate),
    (0, .resolve "Title"), (0, .clone),
    (0, .withField "Title" (.renamed { type := .numeric } "no")), (0, .resolve "Title"),
    (1, .resolveVariant .exact "Title")]

/-- The first catalog finds the number. The copy keeps its table and finds the title. -/
theorem resolve_never_stale_title :
    ∃ changed kept, Catalog.copiesAfter { name := "tickets" } Catalog.titleCalls = [changed, kept] ∧
      kept.catalog.table.isSome ∧
      (changed.catalog.resolve "Title").1 = .ok ⟨"no", .numeric⟩ ∧
      changed.catalog.resolveVariant .exact "Title" = .ok "no" ∧
      (kept.catalog.resolve "Title").1 = .ok ⟨"title", .text⟩ ∧
      kept.catalog.resolveVariant .exact "Title" = .ok "title.keyword" ∧
      (kept.catalog.resolve "Owner").1 = .error (.unknownProperty "Owner") := by
  have hname : Naming.camel.apply "Title" = "title" := by decide +kernel
  obtain ⟨changed, kept, hcopies, htable, hnumberLast, htitleLast, howner⟩ : ∃ changed kept,
      Catalog.copiesAfter { name := "tickets" } Catalog.titleCalls = [changed, kept] ∧
      kept.catalog.table.isSome ∧
      changed.declared.lookup "Title" = some (.renamed { type := .numeric } "no") ∧
      kept.declared.lookup "Title" = some (.withKeyword { type := .text }) ∧
      kept.declared.map Prod.fst = ["Title"] := ⟨_, _, rfl, rfl, rfl, rfl, rfl⟩
  have hfirst : changed ∈ Catalog.copiesAfter { name := "tickets" } Catalog.titleCalls :=
    hcopies ▸ List.mem_cons_self
  have hsecond : kept ∈ Catalog.copiesAfter { name := "tickets" } Catalog.titleCalls :=
    hcopies ▸ List.mem_cons_of_mem _ (List.mem_singleton_self kept)
  obtain ⟨hnumber, -, hnumberForms⟩ := resolve_never_stale hfirst "Title"
  obtain ⟨htitle, -, htitleForms⟩ := resolve_never_stale hsecond "Title"
  obtain ⟨-, hmissing, -⟩ := resolve_never_stale hsecond "Owner"
  have hnumber := hnumber _ hnumberLast
  have htitle : (kept.catalog.resolve "Title").1 = .ok ⟨Naming.camel.apply "Title", .text⟩ :=
    htitle _ htitleLast
  rw [hname] at htitle
  refine ⟨changed, kept, hcopies, htable, hnumber, ?_, htitle, ?_, hmissing.2 ?_⟩
  · exact ((hnumberForms .exact).2 "no").2 ⟨_, _, hnumberLast, hnumber, nofun, rfl⟩
  · exact ((htitleForms .exact).2 _).2 ⟨_, _, htitleLast, htitle, nofun, rfl⟩
  · rw [howner]
    decide

end DocQuery
