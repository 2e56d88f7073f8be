import DocQuery.Proofs.Compilation.Membership
import DocQuery.Proofs.Document.Phrases

/-
  Looking for an identifier.
  Equality looks for an identifier by the phrase of its groups, and a membership by the whole text.
  In a field that holds one identifier both find that one and no other (`identifier_matches_iff`).
  A membership looks in the untokenised form of the field, so it finds nothing where this form is
  not read at the place of the field (`membership_misses_ticket`).
-/

namespace DocQuery

open Document

/-- The values that name an identifier: the identifier itself and the texts it is written as. -/
inductive Value.Names (w : Identifier) : Value → Prop where
  | identifier : Names w (.identifier w)
  | text {s : String} (h : w.IsWritten s.toList) : Names w (.text s)

namespace Compilation

variable {r : Resolver} {property : String} {field : ResolvedField} {exactName : String}
  {u w : Identifier} {x : Value} {doc : Json}

/-- In a field of identifiers every value that names an identifier has its written form as term. -/
theorem toTerm_of_names (hw : w.digits.length = 32) (hx : x.Names w)
    (hkind : field.kind = .identifier) : x.toTerm field.kind = .ok (.string w.render) := by
  rw [hkind]
  cases hx with
  | identifier => rfl
  | text hwritten => rw [Value.toTerm, Identifier.parse_of_isWritten hw hwritten]

theorem compile_comparison_of_names {op : Comparison} {c : Clause}
    (hfield : r.resolve property = .ok field) (hkind : field.kind = .identifier)
    (hw : w.digits.length = 32) (hx : x.Names w)
    (hc : termClause? field.name .identifier op (.string w.render) = some c) :
    (Predicate.comparison property op x).compile r = .ok [.allOf [c]] := by
  have hclause : termClause? field.name field.kind.type op (.string w.render) = some c := by
    rw [hkind]
    exact hc
  exact compile_comparison_of_term hfield (toTerm_of_names hw hx hkind) hclause

theorem compile_membership_of_names (hfield : r.resolve property = .ok field)
    (hexact : r.variant .exact property = .ok exactName) (hkind : field.kind = .identifier)
    (hw : w.digits.length = 32) (hx : x.Names w) :
    ∃ cs, (Predicate.membership property [x]).compile r = .ok cs ∧
      ∀ doc, allMatch doc cs = true ↔ .string w.render ∈ fieldValues doc exactName := by
  have hterm := toTerm_of_names hw hx hkind
  obtain ⟨cs, hcs, hmatch⟩ :=
    compile_membership_of_terms hfield hexact (List.forall_mem_singleton.2 ⟨_, hterm⟩)
  refine ⟨cs, hcs, fun doc => ?_⟩
  rw [hmatch doc]
  simp [hterm, valuesEqual_string]

end Compilation

open Compilation

/-- Where a field holds one identifier, equality with an identifier, however it is written, finds it
exactly if the two are the same, and inequality exactly if they are not. A membership finds it under
the same condition if its untokenised form is read at the place of the field, and else never. -/
theorem identifier_matches_iff {index : IndexDeclaration} {property : String}
    {field : ResolvedField} (hfield : index.resolve property = .ok field)
    (hkind : field.kind = .identifier) {u w : Identifier} (hu : u.digits.length = 32)
    (hw : w.digits.length = 32) {x : Value} (hx : x.Names w) :
    ∃ eq ne isIn,
      (Predicate.comparison property .eq x).compile index.resolver = .ok eq ∧
      (Predicate.comparison property .ne x).compile index.resolver = .ok ne ∧
      (Predicate.membership property [x]).compile index.resolver = .ok isIn ∧
      ∀ doc, fieldValues doc field.name = [.string u.render] →
        (allMatch doc eq = true ↔ u = w) ∧ (allMatch doc ne = true ↔ u ≠ w) ∧
        (allMatch doc isIn = true ↔ u = w ∧ index.FormsReadAlike property) := by
  obtain ⟨exactName, hexact⟩ := IndexDeclaration.exists_resolveVariant_exact hfield
  obtain ⟨isIn, hisIn, hmember⟩ :=
    compile_membership_of_names (r := index.resolver) hfield hexact hkind hw hx
  have heq : (Predicate.comparison property .eq x).compile index.resolver =
      .ok [.allOf [.matchPhrase field.name w.render]] :=
    compile_comparison_of_names hfield hkind hw hx rfl
  have hne : (Predicate.comparison property .ne x).compile index.resolver =
      .ok [.allOf [.noneOf [.matchPhrase field.name w.render]]] :=
    compile_comparison_of_names hfield hkind hw hx rfl
  refine ⟨_, _, isIn, heq, hne, hisIn, fun doc hdoc => ?_⟩
  have hphrase := isMatch_identifier hu hw hdoc
  refine ⟨by simp [hphrase], by simp [← hphrase], ?_⟩
  rw [hmember doc]
  by_cases hforms : index.FormsReadAlike property
  · rw [IndexDeclaration.fieldValues_exact hfield hexact hforms, hdoc, List.mem_singleton,
      Json.string.injEq, Identifier.render_inj hw hu, and_iff_left hforms, eq_comm]
  · rw [IndexDeclaration.fieldValues_exact_eq_nil hfield hexact hforms hdoc]
    simp [hforms]

/-- An index of tickets that refer to something, under a name that may be given. -/
def referenceIndex (rename : Option String) : IndexDeclaration where
  name := "tickets"
  fields := [("Ref", .withKeyword { type := .identifier, rename })]

/-- A ticket refers to one of two identifiers, which is looked for as a name in capital letters. -/
theorem identifier_matches_ticket :
    let index := referenceIndex none
    let u : Identifier := ⟨List.replicate 32 10⟩
    let w : Identifier := ⟨List.replicate 32 11⟩
    let x := Value.text "URN:UUID:AAAAAAAA-AAAA-AAAA-AAAA-AAAAAAAAAAAA"
    let doc (id : Identifier) := Json.object [("ref", .string id.render)]
    x.Names u ∧ ∃ eq ne isIn,
      (Predicate.comparison "Ref" .eq x).compile index.resolver = .ok eq ∧
      (Predicate.comparison "Ref" .ne x).compile index.resolver = .ok ne ∧
      (Predicate.membership "Ref" [x]).compile index.resolver = .ok isIn ∧
      [eq, ne, isIn].map (allMatch (doc u)) = [true, false, true] ∧
      [eq, ne, isIn].map (allMatch (doc w)) = [false, true, false] := by
  intro index u w x doc
  have hgrouped : u.IsGrouped "AAAAAAAA-AAAA-AAAA-AAAA-AAAAAAAAAAAA".toList :=
    ⟨"AAAAAAAA".toList, "AAAA".toList, "AAAA".toList, "AAAA".toList, "AAAAAAAAAAAA".toList,
      rfl, rfl, rfl, rfl, rfl, by unfold Identifier.Spells; decide, by decide⟩
  have hlead : "URN:UUID:".toList.map Char.toLower = Identifier.urnLead := by decide
  have hx : x.Names u := .text (.urn hlead hgrouped)
  have hname : index.fieldName "Ref" = "ref" := by decide
  have hforms : index.FormsReadAlike "Ref" := by
    intro field hfield hkeyword
    rw [hname]
    decide
  have hfield : index.resolve "Ref" = .ok ⟨"ref", .identifier⟩ := by decide
  have hdoc (id : Identifier) : fieldValues (doc id) "ref" = [.string id.render] :=
    fieldValues_only_entry (by decide) id.render
  obtain ⟨eq, ne, isIn, heq, hne, hisIn, hmatch⟩ :=
    @identifier_matches_iff index "Ref" _ hfield rfl u u rfl rfl x hx
  obtain ⟨eq', ne', isIn', heq', hne', hisIn', hmatch'⟩ :=
    @identifier_matches_iff index "Ref" _ hfield rfl w u rfl rfl x hx
  rw [heq, Except.ok.injEq] at heq'
  rw [hne, Except.ok.injEq] at hne'
  rw [hisIn, Except.ok.injEq] at hisIn'
  subst heq' hne' hisIn'
  have hother : w ≠ u := by decide
  obtain ⟨h, h', h''⟩ := hmatch (doc u) (hdoc u)
  obtain ⟨k, k', k''⟩ := hmatch' (doc w) (hdoc w)
  refine ⟨hx, eq, ne, isIn, heq, hne, hisIn, ?_, ?_⟩
  · simp [h, h', h'', hforms, Bool.eq_false_iff]
  · simp [k, k', k'', hother, Bool.eq_false_iff]

/-- A field named like an untokenised form: equality finds the ticket, a membership does not. The
declaration is valid. -/
theorem membership_misses_ticket :
    let index := referenceIndex (some "ref.keyword")
    let u : Identifier := ⟨List.replicate 32 10⟩
    let doc := Json.object [("ref", .string u.render)]
    index.validate = .ok () ∧ index.resolve "Ref" = .ok ⟨"ref.keyword", .identifier⟩ ∧
      fieldValues doc "ref.keyword" = [.string u.render] ∧ ∃ eq isIn,
        (Predicate.comparison "Ref" .eq (.identifier u)).compile index.resolver = .ok eq ∧
        (Predicate.membership "Ref" [.identifier u]).compile index.resolver = .ok isIn ∧
        allMatch doc eq = true ∧ allMatch doc isIn = false := by
  intro index u doc
  have hfield : index.resolve "Ref" = .ok ⟨"ref.keyword", .identifier⟩ := by decide
  have hexact : index.resolveVariant .exact "Ref" = .ok "ref.keyword.keyword" := by decide
  have hdoc : fieldValues doc "ref.keyword" = [.string u.render] :=
    fieldValues_only_entry (by decide) u.render
  have hforms : ¬index.FormsReadAlike "Ref" := by
    intro h
    have hname : stripKeyword (index.fieldName "Ref") = index.fieldName "Ref" :=
      h (.withKeyword { type := .identifier, rename := some "ref.keyword" }) rfl rfl
    revert hname
    decide
  obtain ⟨isIn, hisIn, hmember⟩ :=
    @compile_membership_of_names index.resolver "Ref" _ _ u _ hfield hexact rfl rfl .identifier
  have heq : (Predicate.comparison "Ref" .eq (.identifier u)).compile index.resolver =
      .ok [.allOf [.matchPhrase "ref.keyword" u.render]] :=
    compile_comparison_of_names hfield rfl rfl .identifier rfl
  refine ⟨by decide, hfield, hdoc, _, isIn, heq, hisIn, ?_, ?_⟩
  · simp [(isMatch_identifier (u := u) rfl rfl hdoc).2 rfl]
  · rw [Bool.eq_false_iff, Ne, hmember,
      IndexDeclaration.fieldValues_exact_eq_nil hfield hexact hforms hdoc]
    exact List.not_mem_nil

end DocQuery
