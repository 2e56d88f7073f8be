import DocQuery.Proofs.Compilation.Leaf
import DocQuery.Proofs.Document.Fields
import DocQuery.Proofs.QueryString.Patterns
import DocQuery.Proofs.Text.SmallForms

/-
  String methods look for literal texts.
  What a method is given becomes the pattern of a text that means itself (`patternClause_eq_iff`),
  so it matches where the small form of a value, or a token of it, has this text at the place that
  the method names (`pattern_matches_iff`). Of several words only a phrase is looked for.
-/

namespace DocQuery

open Document

/-- The text that a method looks for when it is given a pattern: the pattern itself, or its only
word. -/
inductive StringMethod.Seeks : StringMethod → String → List Char → Prop where
  | startsWith (pattern : String) : Seeks .startsWith pattern pattern.toList
  | endsWith (pattern : String) : Seeks .endsWith pattern pattern.toList
  | contains {pattern word : String} (h : Text.words pattern = [word]) :
    Seeks .contains pattern word.toList

namespace Compilation

variable {r : Resolver} {property : String} {field : ResolvedField} {method : StringMethod}
  {pattern : String} {literal : List Char}

/-! ## Clauses of string methods -/

theorem patternClause_of_seeks (name : String) (h : method.Seeks pattern literal) :
    patternClause name method pattern =
      .queryString [name] (String.ofList (method.query literal)) := by
  cases h with
  | startsWith | endsWith =>
    refine congrArg (Clause.queryString [name]) (String.toList_injective ?_)
    simp [StringMethod.query, StringMethod.lead, StringMethod.tail, QueryString.escape]
  | contains hword =>
    unfold patternClause
    simp only [hword]
    refine congrArg (Clause.queryString [name]) (String.toList_injective ?_)
    simp [StringMethod.query, StringMethod.lead, StringMethod.tail, QueryString.escape]

/-- A method has a pattern of its own exactly for one literal text. -/
theorem patternClause_eq_iff {name query : String} {fields : List String} :
    patternClause name method pattern = .queryString fields query ↔
      ∃ literal, method.Seeks pattern literal ∧ fields = [name] ∧
        query = String.ofList (method.query literal) := by
  constructor
  · intro h
    have hseeks : ∃ literal, method.Seeks pattern literal := by
      cases method with
      | startsWith => exact ⟨_, .startsWith pattern⟩
      | endsWith => exact ⟨_, .endsWith pattern⟩
      | contains =>
        unfold patternClause at h
        dsimp only at h
        split at h
        · next hword => exact ⟨_, .contains hword⟩
        · cases h
    obtain ⟨literal, hliteral⟩ := hseeks
    rw [patternClause_of_seeks name hliteral] at h
    cases h
    exact ⟨literal, hliteral, rfl, rfl⟩
  · rintro ⟨literal, hliteral, rfl, rfl⟩
    exact patternClause_of_seeks name hliteral

theorem stringClause_of_text (hfield : r.resolve property = .ok field)
    (htext : field.kind.type = .text ∨ field.kind.type = .identifier) :
    stringClause r method property pattern = .ok (if Text.isBlankText pattern then
      .present field.name else patternClause field.name method pattern) := by
  unfold stringClause
  rw [hfield, ok_bind, if_pos htext]
  split <;> rfl

theorem compile_stringOp : (Predicate.stringOp method property pattern).compile r = do
    return [.allOf [← stringClause r method property pattern]] :=
  compile_of_isLeaf rfl rfl

theorem compile_stringOp_of_text (hfield : r.resolve property = .ok field)
    (htext : field.kind.type = .text ∨ field.kind.type = .identifier) :
    (Predicate.stringOp method property pattern).compile r =
      .ok [.allOf [if Text.isBlankText pattern then .present field.name
        else patternClause field.name method pattern]] := by
  rw [compile_stringOp, stringClause_of_text hfield htext]
  rfl

/-! ## What the clauses match -/

theorem matchesText_iff {parts : List QueryString.Part} {text : List Char} :
    QueryString.matchesText parts text = true ↔
      ∃ form ∈ Text.forms text, QueryString.matchesParts parts form = true := by
  simp [QueryString.matchesText, Text.forms]

theorem isMatch_query (doc : Json) (name : String) (method : StringMethod)
    (literal : List Char) :
    isMatch doc (.queryString [name] (String.ofList (method.query literal))) = true ↔
      ∃ value ∈ fieldValues doc name, ∃ form ∈ Text.forms (asText value),
        method.Places (Text.lowerEach literal) form := by
  simp [isMatch, someValue, matchesText_iff, QueryString.matchesParts_query]

theorem isMatch_present (doc : Json) (name : String) :
    isMatch doc (.present name) = true ↔ fieldValues doc name ≠ [] := by
  simp [isMatch]

/-- A text field is searched for a literal text. -/
theorem allMatch_stringOp (hfield : r.resolve property = .ok field)
    (htext : field.kind.type = .text ∨ field.kind.type = .identifier)
    (hblank : Text.isBlankText pattern = false) (hseeks : method.Seeks pattern literal) :
    ∃ cs, (Predicate.stringOp method property pattern).compile r = .ok cs ∧
      ∀ doc, allMatch doc cs = true ↔
        ∃ value ∈ fieldValues doc field.name, ∃ form ∈ Text.forms (asText value),
          method.Places (Text.lowerEach literal) form := by
  have hcompile := @compile_stringOp_of_text r property field method pattern hfield htext
  rw [if_neg (by simp [hblank]), patternClause_of_seeks _ hseeks] at hcompile
  refine ⟨_, hcompile, fun doc => ?_⟩
  rw [← isMatch_query]
  simp

end Compilation

open Compilation

/-- A string method matches the documents in which the small form of some value of the field, or one
of its tokens, starts with, ends with or contains the text that the method is given, in the small
forms of its characters: every character of this text stands for itself. A blank text matches every
document that has a value. -/
theorem pattern_matches_iff {r : Resolver} {property : String} {field : ResolvedField}
    (hfield : r.resolve property = .ok field)
    (htext : field.kind.type = .text ∨ field.kind.type = .identifier) (method : StringMethod)
    (pattern : String) :
    ∃ cs, (Predicate.stringOp method property pattern).compile r = .ok cs ∧ ∀ doc,
      (Text.isBlankText pattern = true →
        (allMatch doc cs = true ↔ fieldValues doc field.name ≠ [])) ∧
      ∀ literal, Text.isBlankText pattern = false → method.Seeks pattern literal →
        (allMatch doc cs = true ↔
          ∃ value ∈ fieldValues doc field.name, ∃ form ∈ Text.forms (asText value),
            method.Places (Text.lowerEach literal) form) := by
  refine ⟨_, compile_stringOp_of_text hfield htext, fun doc => ⟨fun hblank => ?_, ?_⟩⟩
  · rw [if_pos hblank, ← isMatch_present]
    simp
  · intro literal hblank hseeks
    obtain ⟨cs, hcs, hmatch⟩ := allMatch_stringOp hfield htext hblank hseeks
    rw [compile_stringOp_of_text hfield htext, Except.ok.injEq] at hcs
    rw [hcs, hmatch]

/-- An index of tickets that have a title. -/
def titleIndex : IndexDeclaration where
  name := "tickets"
  fields := [("Title", { type := .text })]

/-- A star that is looked for is no star of a pattern. -/
theorem pattern_matches_ticket :
    let r := titleIndex.resolver
    let doc (title : String) := Json.object [("title", .string title)]
    titleIndex.resolve "Title" = .ok ⟨"title", .text⟩ ∧
    (∃ cs, (Predicate.stringOp .startsWith "Title" "5*").compile r = .ok cs ∧
      allMatch (doc "5*2 Boxes") cs = true ∧ allMatch (doc "55 Boxes") cs = false) ∧
    ∃ cs, (Predicate.stringOp .contains "Title" " ").compile r = .ok cs ∧
      allMatch (doc "Boxes") cs = true ∧ allMatch (.object []) cs = false := by
  intro r doc
  have hfield : r.resolve "Title" = .ok ⟨"title", .text⟩ := by decide
  have hdoc (title : String) : fieldValues (doc title) "title" = [.string title] :=
    fieldValues_only_entry (by decide) title
  obtain ⟨cs, hcs, hmatch⟩ := @pattern_matches_iff r "Title" _ hfield (by decide) .startsWith "5*"
  obtain ⟨ds, hds, hblank⟩ := @pattern_matches_iff r "Title" _ hfield (by decide) .contains " "
  refine ⟨hfield, ⟨cs, hcs, ?_, ?_⟩, ds, hds, ?_, ?_⟩
  · rw [(hmatch _).2 _ (by decide) (.startsWith "5*"), hdoc]
    simp only [List.mem_singleton, exists_eq_left, asText]
    unfold StringMethod.Places
    decide
  · rw [Bool.eq_false_iff, Ne, (hmatch _).2 _ (by decide) (.startsWith "5*"), hdoc]
    simp only [List.mem_singleton, exists_eq_left, asText]
    unfold StringMethod.Places
    decide
  · rw [(hblank _).1 (by decide), hdoc]
    simp
  · rw [Bool.eq_false_iff, Ne, (hblank _).1 (by decide)]
    decide

end DocQuery
