import DocQuery.Proofs.Compilation.Literal

/-
  What a pattern leaves unescaped.
  A reader of a query string takes every character of the text that is looked for as itself, except
  for white space other than the space: a backend that ends a term at it sees several terms
  (`query_escapes_iff`, `tab_unescaped_ticket`). Only patterns for a start or an end can hold such
  white space, because a single word has none.
-/

namespace DocQuery

open QueryString

namespace Compilation

variable {r : Resolver} {property : String} {method : StringMethod} {pattern query : String}
  {fields : List String} {literal : List Char}

/-- A string method that compiles to a query string looks for a literal text. -/
theorem seeks_of_compile
    (h : (Predicate.stringOp method property pattern).compile r =
      .ok [.allOf [.queryString fields query]]) :
    ∃ literal, method.Seeks pattern literal ∧ query.toList = method.query literal := by
  rw [compile_stringOp] at h
  obtain ⟨clause, hclause, h⟩ := bind_eq_ok.1 h
  cases pure_eq_ok.1 h
  unfold stringClause at hclause
  obtain ⟨field, -, hclause⟩ := bind_eq_ok.1 hclause
  split at hclause
  · split at hclause
    · cases hclause
    · obtain ⟨literal, hseeks, -, rfl⟩ := patternClause_eq_iff.1 (pure_eq_ok.1 hclause)
      exact ⟨literal, hseeks, String.toList_ofList⟩
  · cases hclause

/-- What is looked for anywhere in a value holds no white space. -/
theorem not_blank_of_seeks_contains (h : StringMethod.contains.Seeks pattern literal) :
    ∀ c ∈ literal, Text.isBlank c = false := by
  cases h with
  | @contains _ word hword =>
    have hmem : word ∈ Text.words pattern := by simp [hword]
    exact Text.not_blank_of_mem_words hmem

/-- White space of a text stays plain unless it is the space. -/
theorem plain_blank_iff (literal : List Char) :
    (∀ c, .plain c ∈ literal.map signOf → Text.isBlank c = false) ↔
      ∀ c ∈ literal, Text.isBlank c = true → c = ' ' := by
  constructor
  · intro h c hc hblank
    rw [← blank_mem_reserved hblank]
    by_contra hfree
    have hplain := h c (plain_mem_map_signOf.2 ⟨hc, hfree⟩)
    rw [hblank] at hplain
    cases hplain
  · intro h c hplain
    obtain ⟨hc, hfree⟩ := plain_mem_map_signOf.1 hplain
    rw [Bool.eq_false_iff]
    intro hblank
    exact hfree ((blank_mem_reserved hblank).2 (h c hc hblank))

end Compilation

open Compilation

/-- The query string of a method is read as the text that it looks for between the stars that the
method adds. No reserved character of the text is plain, and no white space is, exactly if the text
holds no other white space than spaces; a text that is looked for anywhere holds none at all. -/
theorem query_escapes_iff {r : Resolver} {method : StringMethod} {property pattern query : String}
    {fields : List String}
    (h : (Predicate.stringOp method property pattern).compile r =
      .ok [.allOf [.queryString fields query]]) :
    ∃ literal body, method.Seeks pattern literal ∧
      signs query.toList = method.lead.map .plain ++ body ++ method.tail.map .plain ∧
      body.map Sign.char = literal ∧ (∀ c, .plain c ∈ body → c ∉ reserved) ∧
      ((∀ c, .plain c ∈ body → Text.isBlank c = false) ↔
        ∀ c ∈ literal, Text.isBlank c = true → c = ' ') ∧
      (method = .contains → ∀ c ∈ literal, Text.isBlank c = false) := by
  obtain ⟨literal, hseeks, hquery⟩ := seeks_of_compile h
  refine ⟨literal, literal.map signOf, hseeks, ?_, map_char_signOf literal, ?_,
    plain_blank_iff literal, ?_⟩
  · rw [hquery, signs_query]
  · exact fun c hc => (plain_mem_map_signOf.1 hc).2
  · rintro rfl
    exact not_blank_of_seeks_contains hseeks

/-- A title is looked for by its start, which holds a space and a star. -/
theorem query_escapes_ticket :
    (Predicate.stringOp .startsWith "Title" "5* b").compile titleIndex.resolver =
      .ok [.allOf [.queryString ["title"] "5\\*\\ b*"]] ∧
    ∃ body, signs "5\\*\\ b*".toList = body ++ [.plain '*'] ∧
      body.map Sign.char = "5* b".toList ∧
      ∀ c, .plain c ∈ body → c ∉ reserved ∧ Text.isBlank c = false := by
  have hcompile : (Predicate.stringOp .startsWith "Title" "5* b").compile titleIndex.resolver =
      .ok [.allOf [.queryString ["title"] "5\\*\\ b*"]] := by rfl
  obtain ⟨literal, body, hseeks, hsigns, hchars, hreserved, hblank, -⟩ :=
    query_escapes_iff hcompile
  cases hseeks with
  | startsWith =>
    refine ⟨hcompile, body, hsigns, hchars, fun c hc => ⟨hreserved c hc, ?_⟩⟩
    have hspaces : "5* b".toList.filter Text.isBlank = [' '] := by decide
    refine hblank.2 (fun d hd hd' => ?_) c hc
    rw [← List.mem_singleton, ← hspaces]
    exact List.mem_filter.2 ⟨hd, hd'⟩

/-- A tab of a pattern is white space that is not escaped. -/
theorem tab_unescaped_ticket :
    titleIndex.validate = .ok () ∧
      (Predicate.stringOp .startsWith "Title" "a\tb").compile titleIndex.resolver =
        .ok [.allOf [.queryString ["title"] "a\tb*"]] ∧
      Text.isBlank '\t' = true ∧ Sign.plain '\t' ∈ signs "a\tb*".toList := by
  have hcompile : (Predicate.stringOp .startsWith "Title" "a\tb").compile titleIndex.resolver =
      .ok [.allOf [.queryString ["title"] "a\tb*"]] := by rfl
  exact ⟨by decide, hcompile, by decide, by decide⟩

end DocQuery
