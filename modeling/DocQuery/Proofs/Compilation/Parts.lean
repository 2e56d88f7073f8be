import DocQuery.Proofs.Compilation.Literal

/-
  Looking for the parts of a stored text.
  What is looked for is made small character by character, and the stored text as a whole. A part of
  the text is found all the same, unless one of its capital sigmas ends a word there: such a sigma
  is a final one in the small form of the text (`parts_found_iff`, `part_missed_ticket`).
-/

namespace DocQuery

open Document

/-- A part of a text that a method can look for, between what stands before it and behind it: a
start, an end, or a stretch without white space. -/
inductive StringMethod.Cuts : StringMethod → List Char → List Char → List Char → Prop where
  | startsWith {part after : List Char} (h : ∃ c ∈ part, Text.isBlank c = false) :
    Cuts .startsWith [] part after
  | endsWith {before part : List Char} (h : ∃ c ∈ part, Text.isBlank c = false) :
    Cuts .endsWith before part []
  | contains {before part after : List Char} (hne : part ≠ [])
    (h : ∀ c ∈ part, Text.isBlank c = false) : Cuts .contains before part after

/-- A part of a text is found in a document by every method that can look for it. -/
def FindsPart (r : Resolver) (property : String) (doc : Json) (before part after : List Char) :
    Prop :=
  ∀ method, StringMethod.Cuts method before part after →
    (Predicate.stringOp method property (String.ofList part)).Finds r doc

namespace Compilation

variable {r : Resolver} {property : String} {field : ResolvedField} {method : StringMethod}
  {before part after : List Char} {doc : Json}

theorem not_blank_of_cuts (h : method.Cuts before part after) :
    Text.isBlankText (String.ofList part) = false := by
  have hsome : ∃ c ∈ part, Text.isBlank c = false := by
    cases h with
    | startsWith h => exact h
    | endsWith h => exact h
    | contains hne h =>
      obtain ⟨c, cs, rfl⟩ := List.exists_cons_of_ne_nil hne
      exact ⟨c, List.mem_cons_self, h c List.mem_cons_self⟩
  simpa [Text.isBlankText] using hsome

theorem seeks_of_cuts (h : method.Cuts before part after) :
    method.Seeks (String.ofList part) part := by
  have hpart : (String.ofList part).toList = part := String.toList_ofList
  cases h with
  | startsWith =>
    have hseeks := StringMethod.Seeks.startsWith (String.ofList part)
    rwa [hpart] at hseeks
  | endsWith =>
    have hseeks := StringMethod.Seeks.endsWith (String.ofList part)
    rwa [hpart] at hseeks
  | contains hne h =>
    rw [← hpart] at hne h
    have hseeks := StringMethod.Seeks.contains (Text.words_of_not_blank hne h)
    rwa [hpart] at hseeks

/-- A method places a part where it was cut from, as long as the sigmas of the part keep their small
form. -/
theorem places_of_cuts (h : method.Cuts before part after)
    (hsigma : ¬Text.SigmaEndsWord before.reverse part after) :
    method.Places (Text.lowerEach part) (Text.lowerText (before ++ part ++ after)) := by
  obtain ⟨left, right, hsmall, hleft, hright⟩ := Text.lowerText_parts hsigma
  rw [hsmall]
  cases h with
  | startsWith =>
    rw [hleft rfl]
    exact List.prefix_append _ right
  | endsWith =>
    rw [hright rfl, List.append_nil]
    exact List.suffix_append left _
  | contains => exact List.infix_append left _ right

theorem findsPart_of_not_sigmaEndsWord (hfield : r.resolve property = .ok field)
    (htext : field.kind.type = .text ∨ field.kind.type = .identifier)
    (hdoc : .string (String.ofList (before ++ part ++ after)) ∈ fieldValues doc field.name)
    (hsigma : ¬Text.SigmaEndsWord before.reverse part after) :
    FindsPart r property doc before part after := by
  intro method h
  obtain ⟨cs, hcs, hmatch⟩ :=
    allMatch_stringOp hfield htext (not_blank_of_cuts h) (seeks_of_cuts h)
  refine ⟨cs, hcs, (hmatch doc).2 ⟨_, hdoc, Text.lowerText (before ++ part ++ after), ?_, ?_⟩⟩
  · rw [asText, String.toList_ofList]
    exact List.mem_cons_self
  · exact places_of_cuts h hsigma

theorem exists_not_blank_of_sigmaEndsWord {text : List Char}
    (h : Text.SigmaEndsWord before text after) : ∃ c ∈ text, Text.isBlank c = false := by
  obtain ⟨left, right, rfl, -⟩ := h
  exact ⟨'Σ', by simp, by decide⟩

/-- A text with a capital sigma that ends a word is not found as a part of itself. -/
theorem not_findsPart_of_sigmaEndsWord (hfield : r.resolve property = .ok field)
    (htext : field.kind.type = .text ∨ field.kind.type = .identifier) {text : List Char}
    (hdoc : fieldValues doc field.name = [.string (String.ofList text)])
    (hsigma : Text.SigmaEndsWord [] text []) : ¬FindsPart r property doc [] text [] := by
  intro hfinds
  have hcuts : StringMethod.startsWith.Cuts [] text [] :=
    .startsWith (exists_not_blank_of_sigmaEndsWord hsigma)
  obtain ⟨cs, hcs, hmatch⟩ :=
    allMatch_stringOp hfield htext (not_blank_of_cuts hcuts) (seeks_of_cuts hcuts)
  have hfound := (Predicate.finds_iff hcs doc).1 (hfinds .startsWith hcuts)
  obtain ⟨value, hvalue, form, hform, hplaces⟩ := (hmatch doc).1 hfound
  rw [hdoc, List.mem_singleton] at hvalue
  rw [hvalue, asText, String.toList_ofList] at hform
  exact Text.lowerText_eq_lowerEach_iff.1 (Text.lowerText_of_prefix_form hform hplaces) hsigma

end Compilation

open Compilation

/-- In a document that holds a text every part of the text is found none of whose capital sigmas
ends a word of the text. So all parts are found if no capital sigma of the text ends a word, and if
the document holds nothing else in the field, then only if. -/
theorem parts_found_iff {r : Resolver} {property : String} {field : ResolvedField}
    (hfield : r.resolve property = .ok field)
    (htext : field.kind.type = .text ∨ field.kind.type = .identifier) (text : List Char) :
    (∀ doc, .string (String.ofList text) ∈ fieldValues doc field.name →
      ∀ before part after, text = before ++ part ++ after →
        ¬Text.SigmaEndsWord before.reverse part after →
        FindsPart r property doc before part after) ∧
    ∀ doc, fieldValues doc field.name = [.string (String.ofList text)] →
      ((∀ before part after, text = before ++ part ++ after →
          FindsPart r property doc before part after) ↔
        ¬Text.SigmaEndsWord [] text []) := by
  refine ⟨?_, fun doc hdoc => ⟨fun hfinds hsigma => ?_, ?_⟩⟩
  · rintro doc hdoc before part after rfl hsigma
    exact findsPart_of_not_sigmaEndsWord hfield htext hdoc hsigma
  · exact not_findsPart_of_sigmaEndsWord hfield htext hdoc hsigma (hfinds [] text [] (by simp))
  · rintro hsigma before part after rfl
    refine findsPart_of_not_sigmaEndsWord hfield htext (by simp [hdoc]) fun hpart => ?_
    exact hsigma (Text.sigmaEndsWord_of_part hpart)

/-- The sigma at the end of one word does not hide the other word, and a title without such a sigma
is found by all its parts. -/
theorem parts_found_ticket :
    let r := titleIndex.resolver
    let doc (title : String) := Json.object [("title", .string title)]
    titleIndex.resolve "Title" = .ok ⟨"title", .text⟩ ∧
    (Predicate.stringOp .contains "Title" "ΣΟΦΙΑ").Finds r (doc "ΟΔΟΣ ΣΟΦΙΑ") ∧
    ∀ before part after, "ΣΟΦΙΑ 5*".toList = before ++ part ++ after →
      FindsPart r "Title" (doc "ΣΟΦΙΑ 5*") before part after := by
  intro r doc
  have hfield : r.resolve "Title" = .ok ⟨"title", .text⟩ := by decide
  have hdoc (title : String) : fieldValues (doc title) "title" = [.string title] :=
    fieldValues_only_entry (by decide) title
  have hname : "ΣΟΦΙΑ".toList.any Text.isBlank = false := by decide
  have hcuts : StringMethod.contains.Cuts "ΟΔΟΣ ".toList "ΣΟΦΙΑ".toList [] :=
    .contains (by decide) fun c hc => Bool.eq_false_iff.2 (List.any_eq_false.1 hname c hc)
  have hpart := (@parts_found_iff r "Title" _ hfield (by decide) "ΟΔΟΣ ΣΟΦΙΑ".toList).1
  have hall := (@parts_found_iff r "Title" _ hfield (by decide) "ΣΟΦΙΑ 5*".toList).2
  rw [String.ofList_toList] at hpart hall
  refine ⟨hfield, ?_, (hall _ (hdoc _)).2 (by decide)⟩
  have hfinds := hpart (doc "ΟΔΟΣ ΣΟΦΙΑ") (by simp [hdoc]) "ΟΔΟΣ ".toList "ΣΟΦΙΑ".toList []
    (by decide) (by decide) .contains hcuts
  rwa [String.ofList_toList] at hfinds

/-- A ticket is not found by the whole of its title. -/
theorem part_missed_ticket :
    let doc := Json.object [("title", .string "ΟΔΟΣ")]
    titleIndex.validate = .ok () ∧ titleIndex.resolve "Title" = .ok ⟨"title", .text⟩ ∧
      fieldValues doc "title" = [.string "ΟΔΟΣ"] ∧
      StringMethod.startsWith.Cuts [] "ΟΔΟΣ".toList [] ∧ ∃ cs,
        (Predicate.stringOp .startsWith "Title" "ΟΔΟΣ").compile titleIndex.resolver = .ok cs ∧
        allMatch doc cs = false := by
  intro doc
  have hfield : titleIndex.resolver.resolve "Title" = .ok ⟨"title", .text⟩ := by decide
  have hdoc : fieldValues doc "title" = [.string "ΟΔΟΣ"] :=
    fieldValues_only_entry (by decide) "ΟΔΟΣ"
  have hcuts : StringMethod.startsWith.Cuts [] "ΟΔΟΣ".toList [] :=
    .startsWith ⟨'Ο', by decide, by decide⟩
  obtain ⟨cs, hcs, hmatch⟩ := allMatch_stringOp (r := titleIndex.resolver) hfield (Or.inl rfl)
    (not_blank_of_cuts hcuts) (seeks_of_cuts hcuts)
  rw [String.ofList_toList] at hcs
  refine ⟨by decide, hfield, hdoc, hcuts, cs, hcs, ?_⟩
  rw [Bool.eq_false_iff, Ne, hmatch, hdoc]
  simp only [List.mem_singleton, exists_eq_left, asText]
  unfold StringMethod.Places
  decide

end DocQuery
