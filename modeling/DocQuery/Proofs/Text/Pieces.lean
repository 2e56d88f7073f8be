import DocQuery.Text.Blank
import Mathlib.Data.List.Infix

/-
  Cutting a text at the characters of a class.
  A character of the class parts the pieces before it from those behind it
  (`splitAt_append_cons`), and a text without such a character is one piece. Every piece stands in
  the text (`infix_of_mem_splitAt`) and holds no such character.
-/

namespace DocQuery.Text

variable {sep : Char → Bool}

theorem splitAt_eq_splitOnP (cs : List Char) : splitAt sep cs = cs.splitOnP sep := by
  induction cs with
  | nil => rw [splitAt, List.splitOnP_nil]
  | cons c rest ih =>
    rw [splitAt, List.splitOnP_cons_eq_if_modifyHead, ih]
    obtain ⟨piece, pieces, h⟩ := List.exists_cons_of_ne_nil (List.splitOnP_ne_nil sep rest)
    rw [h, List.modifyHead_cons]

theorem splitAt_ne_nil (cs : List Char) : splitAt sep cs ≠ [] := by
  rw [splitAt_eq_splitOnP]
  exact List.splitOnP_ne_nil sep cs

theorem splitAt_cons_of_sep {c : Char} (hc : sep c = true) (cs : List Char) :
    splitAt sep (c :: cs) = [] :: splitAt sep cs := by
  rw [splitAt, if_pos hc]

theorem splitAt_cons_of_not_sep {c : Char} (hc : sep c = false) {cs piece : List Char}
    {pieces : List (List Char)} (h : splitAt sep cs = piece :: pieces) :
    splitAt sep (c :: cs) = (c :: piece) :: pieces := by
  rw [splitAt, if_neg (by simp [hc]), h]

theorem splitAt_append_cons {s : Char} (hs : sep s = true) (xs ys : List Char) :
    splitAt sep (xs ++ s :: ys) = splitAt sep xs ++ splitAt sep ys := by
  simp only [splitAt_eq_splitOnP, List.splitOnP_append_cons xs ys hs]

theorem splitAt_of_not_sep {cs : List Char} (h : ∀ c ∈ cs, sep c = false) :
    splitAt sep cs = [cs] := by
  rw [splitAt_eq_splitOnP, List.splitOnP_eq_singleton h]

/-- Pieces that were cut at one character give the text back. -/
theorem intercalate_splitAt (s : Char) (cs : List Char) :
    [s].intercalate (splitAt (· == s) cs) = cs := by
  rw [splitAt_eq_splitOnP, ← List.splitOn_eq_splitOnP, List.intercalate_splitOn]

/-! ## The pieces in the text -/

theorem prefix_of_splitAt_eq_cons {cs piece : List Char} {pieces : List (List Char)}
    (h : splitAt sep cs = piece :: pieces) : piece <+: cs := by
  induction cs generalizing piece pieces with
  | nil =>
    cases h
    exact List.nil_prefix
  | cons c cs ih =>
    cases hc : sep c with
    | true =>
      rw [splitAt_cons_of_sep hc] at h
      cases h
      exact List.nil_prefix
    | false =>
      obtain ⟨first, rest, hfirst⟩ := List.exists_cons_of_ne_nil (@splitAt_ne_nil sep cs)
      rw [splitAt_cons_of_not_sep hc hfirst] at h
      cases h
      exact List.cons_prefix_cons.2 ⟨rfl, ih hfirst⟩

theorem infix_of_mem_splitAt {cs piece : List Char} (h : piece ∈ splitAt sep cs) :
    piece <:+: cs := by
  induction cs with
  | nil =>
    rw [splitAt, List.mem_singleton] at h
    rw [h]
  | cons c cs ih =>
    obtain ⟨first, rest, hfirst⟩ := List.exists_cons_of_ne_nil (@splitAt_ne_nil sep (c :: cs))
    rw [hfirst] at h
    rcases List.mem_cons.1 h with rfl | hrest
    · exact (prefix_of_splitAt_eq_cons hfirst).isInfix
    · refine List.infix_cons (ih ?_)
      cases hc : sep c with
      | true =>
        rw [splitAt_cons_of_sep hc] at hfirst
        cases hfirst
        exact hrest
      | false =>
        obtain ⟨second, others, hsecond⟩ := List.exists_cons_of_ne_nil (@splitAt_ne_nil sep cs)
        rw [splitAt_cons_of_not_sep hc hsecond] at hfirst
        cases hfirst
        rw [hsecond]
        exact List.mem_cons_of_mem second hrest

theorem not_sep_of_mem_splitAt {cs piece : List Char} (h : piece ∈ splitAt sep cs) :
    ∀ c ∈ piece, sep c = false := by
  induction cs generalizing piece with
  | nil =>
    rw [splitAt, List.mem_singleton] at h
    simp [h]
  | cons c cs ih =>
    cases hc : sep c with
    | true =>
      rw [splitAt_cons_of_sep hc] at h
      rcases List.mem_cons.1 h with rfl | hrest
      · simp
      · exact ih hrest
    | false =>
      obtain ⟨first, rest, hfirst⟩ := List.exists_cons_of_ne_nil (@splitAt_ne_nil sep cs)
      rw [hfirst] at ih
      rw [splitAt_cons_of_not_sep hc hfirst] at h
      rcases List.mem_cons.1 h with rfl | hrest
      · exact List.forall_mem_cons.2 ⟨hc, ih List.mem_cons_self⟩
      · exact ih (List.mem_cons_of_mem first hrest)

/-! ## Words -/

/-- A text without white space is its own only word. -/
theorem words_of_not_blank {s : String} (hne : s.toList ≠ [])
    (h : ∀ c ∈ s.toList, isBlank c = false) : words s = [s] := by
  rw [words, stretches, splitAt_of_not_sep h]
  simp [hne]

theorem not_blank_of_mem_words {s word : String} (h : word ∈ words s) :
    ∀ c ∈ word.toList, isBlank c = false := by
  obtain ⟨piece, hpiece, rfl⟩ := List.mem_map.1 h
  rw [String.toList_ofList]
  exact not_sep_of_mem_splitAt (List.mem_filter.1 hpiece).1

end DocQuery.Text
