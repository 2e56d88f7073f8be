import DocQuery.Proofs.QueryString.Patterns
import Mathlib.Algebra.Group.Nat.Even

/-
  Escaped texts inside patterns.
  A pattern at whose end no backslash waits for a character is read on its own, whatever stands
  behind it (`parse_append`). So an escaped text keeps its meaning between any two other patterns,
  and different texts are escaped to different patterns (`parse_around_escape`).
-/

namespace DocQuery.QueryString

/-! ## The end of a pattern -/

/-- The number of backslashes at the end of a pattern. They escape one another in pairs, so if the
number is odd the last one has no partner and escapes what comes behind the pattern. -/
def backslashesAtEnd (cs : List Char) : Nat :=
  (cs.reverse.takeWhile (· == '\\')).length

/-- What stands before the backslashes at the end does not end with another one. -/
theorem exists_eq_append_backslashes (cs : List Char) : ∃ body : List Char,
    body.getLast? ≠ some '\\' ∧ cs = body ++ List.replicate (backslashesAtEnd cs) '\\' := by
  have hrun : cs.reverse.takeWhile (· == '\\') = List.replicate (backslashesAtEnd cs) '\\' := by
    refine List.eq_replicate_of_mem fun c hc => ?_
    have hall := List.all_takeWhile (p := (· == '\\')) (l := cs.reverse)
    simpa using List.all_eq_true.1 hall c hc
  refine ⟨(cs.reverse.dropWhile (· == '\\')).reverse, ?_, ?_⟩
  · rw [List.getLast?_reverse]
    intro h
    have hhead := List.head?_dropWhile_not (· == '\\') cs.reverse
    rw [h] at hhead
    cases hhead
  · calc cs = (cs.reverse.takeWhile (· == '\\') ++ cs.reverse.dropWhile (· == '\\')).reverse := by
          rw [List.takeWhile_append_dropWhile, List.reverse_reverse]
      _ = _ := by rw [hrun, List.reverse_append, List.reverse_replicate]

theorem getLast?_ne_of_cons {c d : Char} {cs : List Char} (h : (c :: cs).getLast? ≠ some d) :
    cs.getLast? ≠ some d := by
  cases cs with
  | nil => exact nofun
  | cons e cs =>
    rw [List.getLast?_cons_cons] at h
    exact h

/-! ## Reading one pattern after another -/

theorem parse_append_of_getLast? {body : List Char} (h : body.getLast? ≠ some '\\')
    (rest : List Char) : parse (body ++ rest) = parse body ++ parse rest := by
  induction body using parse.induct with
  | case1 => rfl
  | case2 c body ih =>
    have hbody := ih (getLast?_ne_of_cons (getLast?_ne_of_cons h))
    show (Text.lower c).map Part.literal ++ parse (body ++ rest) = _
    rw [hbody, ← List.append_assoc]
    rfl
  | case3 => exact absurd rfl h
  | case4 body ih =>
    show Part.any :: parse (body ++ rest) = _
    rw [ih (getLast?_ne_of_cons h)]
    rfl
  | case5 c body hpair hlast hstar ih =>
    have hslash : c ≠ '\\' := by
      intro hc
      cases body with
      | nil => exact hlast hc rfl
      | cons d body => exact hpair d body hc rfl
    rw [List.cons_append, parse_cons_of_ne hslash hstar, parse_cons_of_ne hslash hstar,
      ih (getLast?_ne_of_cons h), List.append_assoc]

/-- Backslashes in pairs escape one another and nothing else. -/
theorem parse_backslashes_append (n : Nat) (rest : List Char) :
    parse (List.replicate (n + n) '\\' ++ rest) =
      parse (List.replicate (n + n) '\\') ++ parse rest := by
  induction n with
  | zero => rfl
  | succ n ih =>
    have hpair : List.replicate (n + 1 + (n + 1)) '\\' =
        '\\' :: '\\' :: List.replicate (n + n) '\\' := by
      rw [← List.replicate_succ, ← List.replicate_succ]
      congr 1
      omega
    rw [hpair]
    show (Text.lower '\\').map Part.literal ++ parse (List.replicate (n + n) '\\' ++ rest) = _
    rw [ih, ← List.append_assoc]
    rfl

/-- A pattern that does not end with a backslash without a partner is read on its own. -/
theorem parse_append {cs : List Char} (h : Even (backslashesAtEnd cs)) (rest : List Char) :
    parse (cs ++ rest) = parse cs ++ parse rest := by
  obtain ⟨n, hn⟩ := h
  obtain ⟨body, hbody, hcs⟩ := exists_eq_append_backslashes cs
  rw [hn] at hcs
  rw [hcs, List.append_assoc, parse_append_of_getLast? hbody, parse_append_of_getLast? hbody,
    parse_backslashes_append, List.append_assoc]

/-! ## Escaped texts -/

theorem toList_escape (s : String) : (escape s).toList = escapeChars s.toList :=
  String.toList_ofList

/-- Reading an escaped text gives its characters back. -/
theorem leftInverse_escape :
    Function.LeftInverse (fun t : String => String.ofList ((signs t.toList).map Sign.char))
      escape := by
  intro s
  have hsigns : signs (escape s).toList = s.toList.map signOf := by
    have h := signs_escapeChars_append s.toList []
    rwa [List.append_nil, signs, List.append_nil, ← toList_escape] at h
  show String.ofList ((signs (escape s).toList).map Sign.char) = s
  rw [hsigns, map_char_signOf, String.ofList_toList]

/-- Between two patterns, of which the first does not end with a backslash without a partner, an
escaped text stands for the small forms of its characters, one after another, and the two patterns
keep their parts. An escaped text holds no star that stands for other text, and texts that are
escaped alike are the same. -/
theorem parse_around_escape :
    (∀ a s b : String, Even (backslashesAtEnd a.toList) →
      parse (a ++ escape s ++ b).toList =
        parse a.toList ++ (Text.lowerEach s.toList).map .literal ++ parse b.toList) ∧
    (∀ s : String, .any ∉ parse (escape s).toList) ∧ Function.Injective escape := by
  refine ⟨fun a s b ha => ?_, fun s => ?_, leftInverse_escape.injective⟩
  · rw [String.toList_append, String.toList_append, List.append_assoc, parse_append ha,
      toList_escape, parse_escapeChars_append, List.append_assoc]
  · have h := parse_escapeChars_append s.toList []
    rw [List.append_nil, parse, List.append_nil, ← toList_escape] at h
    rw [h]
    simp

/-- A path that ends with a backslash, behind it a text with a star and a backslash, and a star that
stands for any rest. -/
theorem parse_around_escape_path :
    Even (backslashesAtEnd "C:\\\\".toList) ∧ escape "X*\\" = "X\\*\\\\" ∧
      parse ("C:\\\\" ++ escape "X*\\" ++ "*").toList =
        [.literal 'c', .literal ':', .literal '\\', .literal 'x', .literal '*', .literal '\\',
          .any] := by
  have hend : Even (backslashesAtEnd "C:\\\\".toList) := by decide
  refine ⟨hend, by decide, ?_⟩
  rw [parse_around_escape.1 "C:\\\\" "X*\\" "*" hend]
  decide +kernel

end DocQuery.QueryString
