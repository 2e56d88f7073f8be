import DocQuery.Predicate.Basic
import DocQuery.QueryString
import Mathlib.Data.List.Infix

/-
  Patterns for texts that mean themselves.
  The pattern of a string method is an escaped text with a star where the method lets other text
  stand. It has the parts that one expects (`parse_query`), so it matches where the method finds the
  small form of the text (`matchesParts_query`), and a reader of it takes every character of the
  text as itself except for the white space that is not escaped (`signs_query`).
-/

namespace DocQuery

/-! ## Placing a text in another one -/

namespace StringMethod

/-- Whether a method finds a text in another one. -/
def Places : StringMethod → List Char → List Char → Prop
  | contains, part, text => part <:+: text
  | startsWith, part, text => part <+: text
  | endsWith, part, text => part <:+ text

/-- The star before the text, where a method lets other text stand there. -/
def lead : StringMethod → List Char
  | startsWith => []
  | _ => ['*']

/-- The star behind the text, where a method lets other text stand there. -/
def tail : StringMethod → List Char
  | endsWith => []
  | _ => ['*']

/-- The pattern of a method for a text that means itself. -/
def query (method : StringMethod) (literal : List Char) : List Char :=
  method.lead ++ QueryString.escapeChars literal ++ method.tail

end StringMethod

namespace QueryString

/-! ## The parts of a pattern -/

theorem parse_cons_of_ne {c : Char} (hslash : c ≠ '\\') (hstar : c ≠ '*') (rest : List Char) :
    parse (c :: rest) = (Text.lower c).map .literal ++ parse rest := by
  rw [parse]
  · exact fun _ _ hc _ => hslash hc
  · exact fun hc _ => hslash hc
  · exact hstar

theorem parse_cons_of_not_reserved {c : Char} (h : reserved.contains c = false) (rest : List Char) :
    parse (c :: rest) = (Text.lower c).map .literal ++ parse rest := by
  refine parse_cons_of_ne ?_ ?_ rest
  · rintro rfl
    exact absurd h (by decide)
  · rintro rfl
    exact absurd h (by decide)

/-- An escaped text stands for the small forms of its characters and for nothing else. -/
theorem parse_escapeChars_append (literal rest : List Char) :
    parse (escapeChars literal ++ rest) =
      (Text.lowerEach literal).map .literal ++ parse rest := by
  induction literal with
  | nil => rfl
  | cons c literal ih =>
    have hcons : (Text.lowerEach (c :: literal)).map Part.literal =
        (Text.lower c).map .literal ++ (Text.lowerEach literal).map .literal := by
      rw [Text.lowerEach, List.flatMap_cons, List.map_append]
      rfl
    rw [hcons, List.append_assoc, ← ih, escapeChars]
    split
    · rfl
    · next h => exact parse_cons_of_not_reserved (Bool.eq_false_iff.2 h) _

/-- The parts of a pattern: the characters of the text, and a star on each open side. -/
theorem parse_query (method : StringMethod) (literal : List Char) :
    parse (method.query literal) = method.lead.map (fun _ => .any) ++
      (Text.lowerEach literal).map .literal ++ method.tail.map (fun _ => .any) := by
  have hescaped := parse_escapeChars_append literal
  cases method with
  | contains =>
    show Part.any :: parse (escapeChars literal ++ ['*']) = _
    rw [hescaped]
    rfl
  | startsWith =>
    show parse (escapeChars literal ++ ['*']) = _
    rw [hescaped]
    rfl
  | endsWith =>
    show Part.any :: parse (escapeChars literal ++ []) = _
    rw [hescaped]
    rfl

/-! ## Matching the parts -/

theorem suffixes_eq_tails {α : Type} (xs : List α) : suffixes xs = xs.tails := by
  induction xs with
  | nil => rfl
  | cons x xs ih => rw [suffixes, ih, List.tails]

theorem matchesParts_any (parts : List Part) (text : List Char) :
    matchesParts (.any :: parts) text = true ↔
      ∃ rest, rest <:+ text ∧ matchesParts parts rest = true := by
  rw [matchesParts, suffixes_eq_tails, List.any_eq_true]
  simp only [List.mem_tails]

/-- A star at the end matches any rest. -/
theorem matchesParts_star (text : List Char) : matchesParts [.any] text = true :=
  (matchesParts_any [] text).2 ⟨[], List.nil_suffix, rfl⟩

theorem matchesParts_literals (cs : List Char) (parts : List Part) (text : List Char) :
    matchesParts (cs.map .literal ++ parts) text = true ↔
      ∃ rest, text = cs ++ rest ∧ matchesParts parts rest = true := by
  induction cs generalizing text with
  | nil => simp
  | cons c cs ih =>
    cases text with
    | nil => simp [matchesParts]
    | cons d text =>
      simp only [List.map_cons, List.cons_append, matchesParts, Bool.and_eq_true, beq_iff_eq, ih,
        List.cons.injEq]
      constructor
      · rintro ⟨rfl, rest, rfl, hrest⟩
        exact ⟨rest, ⟨rfl, rfl⟩, hrest⟩
      · rintro ⟨rest, ⟨rfl, rfl⟩, hrest⟩
        exact ⟨rfl, rest, rfl, hrest⟩

theorem matchesParts_start (cs text : List Char) :
    matchesParts (cs.map .literal ++ [.any]) text = true ↔ cs <+: text := by
  rw [matchesParts_literals]
  constructor
  · rintro ⟨rest, rfl, -⟩
    exact List.prefix_append cs rest
  · rintro ⟨rest, rfl⟩
    exact ⟨rest, rfl, matchesParts_star rest⟩

theorem matchesParts_whole (cs text : List Char) :
    matchesParts (cs.map .literal) text = true ↔ text = cs := by
  have hnothing (rest : List Char) : matchesParts [] rest = true ↔ rest = [] := List.isEmpty_iff
  rw [← List.append_nil (cs.map Part.literal), matchesParts_literals]
  simp only [hnothing, exists_eq_right, List.append_nil]

/-- The pattern of a method matches the texts in which the method finds the small form of what is
looked for. -/
theorem matchesParts_query (method : StringMethod) (literal text : List Char) :
    matchesParts (parse (method.query literal)) text = true ↔
      method.Places (Text.lowerEach literal) text := by
  rw [parse_query]
  cases method with
  | contains =>
    show matchesParts (.any :: ((Text.lowerEach literal).map .literal ++ [.any])) text = true ↔
      Text.lowerEach literal <:+: text
    rw [matchesParts_any, List.infix_iff_prefix_suffix]
    simp only [matchesParts_start, and_comm]
  | startsWith => exact matchesParts_start _ text
  | endsWith =>
    show matchesParts (.any :: ((Text.lowerEach literal).map .literal ++ [])) text = true ↔
      Text.lowerEach literal <:+ text
    rw [matchesParts_any, List.append_nil]
    simp only [matchesParts_whole, exists_eq_right]

/-! ## Reading a pattern -/

/-- A character of a pattern as a reader takes it. -/
inductive Sign where
  /-- A character with the meaning that it has in a pattern. -/
  | plain (c : Char)
  /-- A character that stands for itself, because of a backslash before it. -/
  | escaped (c : Char)
deriving DecidableEq

/-- The character without the backslash. -/
def Sign.char : Sign → Char
  | plain c => c
  | escaped c => c

/-- A pattern read from left to right: a backslash escapes the character behind it. -/
def signs : List Char → List Sign
  | [] => []
  | '\\' :: c :: rest => .escaped c :: signs rest
  | c :: rest => .plain c :: signs rest

theorem signs_cons_of_ne {c : Char} (h : c ≠ '\\') (rest : List Char) :
    signs (c :: rest) = .plain c :: signs rest := by
  rw [signs]
  exact fun _ _ hc _ => h hc

/-- How a character of a text is read once the text is escaped. -/
def signOf (c : Char) : Sign :=
  if reserved.contains c then .escaped c else .plain c

theorem signs_escapeChars_append (literal rest : List Char) :
    signs (escapeChars literal ++ rest) = literal.map signOf ++ signs rest := by
  induction literal with
  | nil => rfl
  | cons c literal ih =>
    rw [escapeChars, List.map_cons, List.cons_append, ← ih, signOf]
    split
    · rfl
    · next h =>
      refine signs_cons_of_ne ?_ _
      rintro rfl
      exact h (by decide)

/-- A reader of a pattern finds the characters of the text between the stars. -/
theorem signs_query (method : StringMethod) (literal : List Char) :
    signs (method.query literal) =
      method.lead.map .plain ++ literal.map signOf ++ method.tail.map .plain := by
  have hescaped := signs_escapeChars_append literal
  cases method with
  | contains =>
    show signs ('*' :: (escapeChars literal ++ ['*'])) = _
    rw [signs_cons_of_ne (by decide), hescaped]
    rfl
  | startsWith =>
    show signs (escapeChars literal ++ ['*']) = _
    rw [hescaped]
    rfl
  | endsWith =>
    show signs ('*' :: (escapeChars literal ++ [])) = _
    rw [signs_cons_of_ne (by decide), hescaped]
    rfl

theorem map_char_signOf (literal : List Char) : (literal.map signOf).map Sign.char = literal := by
  have hchar : ∀ c ∈ literal, (Sign.char ∘ signOf) c = c := by
    intro c _
    show (signOf c).char = c
    unfold signOf
    split <;> rfl
  rw [List.map_map, List.map_congr_left hchar, List.map_id']

theorem plain_mem_map_signOf {literal : List Char} {c : Char} :
    .plain c ∈ literal.map signOf ↔ c ∈ literal ∧ c ∉ reserved := by
  simp only [List.mem_map, signOf]
  constructor
  · rintro ⟨d, hd, h⟩
    split at h
    · cases h
    · next hfree =>
      cases h
      exact ⟨hd, by simpa using hfree⟩
  · rintro ⟨hc, hfree⟩
    exact ⟨c, hc, if_neg (by simpa using hfree)⟩

/-- The only white space that is escaped is the space. -/
theorem blank_mem_reserved {c : Char} (h : Text.isBlank c = true) : c ∈ reserved ↔ c = ' ' := by
  have hblank : reserved.filter Text.isBlank = [' '] := by decide
  rw [← List.mem_singleton, ← hblank, List.mem_filter, and_iff_left h]

end QueryString

end DocQuery
