import DocQuery.Text.Lowercase

/-
  Patterns in the syntax of query strings.
  A backslash takes the special meaning from the character behind it, and a star stands for any
  text. `escape` writes a text as a pattern that means the text itself; `parse` reads a pattern, in
  small letters; `matchesParts` decides whether a text has the form of a pattern.
-/

namespace DocQuery.QueryString

/-- The characters with a special meaning. -/
def reserved : List Char :=
  ['+', '-', '=', '&', '|', '>', '<', '!', '(', ')', '\x7b', '\x7d', '[', ']', '^', '"', '~', '*',
   '?', ':', '\\', '/', ' ']

/-- The characters of a text with a backslash before every reserved one. -/
def escapeChars : List Char → List Char
  | [] => []
  | c :: rest =>
    if reserved.contains c then '\\' :: c :: escapeChars rest else c :: escapeChars rest

/-- A text as a pattern that means the text itself. -/
def escape (s : String) : String :=
  String.ofList (escapeChars s.toList)

/-- A part of a pattern. -/
inductive Part where
  | literal (c : Char)
  /-- Any text, the empty one included. -/
  | any
deriving DecidableEq

/-- The parts of a pattern. A backslash at the end means nothing. -/
def parse : List Char → List Part
  | [] => []
  | '\\' :: c :: rest => (Text.lower c).map Part.literal ++ parse rest
  | ['\\'] => []
  | '*' :: rest => .any :: parse rest
  | c :: rest => (Text.lower c).map Part.literal ++ parse rest

/-- A list and everything that is left of it when items are taken off its front. -/
def suffixes {α : Type} : List α → List (List α)
  | [] => [[]]
  | x :: xs => (x :: xs) :: suffixes xs

/-- Whether a text has the form of a pattern. -/
def matchesParts : List Part → List Char → Bool
  | [], text => text.isEmpty
  | .any :: parts, text => (suffixes text).any (matchesParts parts)
  | .literal _ :: _, [] => false
  | .literal c :: parts, d :: text => c == d && matchesParts parts text

/-- Whether a pattern matches a text as a whole, in small letters, or one of its tokens. -/
def matchesText (parts : List Part) (text : List Char) : Bool :=
  matchesParts parts (Text.lowerText text) || (Text.tokens text).any (matchesParts parts)

end DocQuery.QueryString
