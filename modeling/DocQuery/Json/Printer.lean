import DocQuery.Json.Basic
import DocQuery.Number.Layout

/-
  JSON values as text.
  `compact` leaves out all white space; `pretty` puts every item and entry on a line of its own,
  indented by two spaces for each level.
-/

namespace DocQuery

/-- Floating-point numbers in JSON are positional from 0.00001 up to sixteen digits before the
point, keep a point, and otherwise have a signed exponent. -/
def jsonLayout : Layout where
  positional := some (-5, 15)
  keepsPoint := true
  tie := .toEven

/-- The text of a JSON number. -/
def Number.render : Number → String
  | integer n => toString n
  | real x => jsonLayout.render x

namespace Json

/-- A hexadecimal digit. -/
def hexDigit (n : Nat) : Char :=
  Nat.digitChar n

/-- A character as it stands inside a JSON string. -/
def escapeChar (c : Char) : List Char :=
  match c with
  | '"' => ['\\', '"']
  | '\\' => ['\\', '\\']
  | '\x08' => ['\\', 'b']
  | '\t' => ['\\', 't']
  | '\n' => ['\\', 'n']
  | '\x0c' => ['\\', 'f']
  | '\r' => ['\\', 'r']
  | c =>
    if c.toNat < 0x20 then
      ['\\', 'u', '0', '0', hexDigit (c.toNat / 16), hexDigit (c.toNat % 16)]
    else [c]

/-- A text as a JSON string. -/
def renderString (s : String) : String :=
  String.ofList ('"' :: s.toList.flatMap escapeChar ++ ['"'])

mutual

/-- The text of a value without white space. -/
def compact : Json → String
  | null => "null"
  | bool true => "true"
  | bool false => "false"
  | number n => n.render
  | string s => renderString s
  | array items => "[" ++ ",".intercalate (compactItems items) ++ "]"
  | object entries => "\x7b" ++ ",".intercalate (compactEntries entries) ++ "\x7d"

/-- The texts of some items. -/
def compactItems : List Json → List String
  | [] => []
  | item :: rest => item.compact :: compactItems rest

/-- The texts of some entries. -/
def compactEntries : List (String × Json) → List String
  | [] => []
  | (key, value) :: rest => (renderString key ++ ":" ++ value.compact) :: compactEntries rest

end

/-- Lines between two brackets, or the brackets alone when there are none. -/
def bracket (opening closing : String) (depth : Nat) (lines : List String) : String :=
  if lines.isEmpty then opening ++ closing
  else
    let margin (n : Nat) := "\n" ++ String.ofList (List.replicate (2 * n) ' ')
    opening ++ margin (depth + 1) ++ ("," ++ margin (depth + 1)).intercalate lines ++
      margin depth ++ closing

mutual

/-- The text of a value over several lines, at a level of nesting. -/
def prettyAt (depth : Nat) : Json → String
  | null => "null"
  | bool true => "true"
  | bool false => "false"
  | number n => n.render
  | string s => renderString s
  | array items => bracket "[" "]" depth (prettyItems (depth + 1) items)
  | object entries => bracket "\x7b" "\x7d" depth (prettyEntries (depth + 1) entries)

/-- The texts of some items. -/
def prettyItems (depth : Nat) : List Json → List String
  | [] => []
  | item :: rest => item.prettyAt depth :: prettyItems depth rest

/-- The texts of some entries. -/
def prettyEntries (depth : Nat) : List (String × Json) → List String
  | [] => []
  | (key, value) :: rest =>
    (renderString key ++ ": " ++ value.prettyAt depth) :: prettyEntries depth rest

end

/-- The text of a value over several lines. -/
def pretty (j : Json) : String :=
  j.prettyAt 0

end Json

end DocQuery
