/-
  Unique identifiers of 128 bits.
  An identifier is written as thirty-two hexadecimal digits in groups of 8, 4, 4, 4 and 12, joined
  by hyphens. It is also read without hyphens, in braces, and with the prefix `urn:uuid:`. When a
  text is none of these, `IdentifierError` says which rule of its form it breaks.
-/

namespace DocQuery

/-- A unique identifier: thirty-two hexadecimal digits. -/
structure Identifier where
  digits : List (Fin 16)
deriving DecidableEq

/-- Why a text is not an identifier. Positions and lengths are counted in bytes. -/
inductive IdentifierError where
  | length (found : Nat)
  | character (c : Char) (position : Nat)
  | groupCount (found : Nat)
  | groupLength (group expected found : Nat)
deriving DecidableEq

namespace IdentifierError

/-- The wording of an error. -/
def message : IdentifierError → String
  | length found => s!"invalid length: found {found}"
  | character c position =>
    "invalid character: found \x60" ++ String.singleton c ++ "\x60 at " ++ toString position
  | groupCount found => s!"invalid group count: expected 5, found {found}"
  | groupLength group expected found =>
    s!"invalid group length in group {group}: expected {expected}, found {found}"

end IdentifierError

namespace Identifier

/-- The value of a hexadecimal digit of either case. -/
def digit? (c : Char) : Option (Fin 16) :=
  if '0' ≤ c ∧ c ≤ '9' then some (Fin.ofNat 16 (c.toNat - '0'.toNat))
  else if 'a' ≤ c ∧ c ≤ 'f' then some (Fin.ofNat 16 (c.toNat - 'a'.toNat + 10))
  else if 'A' ≤ c ∧ c ≤ 'F' then some (Fin.ofNat 16 (c.toNat - 'A'.toNat + 10))
  else none

/-- The lengths of the groups of digits. -/
def groupLengths : List Nat := [8, 4, 4, 4, 12]

/-- Cuts a list into groups of given lengths. -/
def groups {α : Type} : List Nat → List α → List (List α)
  | [], _ => []
  | n :: rest, xs => xs.take n :: groups rest (xs.drop n)

/-- The written form of an identifier. -/
def render (id : Identifier) : String :=
  let cs := id.digits.map fun d => Nat.digitChar d.val
  "-".intercalate ((groups groupLengths cs).map String.ofList)

/-- The identifier of thirty-two digits without hyphens. -/
def ofDigits? (cs : List Char) : Option Identifier := do
  let ds ← cs.mapM digit?
  if ds.length = 32 then some ⟨ds⟩ else none

/-- The identifier of five groups of digits joined by hyphens. -/
def ofGroups? (cs : List Char) : Option Identifier :=
  let hyphens := [8, 13, 18, 23]
  if cs.length = 36 ∧ hyphens.all (fun i => cs[i]? == some '-') then
    ofDigits? (cs.take 8 ++ (cs.drop 9).take 4 ++ (cs.drop 14).take 4 ++ (cs.drop 19).take 4 ++
      cs.drop 24)
  else none

/-- What stands in front of an identifier that is written as a name. -/
def urnLead : List Char := "urn:uuid:".toList

/-- Whether a text starts like a name, in letters of either case. -/
def hasUrnLead (cs : List Char) : Bool :=
  (cs.take urnLead.length).map Char.toLower == urnLead

/-- The forms of identifiers that have hyphens or may have them. -/
inductive Form where
  | any
  | hyphenated
  | braced
  | urn
deriving DecidableEq

/-- The number of bytes of some characters. -/
def byteLength (cs : List Char) : Nat :=
  cs.foldl (fun n c => n + c.utf8Size) 0

/-- What a scan over the characters of a text has seen. -/
structure Scan where
  form : Form
  /-- The number of hyphens. -/
  hyphens : Nat := 0
  /-- The positions of the first four hyphens, the last one first. -/
  positions : List Nat := []

/-- Scans the characters from a position on, up to the first that is neither digit nor hyphen. -/
def scan (offset : Nat) : List Char → Nat → Scan → Except IdentifierError Scan
  | [], _, s => .ok s
  | c :: rest, position, s =>
    if (digit? c).isSome then scan offset rest (position + 1) s
    else if c == '-' then
      scan offset rest (position + 1)
        { form := if s.form = .any then .hyphenated else s.form
          hyphens := s.hyphens + 1
          positions := if s.hyphens < 4 then position :: s.positions else s.positions }
    else .error (.character c (offset + position))

/-- The error of a group of digits that has the wrong length: the hyphens behind the first four
groups have their places, and the last group takes what is left. -/
def groupError (length : Nat) : List Nat → List Nat → Nat → IdentifierError
  | position :: positions, start :: next :: starts, group =>
    if position + 1 = next then groupError length positions (next :: starts) (group + 1)
    else .groupLength group (next - start - 1) (position - start)
  | _, _, _ => .groupLength 4 12 (length - 24)

/-- The first rule that a text breaks, looked at in a given form. -/
def diagnose (cs : List Char) (form : Form) : IdentifierError :=
  let length := byteLength cs
  if length = 0 ∨ 45 < length then .length length
  else
    let (inner, offset, form) : List Char × Nat × Form :=
      if form ≠ .any then (cs, 0, form)
      else if cs.head? = some '\x7b' ∧ cs.getLast? = some '\x7d' ∧ 1 < cs.length then
        ((cs.drop 1).dropLast, 1, .braced)
      else if hasUrnLead cs then (cs.drop urnLead.length, urnLead.length, .urn)
      else (cs, 0, .any)
    match scan offset inner 0 { form } with
    | .error e => e
    | .ok s =>
      if s.form = .any then .length length
      else if s.hyphens ≠ 4 then .groupCount (s.hyphens + 1)
      else groupError length s.positions.reverse [0, 9, 14, 19, 24] 0

/-- Reads an identifier in any of its forms. -/
def parse (s : String) : Except IdentifierError Identifier :=
  let cs := s.toList
  let attempt (read : List Char → Option Identifier) (inner : List Char) (form : Form) :=
    match read inner with
    | some id => .ok id
    | none => .error (diagnose inner form)
  let length := byteLength cs
  if length = 32 then attempt ofDigits? cs .any
  else if length = 36 then attempt ofGroups? cs .hyphenated
  else if length = 38 ∧ cs.head? = some '\x7b' ∧ cs.getLast? = some '\x7d' then
    attempt ofGroups? ((cs.drop 1).dropLast) .hyphenated
  else if length = 45 ∧ hasUrnLead cs then attempt ofGroups? (cs.drop urnLead.length) .hyphenated
  else .error (diagnose cs .any)

end Identifier

end DocQuery
