import DocQuery.Json.Draft
import DocQuery.Number.Decimal

/-
  Reading JSON texts.
  The grammar is the strict one: no comments, no trailing commas, no control characters in strings,
  no leading zeros. Reading fails on a text outside the grammar; a text inside it that has no value
  is marked as unreadable where it stands.
-/

namespace DocQuery.Json

/-- The number of containers that may stand inside one another. -/
def maxDepth : Nat := 127

/-- The white space between tokens. -/
def isSpace (c : Char) : Bool :=
  c == ' ' || c == '\t' || c == '\n' || c == '\r'

/-- Leaves out the white space at the start. -/
def skipSpace (cs : List Char) : List Char :=
  cs.dropWhile isSpace

/-- The value of a decimal digit. -/
def digitValue (c : Char) : Nat :=
  c.toNat - '0'.toNat

/-- Splits off the decimal digits at the start. -/
def spanDigits (cs : List Char) : List Char × List Char :=
  cs.span Char.isDigit

/-- Takes digits into a whole number as long as it fits into 64 bits; the rest is left over. -/
def absorb (n : Nat) : List Char → Nat × List Char
  | [] => (n, [])
  | c :: rest =>
    let next := n * 10 + digitValue c
    if next < Nat.pow 2 64 then absorb next rest else (n, c :: rest)

/-- The parts of a written number. -/
structure Numeral where
  negative : Bool
  whole : List Char
  /-- The digits behind the point. -/
  fraction : Option (List Char)
  exponent : Option Int

/-- The number written without point and exponent: an integer when 64 bits hold it. A minus in
front of zero is kept, which only a floating-point number can do. -/
def Numeral.integer? (n : Numeral) : Option Int :=
  if n.fraction.isSome || n.exponent.isSome then none
  else
    let value := n.whole.foldl (fun acc c => acc * 10 + digitValue c) 0
    if n.negative then
      if 0 < value ∧ value ≤ Nat.pow 2 63 then some (-(value : Int)) else none
    else if value < Nat.pow 2 64 then some value
    else none

/-- The value of a written number, unless it is too large for a floating-point number. -/
def Numeral.value? (n : Numeral) : Option Number :=
  match n.integer? with
  | some z => some (.integer z)
  | none =>
    let (whole, dropped) := absorb 0 n.whole
    let fraction := n.fraction.getD []
    let (significand, unread) := absorb whole fraction
    let places : Int := fraction.length - unread.length
    let exponent := dropped.length - places + n.exponent.getD 0
    (Binary64.ofDecimal? n.negative significand exponent).map .real

/-- Reads an exponent, if one follows. -/
def readExponent (cs : List Char) : Option (Option Int × List Char) :=
  match cs with
  | c :: rest =>
    if c == 'e' || c == 'E' then
      let (negative, rest) := match rest with
        | '-' :: rest => (true, rest)
        | '+' :: rest => (false, rest)
        | rest => (false, rest)
      match spanDigits rest with
      | ([], _) => none
      | (ds, rest) =>
        let value : Int := ds.foldl (fun acc c => acc * 10 + digitValue c) 0
        some (some (if negative then -value else value), rest)
    else some (none, cs)
  | [] => some (none, cs)

/-- Reads a number. -/
def readNumeral (cs : List Char) : Option (Numeral × List Char) := do
  let (negative, cs) := match cs with
    | '-' :: rest => (true, rest)
    | cs => (false, cs)
  let (whole, cs) := spanDigits cs
  if whole.isEmpty || (whole.head? == some '0' && 1 < whole.length) then none
  else
    let (fraction, cs) ← match cs with
      | '.' :: rest =>
        match spanDigits rest with
        | ([], _) => none
        | (ds, rest) => some (some ds, rest)
      | cs => some (none, cs)
    let (exponent, cs) ← readExponent cs
    return (⟨negative, whole, fraction, exponent⟩, cs)

/-- The value of a hexadecimal digit. -/
def hexValue? (c : Char) : Option Nat :=
  if c.isDigit then some (c.toNat - '0'.toNat)
  else if 'a' ≤ c ∧ c ≤ 'f' then some (c.toNat - 'a'.toNat + 10)
  else if 'A' ≤ c ∧ c ≤ 'F' then some (c.toNat - 'A'.toNat + 10)
  else none

/-- Reads the four digits of a coded character. -/
def readUnit : List Char → Option (Nat × List Char)
  | a :: b :: c :: d :: rest => do
    return (((← hexValue? a) * 16 + (← hexValue? b)) * 256 +
      (← hexValue? c) * 16 + (← hexValue? d), rest)
  | _ => none

/-- Whether a coded unit is the first or the second half of a pair. -/
def isLeading (n : Nat) : Bool := 0xd800 ≤ n && n < 0xdc00

/-- Whether a coded unit is the second half of a pair. -/
def isTrailing (n : Nat) : Bool := 0xdc00 ≤ n && n < 0xe000

/-- The character of a short escape. -/
def shortEscape? (c : Char) : Option Char :=
  match c with
  | '"' => some '"'
  | '\\' => some '\\'
  | '/' => some '/'
  | 'b' => some '\x08'
  | 'f' => some '\x0c'
  | 'n' => some '\n'
  | 'r' => some '\r'
  | 't' => some '\t'
  | _ => none

/-- Reads a string behind its opening quote. The text is missing when half a pair stands alone. -/
def readString : Nat → List Char → Option (Option (List Char) × List Char)
  | 0, _ => none
  | fuel + 1, cs =>
    let put (c : Char) (r : Option (List Char) × List Char) := (r.1.map (c :: ·), r.2)
    match cs with
    | [] => none
    | '"' :: rest => some (some [], rest)
    | '\\' :: 'u' :: rest => do
      let (unit, rest) ← readUnit rest
      if isLeading unit then
        match rest with
        | '\\' :: 'u' :: behind =>
          let (second, behind) ← readUnit behind
          if isTrailing second then
            let code := 0x10000 + (unit - 0xd800) * 0x400 + (second - 0xdc00)
            return put (Char.ofNat code) (← readString fuel behind)
          else return (none, (← readString fuel rest).2)
        | rest => return (none, (← readString fuel rest).2)
      else if isTrailing unit then return (none, (← readString fuel rest).2)
      else return put (Char.ofNat unit) (← readString fuel rest)
    | '\\' :: c :: rest => do return put (← shortEscape? c) (← readString fuel rest)
    | c :: rest =>
      if c == '\\' || c.toNat < 0x20 then none
      else do return put c (← readString fuel rest)

mutual

/-- Reads a value inside a number of containers. -/
def readValue : Nat → Nat → List Char → Option (Draft × List Char)
  | 0, _, _ => none
  | fuel + 1, depth, cs =>
    match skipSpace cs with
    | 'n' :: 'u' :: 'l' :: 'l' :: rest => some (.null, rest)
    | 't' :: 'r' :: 'u' :: 'e' :: rest => some (.bool true, rest)
    | 'f' :: 'a' :: 'l' :: 's' :: 'e' :: rest => some (.bool false, rest)
    | '"' :: rest => do
      let (text, rest) ← readString (fuel + 1) rest
      let d := match text with
        | some cs => Draft.string (String.ofList cs)
        | none => Draft.unreadable
      return (d, rest)
    | '[' :: rest => do
      let (items, rest) ← match skipSpace rest with
        | ']' :: rest => some ([], rest)
        | rest => readItems fuel (depth + 1) rest
      return (if depth < maxDepth then .array items else .unreadable, rest)
    | '\x7b' :: rest => do
      let (entries, rest) ← match skipSpace rest with
        | '\x7d' :: rest => some (some [], rest)
        | rest => readEntries fuel (depth + 1) rest
      let d := match entries with
        | some entries => if depth < maxDepth then .object entries else .unreadable
        | none => Draft.unreadable
      return (d, rest)
    | cs => do
      let (numeral, rest) ← readNumeral cs
      let d := match numeral.value? with
        | some n => Draft.number n
        | none => Draft.unreadable
      return (d, rest)

/-- Reads the items of an array up to its closing bracket. -/
def readItems : Nat → Nat → List Char → Option (List Draft × List Char)
  | 0, _, _ => none
  | fuel + 1, depth, cs => do
    let (item, rest) ← readValue fuel depth cs
    match skipSpace rest with
    | ',' :: rest =>
      let (items, rest) ← readItems fuel depth rest
      return (item :: items, rest)
    | ']' :: rest => return ([item], rest)
    | _ => none

/-- Reads the entries of an object up to its closing brace. They are missing when a key has no
text. -/
def readEntries : Nat → Nat → List Char → Option (Option (List (String × Draft)) × List Char)
  | 0, _, _ => none
  | fuel + 1, depth, cs => do
    let rest ← match skipSpace cs with
      | '"' :: rest => some rest
      | _ => none
    let (key, rest) ← readString (fuel + 1) rest
    let rest ← match skipSpace rest with
      | ':' :: rest => some rest
      | _ => none
    let (value, rest) ← readValue fuel depth rest
    let put (entries : Option (List (String × Draft))) := do
      return (String.ofList (← key), value) :: (← entries)
    match skipSpace rest with
    | ',' :: rest =>
      let (entries, rest) ← readEntries fuel depth rest
      return (put entries, rest)
    | '\x7d' :: rest => return (put (some []), rest)
    | _ => none

end

/-- Reads a whole text. Every step takes a character or opens a value, so twice the length of the
text is enough fuel. -/
def readDraft? (text : String) : Option Draft := do
  let cs := text.toList
  let (draft, rest) ← readValue (2 * cs.length + 2) 0 cs
  if (skipSpace rest).isEmpty then return draft else none

/-- The value of a whole text. -/
def read? (text : String) : Option Json := do
  (← readDraft? text).toJson?

end DocQuery.Json
