import DocQuery.Instant.Basic

/-
  Instants as text in the form of RFC 3339.
  Reading accepts any offset of less than a day and any number of fraction digits, of which nine
  count. Writing uses universal time, and the fewest of 0, 3, 6 and 9 fraction digits that are
  exact.
-/

namespace DocQuery.Instant

/-- A number padded with zeros to a number of digits. -/
def padded (width n : Nat) : String :=
  let digits := toString n
  String.ofList (List.replicate (width - digits.length) '0') ++ digits

/-- A year: four digits, with a sign in front when it lies outside 0 to 9999. -/
def renderYear (year : Int) : String :=
  if 0 ≤ year ∧ year ≤ 9999 then padded 4 year.toNat
  else (if year < 0 then "-" else "+") ++ padded 4 year.natAbs

/-- The fraction of a second. -/
def renderFraction (nanos : Nat) : String :=
  if nanos = 0 then ""
  else if nanos % 1000000 = 0 then "." ++ padded 3 (nanos / 1000000)
  else if nanos % 1000 = 0 then "." ++ padded 6 (nanos / 1000)
  else "." ++ padded 9 nanos

/-- The text of an instant. -/
def render (t : Instant) : String :=
  let date := Date.ofDays (t.seconds / secondsPerDay)
  let time := (t.seconds % secondsPerDay).toNat
  let isLeap := nanosPerSecond ≤ t.nanos
  let second := time % 60 + (if isLeap then 1 else 0)
  let nanos := if isLeap then t.nanos - nanosPerSecond else t.nanos
  renderYear date.year ++ "-" ++ padded 2 date.month ++ "-" ++ padded 2 date.day ++ "T" ++
    padded 2 (time / 3600) ++ ":" ++ padded 2 (time / 60 % 60) ++ ":" ++ padded 2 second ++
    renderFraction nanos ++ "Z"

/-- Reads a number of exactly so many digits. -/
def readDigits : Nat → Nat → List Char → Option (Nat × List Char)
  | 0, acc, cs => some (acc, cs)
  | n + 1, acc, c :: cs =>
    if c.isDigit then readDigits n (acc * 10 + (c.toNat - '0'.toNat)) cs else none
  | _ + 1, _, [] => none

/-- Reads one character of a class. -/
def readMark (ok : Char → Bool) : List Char → Option (List Char)
  | c :: cs => if ok c then some cs else none
  | [] => none

/-- Reads the fraction of a second, if one follows, in nanoseconds. -/
def readFraction : List Char → Option (Nat × List Char)
  | '.' :: cs =>
    let (digits, rest) := cs.span Char.isDigit
    if digits.isEmpty then none
    else
      let nine := digits.take 9 ++ List.replicate (9 - digits.length) '0'
      some (nine.foldl (fun acc c => acc * 10 + (c.toNat - '0'.toNat)) 0, rest)
  | cs => some (0, cs)

/-- Reads an offset from universal time, in seconds. -/
def readOffset : List Char → Option (Int × List Char)
  | [] => none
  | sign :: cs =>
    if sign == 'Z' || sign == 'z' then some (0, cs)
    else if sign == '+' || sign == '-' || sign.toNat == 0x2212 then do
      let (hours, cs) ← readDigits 2 0 cs
      let cs ← readMark (· == ':') cs
      let (minutes, cs) ← readDigits 2 0 cs
      if hours ≤ 23 ∧ minutes ≤ 59 then
        let seconds : Int := (hours * 60 + minutes) * 60
        return (if sign == '+' then seconds else -seconds, cs)
      else none
    else none

/-- Reads an instant. Second 60 is the leap second that follows second 59. -/
def parse? (s : String) : Option Instant := do
  let (year, cs) ← readDigits 4 0 s.toList
  let cs ← readMark (· == '-') cs
  let (month, cs) ← readDigits 2 0 cs
  let cs ← readMark (· == '-') cs
  let (day, cs) ← readDigits 2 0 cs
  let cs ← readMark (fun c => c == 'T' || c == 't' || c == ' ') cs
  let (hour, cs) ← readDigits 2 0 cs
  let cs ← readMark (· == ':') cs
  let (minute, cs) ← readDigits 2 0 cs
  let cs ← readMark (· == ':') cs
  let (second, cs) ← readDigits 2 0 cs
  let (nanos, cs) ← readFraction cs
  let (offset, cs) ← readOffset cs
  let date : Date := ⟨year, month, day⟩
  if cs.isEmpty ∧ date.Exists ∧ hour ≤ 23 ∧ minute ≤ 59 ∧ second ≤ 60 then
    let time : Int := ((hour * 60 + minute) * 60 + min second 59 : Nat)
    let nanos := if second = 60 then nanos + nanosPerSecond else nanos
    return ⟨date.toDays * secondsPerDay + time - offset, nanos⟩
  else none

end DocQuery.Instant
