/-
  Tables of characters.
  A class of characters is written down as an ascending list of ranges, or of runs where every
  second code point belongs to the class, as in the alternating capital and small letters. The
  classes are those of version 17.0 of the Unicode Standard.
-/

namespace DocQuery.Text

/-- Whether a code point lies in one of the ranges, which ascend. -/
def inRanges : List (Nat × Nat) → Nat → Bool
  | [], _ => false
  | (first, last) :: rest, n =>
    if n < first then false else if n ≤ last then true else inRanges rest n

/-- Whether a code point lies in one of the runs, given by first, last and step. -/
def inRuns : List (Nat × Nat × Nat) → Nat → Bool
  | [], _ => false
  | (first, last, step) :: rest, n =>
    if first ≤ n && n ≤ last && (n - first) % step == 0 then true else inRuns rest n

end DocQuery.Text
