import DocQuery.Number.Binary64

/-
  Numbers read from decimal digits.
  The digits of a number are taken as one whole number as far as 64 bits hold them; that number is
  rounded to the format and then scaled by its power of ten, with one rounding at each step.
-/

namespace DocQuery.Binary64

/-- The number nearest to a power of ten, unless it overflows. -/
def powerOfTen? (n : Nat) : Option Binary64 :=
  ofRatio? false (Nat.pow 10 n * unitsPerOne) 1

/-- The largest power of ten used in one step of scaling. -/
def maxTenExponent : Nat := 308

/-- Divides by the largest power of ten a number of times; a zero stays as it is. -/
def shrink : Nat → Binary64 → Option Binary64
  | 0, x => some x
  | n + 1, x =>
    if x.units = 0 then some x
    else do
      let ten ← powerOfTen? maxTenExponent
      let y ← x.div? ten
      shrink n y

/-- Scales a number by a power of ten; nothing when the result is too large for the format. -/
def scale? (x : Binary64) (exponent : Int) : Option Binary64 :=
  if 0 ≤ exponent then
    if exponent.natAbs ≤ maxTenExponent then do
      let ten ← powerOfTen? exponent.natAbs
      x.mul? ten
    else if x.units = 0 then some x
    else none
  else do
    let steps := (exponent.natAbs - 1) / maxTenExponent
    let y ← shrink steps x
    if y.units = 0 then some y
    else do
      let ten ← powerOfTen? (exponent.natAbs - maxTenExponent * steps)
      y.div? ten

/-- The number written as a sign, a whole number of at most 64 bits and a power of ten. -/
def ofDecimal? (negative : Bool) (significand : Nat) (exponent : Int) : Option Binary64 := do
  let x ← ofInt? significand
  let y ← x.scale? exponent
  return y.withSign negative

end DocQuery.Binary64
