import DocQuery.Number.Binary64

/-
  The fewest decimal digits that read back.
  A decimal stands for a number when it lies among the reals that round to it. Of the decimals
  with the fewest digits the one nearest to the number is taken.
-/

namespace DocQuery

/-- Which of two equally near decimals is taken. -/
inductive Tie where
  | toEven
  | upward
deriving DecidableEq

/-- A positive decimal: digits times a power of ten. -/
structure Decimal where
  digits : Nat
  exponent : Int
deriving DecidableEq

/-- The reals that round to a number, between two ends in quarters of a unit. -/
structure RoundingInterval where
  low : Nat
  high : Nat
  /-- Whether the ends belong to it. -/
  closed : Bool

/-- The interval of a count of units. Below a power of two the neighbour is half as far away as
above it; the ends round to the number when its significand is even. -/
def RoundingInterval.ofUnits (units : Nat) : RoundingInterval :=
  let shift := excessBits units
  let gap := twoPow shift
  let significand := units / gap
  let below := if significand = twoPow 52 ∧ 0 < shift then gap else 2 * gap
  ⟨4 * units - below, 4 * units + 2 * gap, significand % 2 = 0⟩

/-- Whether a decimal lies in an interval. -/
def RoundingInterval.contains (i : RoundingInterval) (d : Decimal) : Bool :=
  let value := 4 * d.digits * Nat.pow 10 d.exponent.toNat * unitsPerOne
  let low := i.low * Nat.pow 10 (-d.exponent).toNat
  let high := i.high * Nat.pow 10 (-d.exponent).toNat
  if i.closed then low ≤ value && value ≤ high else low < value && value < high

/-- The exponent of the leading decimal digit of a positive count of units: an estimate from the
binary digits, corrected by an exact comparison. -/
def leadingExponent (units : Nat) : Int :=
  let estimate : Int := ((bitLength units : Int) - 1075) * 30103 / 100000
  let reaches (e : Int) : Bool := Nat.pow 10 e.toNat * unitsPerOne ≤ units * Nat.pow 10 (-e).toNat
  if reaches (estimate + 1) then estimate + 1 else if reaches estimate then estimate
  else estimate - 1

/-- The decimal on the grid of a power of ten that stands for a count of units, if there is one:
one of the two neighbours of the number on the grid, the nearer if both do. -/
def onGrid? (tie : Tie) (units : Nat) (exponent : Int) : Option Decimal :=
  let num := units * Nat.pow 10 (-exponent).toNat
  let den := unitsPerOne * Nat.pow 10 exponent.toNat
  let lower : Decimal := ⟨num / den, exponent⟩
  let upper : Decimal := ⟨num / den + 1, exponent⟩
  let interval := RoundingInterval.ofUnits units
  match 0 < lower.digits && interval.contains lower, interval.contains upper with
  | false, false => none
  | true, false => some lower
  | false, true => some upper
  | true, true =>
    match compare (2 * (num % den)) den, tie with
    | .lt, _ => some lower
    | .gt, _ => some upper
    | .eq, .upward => some upper
    | .eq, .toEven => some (if lower.digits % 2 = 0 then lower else upper)

/-- Moves the zeros at the end of the digits into the exponent. -/
def Decimal.strip (d : Decimal) : Decimal :=
  if h : 0 < d.digits ∧ d.digits % 10 = 0 then
    Decimal.strip ⟨d.digits / 10, d.exponent + 1⟩
  else d
termination_by d.digits
decreasing_by exact Nat.div_lt_self h.1 (by decide)

/-- The shortest decimal that stands for a positive count of units. Seventeen digits always
suffice; the exact value is named for the sake of totality. -/
def shortestDecimal (tie : Tie) (units : Nat) : Decimal :=
  let leading := leadingExponent units
  let found := (List.range 17).findSome? fun (n : Nat) => onGrid? tie units (leading - n)
  (found.getD ⟨units * Nat.pow 5 1074, -1074⟩).strip

end DocQuery
