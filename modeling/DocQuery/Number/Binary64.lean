/-
  Binary floating-point numbers of 64 bits, held exactly.
  Every finite one is a whole number of units of 2 ^ -1074, so a number is its sign and that
  count, and comparing numbers is comparing integers. Arithmetic is exact arithmetic followed by
  one rounding to 53 significant bits. `roundRatio_representable`: whatever is rounded is a number
  of the format as long as it stays below the overflow bound.
-/

namespace DocQuery

/-- The power of two with a given exponent. -/
def twoPow (n : Nat) : Nat := Nat.pow 2 n

theorem twoPow_add (m n : Nat) : twoPow (m + n) = twoPow m * twoPow n :=
  Nat.pow_add 2 m n

theorem twoPow_le_twoPow {m n : Nat} (h : m ≤ n) : twoPow m ≤ twoPow n :=
  Nat.pow_le_pow_right (by decide) h

theorem twoPow_pos (n : Nat) : 0 < twoPow n :=
  Nat.pow_pos (by decide)

/-- The number of units of 2 ^ -1074 in one. -/
def unitsPerOne : Nat := twoPow 1074

/-- The first count of units that is too large for the format. -/
def overflowBound : Nat := twoPow 2098

theorem overflowBound_pos : 0 < overflowBound :=
  twoPow_pos 2098

/-- The counts of units the format has: 53 significant bits, below the overflow bound. -/
def Representable (units : Nat) : Prop :=
  units < overflowBound ∧ ∃ significand exponent, significand < twoPow 53 ∧
    units = significand * twoPow exponent

/-- A finite binary floating-point number of 64 bits. -/
structure Binary64 where
  /-- Whether the sign is a minus; the two zeros differ in it. -/
  negative : Bool
  /-- The absolute value in units of 2 ^ -1074. -/
  units : Nat
  representable : Representable units
deriving DecidableEq

/-- The number of binary digits of a natural number. -/
def bitLength (n : Nat) : Nat :=
  if n = 0 then 0 else n.log2 + 1

theorem lt_pow_bitLength (n : Nat) : n < twoPow (bitLength n) := by
  unfold bitLength
  split
  · subst n; decide
  · exact Nat.lt_log2_self

/-- The nearest natural number to a quotient; a half goes to the even neighbour. -/
def roundQuotient (num den : Nat) : Nat :=
  let q := num / den
  let r := num % den
  if 2 * r < den then q else if den < 2 * r then q + 1 else q + q % 2

theorem roundQuotient_le (num den : Nat) : roundQuotient num den ≤ num / den + 1 := by
  unfold roundQuotient
  dsimp only
  split
  · omega
  · split <;> omega

/-- The number of low bits that do not fit into 53 significant bits. -/
def excessBits (n : Nat) : Nat :=
  bitLength n - 53

/-- A quotient rounded to 53 significant bits. -/
def roundRatio (num den : Nat) : Nat :=
  let grid := twoPow (excessBits (num / den))
  roundQuotient num (den * grid) * grid

theorem lt_pow_excessBits (n : Nat) : n < twoPow 53 * twoPow (excessBits n) := by
  refine Nat.lt_of_lt_of_le (lt_pow_bitLength n) ?_
  rw [← twoPow_add]
  exact twoPow_le_twoPow (by unfold excessBits; omega)

theorem roundQuotient_excess_le (num den : Nat) :
    roundQuotient num (den * twoPow (excessBits (num / den))) ≤ twoPow 53 := by
  refine Nat.le_trans (roundQuotient_le _ _) ?_
  rw [← Nat.div_div_eq_div_mul]
  refine Nat.div_lt_of_lt_mul ?_
  rw [Nat.mul_comm]
  exact lt_pow_excessBits (num / den)

theorem roundRatio_eq_significand_mul (num den : Nat) :
    ∃ significand exponent, significand < twoPow 53 ∧
      roundRatio num den = significand * twoPow exponent := by
  unfold roundRatio
  dsimp only
  rcases Nat.lt_or_eq_of_le (roundQuotient_excess_le num den) with hlt | heq
  · exact ⟨_, _, hlt, rfl⟩
  · refine ⟨twoPow 52, excessBits (num / den) + 1, by decide, ?_⟩
    have h53 : twoPow 53 = twoPow 52 * 2 := by decide
    have hsucc : ∀ e, twoPow (e + 1) = 2 * twoPow e := fun e => Nat.mul_comm _ _
    rw [heq, h53, hsucc (excessBits (num / den)), Nat.mul_assoc]

theorem roundRatio_representable (num den : Nat) (h : roundRatio num den < overflowBound) :
    Representable (roundRatio num den) :=
  ⟨h, roundRatio_eq_significand_mul num den⟩

namespace Binary64

/-- The value as a signed count of units; the two zeros have the same. -/
def value (x : Binary64) : Int :=
  if x.negative then -(x.units : Int) else x.units

/-- The number with a given sign next to a quotient of counts of units, unless it overflows. -/
def ofRatio? (negative : Bool) (num den : Nat) : Option Binary64 :=
  if h : roundRatio num den < overflowBound then
    some ⟨negative, roundRatio num den, roundRatio_representable num den h⟩
  else none

/-- The zero of a given sign. -/
def zero (negative : Bool) : Binary64 :=
  ⟨negative, 0, overflowBound_pos, 0, 0, by decide, by decide⟩

/-- The same number with a given sign. -/
def withSign (negative : Bool) (x : Binary64) : Binary64 :=
  { x with negative := negative }

/-- The product of two numbers' absolute values, unless it overflows. -/
def mul? (x y : Binary64) : Option Binary64 :=
  ofRatio? false (x.units * y.units) unitsPerOne

/-- The quotient of two numbers' absolute values, unless it overflows. -/
def div? (x y : Binary64) : Option Binary64 :=
  ofRatio? false (x.units * unitsPerOne) y.units

/-- The number nearest to an integer, unless it overflows. -/
def ofInt? (z : Int) : Option Binary64 :=
  ofRatio? (z < 0) (z.natAbs * unitsPerOne) 1

/-- Whether two numbers have the same value, whatever the signs of zeros. -/
def sameValue (x y : Binary64) : Bool :=
  x.value == y.value

end Binary64

end DocQuery
