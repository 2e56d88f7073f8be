import DocQuery.Json.Basic
import Mathlib.Data.Nat.Dist

/-
  Rounding to 53 significant bits.
  No number of the format is nearer to a quotient than its rounded value (`roundRatio_nearest`), so
  rounding keeps the numbers of the format and the order of all others. Integers are compared after
  rounding: a smaller integer never comes out as the greater one, and two integers that differ come
  out as the same only if neither is less than 2 ^ 53 and not both have 53 significant bits
  (`compare_value_of_areToldApart`).
-/

namespace DocQuery

/-- Whether a count of units has no more than 53 significant bits. -/
def HasSignificand (units : Nat) : Prop :=
  ∃ significand exponent, significand < twoPow 53 ∧ units = significand * twoPow exponent

/-! ## Quotients -/

theorem roundQuotient_cases (num den : Nat) :
    (roundQuotient num den = num / den ∧ 2 * (num % den) ≤ den) ∨
      (roundQuotient num den = num / den + 1 ∧ den ≤ 2 * (num % den)) := by
  unfold roundQuotient
  dsimp only
  split
  · exact Or.inl ⟨rfl, by omega⟩
  · split
    · exact Or.inr ⟨rfl, by omega⟩
    · rcases Nat.mod_two_eq_zero_or_one (num / den) with heven | hodd
      · exact Or.inl ⟨by omega, by omega⟩
      · exact Or.inr ⟨by omega, by omega⟩

/-- No multiple of the divisor is nearer than the rounded quotient times the divisor. -/
theorem roundQuotient_nearest (num : Nat) {den : Nat} (hden : 0 < den) (k : Nat) :
    Nat.dist num (roundQuotient num den * den) ≤ Nat.dist num (k * den) := by
  have hnum := Nat.div_add_mod num den
  have hrest := Nat.mod_lt num hden
  rw [Nat.mul_comm] at hnum
  have hside : k * den ≤ num / den * den ∨ num / den * den + den ≤ k * den := by
    rcases Nat.lt_or_ge (num / den) k with habove | hbelow
    · have hmul := Nat.mul_le_mul_right den habove
      rw [Nat.succ_mul] at hmul
      exact Or.inr hmul
    · exact Or.inl (Nat.mul_le_mul_right den hbelow)
  unfold Nat.dist
  rcases roundQuotient_cases num den with ⟨hround, hhalf⟩ | ⟨hround, hhalf⟩
  · rw [hround]
    omega
  · rw [hround, Nat.succ_mul]
    omega

/-! ## The format -/

/-- A number with excess bits is at least the first one that has so many. -/
theorem le_of_excessBits_pos {n : Nat} (h : 0 < excessBits n) :
    twoPow 52 * twoPow (excessBits n) ≤ n := by
  have hn : n ≠ 0 := by
    rintro rfl
    exact absurd h (by decide)
  have hexcess : excessBits n = n.log2 - 52 := by
    unfold excessBits bitLength
    rw [if_neg hn]
    omega
  rw [← twoPow_add, hexcess, Nat.add_sub_cancel' (by omega)]
  exact Nat.log2_self_le hn

/-- A number of the format is a multiple of a power of two, or below all numbers whose last
significant bit has that power. -/
theorem HasSignificand.multiple_or_lt {x : Nat} (hx : HasSignificand x) (exponent : Nat) :
    (∃ k, x = k * twoPow exponent) ∨ (0 < exponent ∧ x < twoPow 52 * twoPow exponent) := by
  obtain ⟨significand, e, hsignificand, rfl⟩ := hx
  rcases Nat.lt_or_ge e exponent with hsmall | hlarge
  · refine Or.inr ⟨Nat.zero_lt_of_lt hsmall, ?_⟩
    have hlt : significand * twoPow e < twoPow 53 * twoPow e :=
      Nat.mul_lt_mul_of_pos_right hsignificand (twoPow_pos e)
    have hle : twoPow 53 * twoPow e ≤ twoPow 52 * twoPow exponent := by
      rw [← twoPow_add, ← twoPow_add]
      exact twoPow_le_twoPow (by omega)
    exact Nat.lt_of_lt_of_le hlt hle
  · refine Or.inl ⟨significand * twoPow (e - exponent), ?_⟩
    rw [Nat.mul_assoc, ← twoPow_add, Nat.sub_add_cancel hlarge]

/-- No number of the format is nearer to a quotient than the rounded one. -/
theorem roundRatio_nearest (num : Nat) {den : Nat} (hden : 0 < den) {x : Nat}
    (hx : HasSignificand x) :
    Nat.dist num (roundRatio num den * den) ≤ Nat.dist num (x * den) := by
  have hround : roundRatio num den * den =
      roundQuotient num (den * twoPow (excessBits (num / den))) *
        (den * twoPow (excessBits (num / den))) := by
    unfold roundRatio
    dsimp only
    rw [Nat.mul_assoc, Nat.mul_comm den]
  have hpos : 0 < den * twoPow (excessBits (num / den)) := Nat.mul_pos hden (twoPow_pos _)
  rw [hround]
  rcases hx.multiple_or_lt (excessBits (num / den)) with ⟨k, hk⟩ | ⟨hexcess, hlt⟩
  · have hmultiple : x * den = k * (den * twoPow (excessBits (num / den))) := by
      rw [hk, Nat.mul_assoc, Nat.mul_comm den]
    rw [hmultiple]
    exact roundQuotient_nearest num hpos k
  -- What is no multiple lies below the number that 2 ^ 52 multiples give, and so farther away.
  · have hnear := roundQuotient_nearest num hpos (twoPow 52)
    have hge : twoPow 52 * (den * twoPow (excessBits (num / den))) ≤ num := by
      rw [Nat.mul_left_comm, Nat.mul_comm]
      exact (Nat.le_div_iff_mul_le hden).1 (le_of_excessBits_pos hexcess)
    have hbelow : x * den < twoPow 52 * (den * twoPow (excessBits (num / den))) := by
      rw [Nat.mul_left_comm, Nat.mul_comm]
      exact Nat.mul_lt_mul_of_pos_left hlt hden
    unfold Nat.dist at hnear ⊢
    omega

theorem roundRatio_one_of_hasSignificand {x : Nat} (hx : HasSignificand x) :
    roundRatio x 1 = x := by
  have hnear := roundRatio_nearest x Nat.zero_lt_one hx
  unfold Nat.dist at hnear
  omega

/-- Of two numbers the greater is not rounded to the smaller: each would be nearer to what the other
is rounded to. -/
theorem roundRatio_one_mono {m n : Nat} (h : m ≤ n) : roundRatio m 1 ≤ roundRatio n 1 := by
  rcases Nat.eq_or_lt_of_le h with rfl | hlt
  · exact Nat.le_refl _
  · have hm := roundRatio_nearest m Nat.zero_lt_one (roundRatio_eq_significand_mul n 1)
    have hn := roundRatio_nearest n Nat.zero_lt_one (roundRatio_eq_significand_mul m 1)
    unfold Nat.dist at hm hn
    omega

/-! ## Integers -/

theorem hasSignificand_of_le {n : Nat} (h : n ≤ twoPow 53) : HasSignificand n := by
  rcases Nat.lt_or_eq_of_le h with hlt | rfl
  · exact ⟨n, 0, hlt, (Nat.mul_one n).symm⟩
  · exact ⟨twoPow 52, 1, by decide, by decide⟩

theorem HasSignificand.mul_unitsPerOne {n : Nat} (h : HasSignificand n) :
    HasSignificand (n * unitsPerOne) := by
  obtain ⟨significand, exponent, hsignificand, rfl⟩ := h
  refine ⟨significand, exponent + 1074, hsignificand, ?_⟩
  rw [twoPow_add, ← Nat.mul_assoc]
  rfl

theorem unitsPerOne_pos : 0 < unitsPerOne :=
  twoPow_pos 1074

/-- Integers that rounding keeps apart unless they are the same: both have at most 53 significant
bits, or one of them is less than 2 ^ 53. -/
def AreToldApart (a b : Int) : Prop :=
  (HasSignificand a.natAbs ∧ HasSignificand b.natAbs) ∨ a.natAbs < twoPow 53 ∨ b.natAbs < twoPow 53

theorem AreToldApart.symm {a b : Int} (h : AreToldApart a b) : AreToldApart b a := by
  unfold AreToldApart at h ⊢
  rcases h with ⟨ha, hb⟩ | ha | hb
  · exact Or.inl ⟨hb, ha⟩
  · exact Or.inr (Or.inr ha)
  · exact Or.inr (Or.inl hb)

namespace Number

theorem value_natCast (n : Nat) : value (.integer n) = roundRatio (n * unitsPerOne) 1 := by
  unfold value
  dsimp only
  rw [if_neg (by omega), Int.natAbs_natCast]

theorem value_neg_natCast (n : Nat) :
    value (.integer (-n)) = -(roundRatio (n * unitsPerOne) 1 : Int) := by
  unfold value
  dsimp only
  rw [Int.natAbs_neg, Int.natAbs_natCast]
  split
  · rfl
  · have hzero : n = 0 := by omega
    have hround : roundRatio 0 1 = 0 :=
      roundRatio_one_of_hasSignificand (hasSignificand_of_le (Nat.zero_le _))
    rw [hzero, Nat.zero_mul, hround]
    rfl

theorem value_integer_mono {a b : Int} (h : a ≤ b) : value (.integer a) ≤ value (.integer b) := by
  obtain ⟨m, rfl | rfl⟩ := a.eq_nat_or_neg
  · obtain ⟨n, rfl⟩ := Int.eq_ofNat_of_zero_le (Int.le_trans (Int.natCast_nonneg m) h)
    have hround := roundRatio_one_mono (Nat.mul_le_mul_right unitsPerOne (Int.ofNat_le.1 h))
    rw [value_natCast, value_natCast]
    omega
  · obtain ⟨n, rfl | rfl⟩ := b.eq_nat_or_neg
    · rw [value_neg_natCast, value_natCast]
      omega
    · have hle : n ≤ m := by omega
      have hround := roundRatio_one_mono (Nat.mul_le_mul_right unitsPerOne hle)
      rw [value_neg_natCast, value_neg_natCast]
      omega

theorem value_of_hasSignificand {a : Int} (h : HasSignificand a.natAbs) :
    value (.integer a) = a * unitsPerOne := by
  have hround := roundRatio_one_of_hasSignificand h.mul_unitsPerOne
  obtain ⟨n, rfl | rfl⟩ := a.eq_nat_or_neg
  · rw [Int.natAbs_natCast] at hround
    rw [value_natCast, hround, Int.natCast_mul]
  · rw [Int.natAbs_neg, Int.natAbs_natCast] at hround
    rw [value_neg_natCast, hround, Int.natCast_mul, Int.neg_mul]

theorem value_lt_of_hasSignificand {a b : Int} (ha : HasSignificand a.natAbs)
    (hb : HasSignificand b.natAbs) (h : a < b) : value (.integer a) < value (.integer b) := by
  rw [value_of_hasSignificand ha, value_of_hasSignificand hb]
  exact Int.mul_lt_mul_of_pos_right h (Int.natCast_pos.2 unitsPerOne_pos)

/-- The neighbours of an integer below 2 ^ 53 are numbers of the format, and any other integer lies
behind one of them. -/
theorem value_lt_of_areToldApart {a b : Int} (hapart : AreToldApart a b) (h : a < b) :
    value (.integer a) < value (.integer b) := by
  have hsmall {n : Int} (hn : n.natAbs ≤ twoPow 53) : HasSignificand n.natAbs :=
    hasSignificand_of_le hn
  rcases hapart with ⟨ha, hb⟩ | ha | hb
  · exact value_lt_of_hasSignificand ha hb h
  · have hnext : value (.integer a) < value (.integer (a + 1)) :=
      value_lt_of_hasSignificand (hsmall (by omega)) (hsmall (by omega)) (by omega)
    exact Int.lt_of_lt_of_le hnext (value_integer_mono (by omega))
  · have hlast : value (.integer (b - 1)) < value (.integer b) :=
      value_lt_of_hasSignificand (hsmall (by omega)) (hsmall (by omega)) (by omega)
    exact Int.lt_of_le_of_lt (value_integer_mono (by omega)) hlast

theorem compare_value_of_areToldApart {a b : Int} (h : AreToldApart a b) :
    compare (value (.integer a)) (value (.integer b)) = compare a b := by
  rcases Int.lt_trichotomy a b with hlt | rfl | hgt
  · rw [Std.compare_eq_lt.2 hlt, Std.compare_eq_lt.2 (value_lt_of_areToldApart h hlt)]
  · rw [Std.compare_self, Std.compare_self]
  · rw [Std.compare_eq_gt.2 hgt, Std.compare_eq_gt.2 (value_lt_of_areToldApart h.symm hgt)]

/-- Rounding keeps the order of integers, or makes them the same. -/
theorem compare_value_integer (a b : Int) :
    compare (value (.integer a)) (value (.integer b)) = compare a b ∨
      compare (value (.integer a)) (value (.integer b)) = .eq := by
  cases horder : compare (value (.integer a)) (value (.integer b)) with
  | eq => exact Or.inr rfl
  | lt =>
    have hlt : a < b := Int.not_le.1 fun hle =>
      Int.not_lt.2 (value_integer_mono hle) (Std.compare_eq_lt.1 horder)
    exact Or.inl (Std.compare_eq_lt.2 hlt).symm
  | gt =>
    have hgt : b < a := Int.not_le.1 fun hle =>
      Int.not_lt.2 (value_integer_mono hle) (Std.compare_eq_gt.1 horder)
    exact Or.inl (Std.compare_eq_gt.2 hgt).symm

end Number

end DocQuery
