import DocQuery.Instant.Basic
import Mathlib.Algebra.Ring.Nat

/-
  Days of the calendar.
  The day that is a number of days after the start of 1970 exists (`ofDays_exists`), and counting
  its days gives the number back (`toDays_ofDays`). A day is found by its year first and then by its
  month; in both searches what is left is less than the length of the year or month.
-/

namespace DocQuery.Date

/-! ## Years -/

theorem daysBeforeYear_succ (year : Int) :
    daysBeforeYear (year + 1) = daysBeforeYear year + if isLeap year then 366 else 365 := by
  unfold daysBeforeYear isLeap
  simp only [Bool.and_eq_true, Bool.or_eq_true, beq_iff_eq, bne_iff_ne]
  split <;> omega

/-- The start of a year is less than two days from the one that 400 years of one length would
give. -/
theorem daysBeforeYear_near_mean (year : Int) :
    146097 * year - 400 < 400 * daysBeforeYear year ∧
      400 * daysBeforeYear year < 146097 * year + 800 := by
  unfold daysBeforeYear
  omega

theorem yearOfDay_le_and_lt (n : Int) :
    daysBeforeYear (yearOfDay n) ≤ n ∧ n < daysBeforeYear (yearOfDay n + 1) := by
  unfold yearOfDay
  dsimp only
  split
  case isTrue hnext =>
    have hlate := (daysBeforeYear_near_mean (n * 400 / 146097 + 1 + 1)).1
    exact ⟨hnext, by omega⟩
  case isFalse hnext =>
    split
    case isTrue hearly =>
      have hmean := (daysBeforeYear_near_mean (n * 400 / 146097 - 1)).2
      rw [Int.sub_add_cancel]
      exact ⟨by omega, hearly⟩
    case isFalse hearly => exact ⟨Int.not_lt.1 hearly, Int.not_le.1 hnext⟩

/-! ## Months -/

theorem length_monthLengths (year : Int) : (monthLengths year).length = 12 := rfl

theorem sum_monthLengths (year : Int) :
    daysBeforeYear year + (monthLengths year).sum = daysBeforeYear (year + 1) := by
  rw [daysBeforeYear_succ, monthLengths]
  cases isLeap year <;> rfl

theorem daysBeforeMonth_eq_sum (year : Int) (month : Nat) :
    daysBeforeMonth year month = ((monthLengths year).take (month - 1)).sum :=
  List.sum_eq_foldl_nat.symm

/-- A day is in the month after those it leaves behind. -/
theorem splitMonths_eq {lengths : List Nat} {n : Nat} (hn : n < lengths.sum) (month : Nat) :
    ∃ passed rest, splitMonths lengths month n = (month + passed, rest + 1) ∧
      rest < lengths.getD passed 0 ∧ (lengths.take passed).sum + rest = n := by
  induction lengths generalizing n month with
  | nil => exact absurd hn (Nat.not_lt_zero n)
  | cons length lengths ih =>
    rw [List.sum_cons] at hn
    rw [splitMonths]
    by_cases hfirst : n < length
    · rw [if_pos hfirst]
      exact ⟨0, n, rfl, hfirst, Nat.zero_add n⟩
    · obtain ⟨passed, rest, hsplit, hrest, hsum⟩ :=
        ih (n := n - length) (by omega) (month + 1)
      rw [if_neg hfirst, hsplit]
      refine ⟨passed + 1, rest, by rw [Nat.add_assoc, Nat.add_comm 1], hrest, ?_⟩
      rw [List.take_succ_cons, List.sum_cons]
      omega

/-! ## Days -/

theorem ofDays_eq (n : Int) :
    ∃ passed rest, ofDays n = ⟨yearOfDay (n + epochDay), 1 + passed, rest + 1⟩ ∧
      rest < (monthLengths (yearOfDay (n + epochDay))).getD passed 0 ∧
      daysBeforeYear (yearOfDay (n + epochDay)) +
        (((monthLengths (yearOfDay (n + epochDay))).take passed).sum + rest : Nat) =
          n + epochDay := by
  obtain ⟨hle, hlt⟩ := yearOfDay_le_and_lt (n + epochDay)
  have hyear := sum_monthLengths (yearOfDay (n + epochDay))
  have hn : (n + epochDay - daysBeforeYear (yearOfDay (n + epochDay))).toNat <
      (monthLengths (yearOfDay (n + epochDay))).sum := by
    omega
  obtain ⟨passed, rest, hsplit, hrest, hday⟩ := splitMonths_eq hn 1
  refine ⟨passed, rest, ?_, hrest, by omega⟩
  unfold ofDays
  simp only [hsplit]

theorem ofDays_exists (n : Int) : (ofDays n).Exists := by
  obtain ⟨passed, rest, hdate, hrest, -⟩ := ofDays_eq n
  rw [hdate]
  refine ⟨Nat.le_add_right 1 passed, Nat.le_add_left 1 rest, ?_⟩
  show rest + 1 ≤ (monthLengths (yearOfDay (n + epochDay))).getD (1 + passed - 1) 0
  rw [Nat.add_sub_cancel_left]
  exact hrest

theorem toDays_ofDays (n : Int) : (ofDays n).toDays = n := by
  obtain ⟨passed, rest, hdate, -, hsum⟩ := ofDays_eq n
  rw [hdate, toDays]
  simp only [daysBeforeMonth_eq_sum, Nat.add_sub_cancel_left, Nat.add_sub_cancel]
  omega

theorem Exists.month_le {d : Date} (h : d.Exists) : d.month ≤ 12 := by
  obtain ⟨-, hday, hlength⟩ := h
  refine Nat.not_lt.1 fun hmonth => ?_
  have hnone : (monthLengths d.year)[d.month - 1]? = none :=
    List.getElem?_eq_none (by rw [length_monthLengths]; omega)
  rw [List.getD_eq_getElem?_getD, hnone] at hlength
  exact Nat.not_succ_le_zero _ (Nat.le_trans hday hlength)

theorem Exists.day_le {d : Date} (h : d.Exists) : d.day ≤ 31 := by
  obtain ⟨-, -, hlength⟩ := h
  have hmonth : ∀ length ∈ monthLengths d.year, length ≤ 31 := by
    unfold monthLengths
    cases isLeap d.year <;> decide
  refine Nat.le_trans hlength ?_
  rw [List.getD_eq_getElem?_getD]
  cases hlookup : (monthLengths d.year)[d.month - 1]? with
  | none => exact Nat.zero_le 31
  | some length => exact hmonth length (List.mem_of_getElem? hlookup)

end DocQuery.Date
