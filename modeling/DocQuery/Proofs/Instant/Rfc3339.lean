import DocQuery.Instant.Rfc3339
import DocQuery.Proofs.Instant.Calendar
import Mathlib.Data.List.TakeDrop

/-
  Reading what writing gives.
  The text of an instant of the years 0 to 9999 is read as an instant with the same text
  (`parse?_render`). The instant itself comes back except where a leap second was put behind a
  second other than the last of a minute: the text does not show it.
-/

namespace DocQuery.Instant

/-! ## Digits -/

theorem toList_padded (width n : Nat) :
    (padded width n).toList =
      List.replicate (width - (Nat.toDigits 10 n).length) '0' ++ Nat.toDigits 10 n := by
  simp only [padded, String.toList_append, String.toList_ofList, Nat.toString_eq_ofList_toDigits,
    String.length_ofList]

theorem isDigit_of_mem_padded {width n : Nat} {c : Char} (h : c ∈ (padded width n).toList) :
    c.isDigit = true := by
  rw [toList_padded, List.mem_append] at h
  rcases h with hzero | hdigit
  · rw [List.eq_of_mem_replicate hzero]
    rfl
  · exact Nat.isDigit_of_mem_toDigits (by decide) (by decide) hdigit

theorem ofDigitChars_padded (width n : Nat) :
    Nat.ofDigitChars 10 (padded width n).toList 0 = n := by
  rw [toList_padded, Nat.ofDigitChars_append, Nat.ofDigitChars_replicate_zero, Nat.mul_zero,
    Nat.ofDigitChars_ten_toDigits]

theorem length_padded {width n : Nat} (hwidth : 0 < width) (hn : n < 10 ^ width) :
    (padded width n).toList.length = width := by
  have hlength := (Nat.length_toDigits_le_iff (by decide : 1 < 10) hwidth).2 hn
  rw [toList_padded, List.length_append, List.length_replicate]
  omega

theorem readDigits_append {ds : List Char} (hds : ∀ c ∈ ds, c.isDigit = true) (acc : Nat)
    (rest : List Char) :
    readDigits ds.length acc (ds ++ rest) = some (Nat.ofDigitChars 10 ds acc, rest) := by
  induction ds generalizing acc with
  | nil => rfl
  | cons d ds ih =>
    rw [List.length_cons, List.cons_append, readDigits, if_pos (hds d List.mem_cons_self),
      ih fun c hc => hds c (List.mem_cons_of_mem d hc), Nat.ofDigitChars_cons, Nat.mul_comm]

theorem readDigits_padded {width n : Nat} (hwidth : 0 < width) (hn : n < 10 ^ width)
    (rest : List Char) :
    readDigits width 0 ((padded width n).toList ++ rest) = some (n, rest) := by
  have hdigits : ∀ c ∈ (padded width n).toList, c.isDigit = true := fun _ => isDigit_of_mem_padded
  have h := readDigits_append hdigits 0 rest
  rwa [length_padded hwidth hn, ofDigitChars_padded] at h

/-! ## Fractions -/

theorem span_padded (width n : Nat) {c : Char} (hc : c.isDigit = false) (rest : List Char) :
    ((padded width n).toList ++ c :: rest).span Char.isDigit =
      ((padded width n).toList, c :: rest) := by
  have hdigits : ∀ d ∈ (padded width n).toList, d.isDigit = true := fun _ => isDigit_of_mem_padded
  rw [List.span_eq_takeWhile_dropWhile, List.takeWhile_append_of_pos hdigits,
    List.dropWhile_append_of_pos hdigits]
  simp [hc]

/-- Fewer than nine digits count as if zeros followed. -/
theorem readFraction_padded {width n : Nat} (hwidth : 0 < width) (hnine : width ≤ 9)
    (hn : n < 10 ^ width) (rest : List Char) :
    readFraction (("." ++ padded width n).toList ++ 'Z' :: rest) =
      some (n * 10 ^ (9 - width), 'Z' :: rest) := by
  have hlength := length_padded hwidth hn
  have hne : (padded width n).toList.isEmpty = false := by
    rw [List.isEmpty_eq_false_iff, ← List.length_pos_iff, hlength]
    exact hwidth
  have htake : (padded width n).toList.take 9 = (padded width n).toList :=
    List.take_of_length_le (by omega)
  have hvalue : ((padded width n).toList ++ List.replicate (9 - width) '0').foldl
      (fun acc c => acc * 10 + (c.toNat - '0'.toNat)) 0 = n * 10 ^ (9 - width) := by
    have h := Nat.ofDigitChars_append (b := 10) (l := (padded width n).toList)
      (m := List.replicate (9 - width) '0') 0
    rw [ofDigitChars_padded, Nat.ofDigitChars_replicate_zero, Nat.ofDigitChars_eq_foldl] at h
    simpa only [Nat.mul_comm] using h
  have hmark : ("." ++ padded width n).toList ++ 'Z' :: rest =
      '.' :: ((padded width n).toList ++ 'Z' :: rest) := by
    rw [String.toList_append]
    rfl
  rw [hmark, readFraction, span_padded width n rfl]
  simp only [hne, hlength, htake, hvalue, Bool.false_eq_true, if_false]

theorem readFraction_render {nanos : Nat} (hnanos : nanos < nanosPerSecond) (rest : List Char) :
    readFraction ((renderFraction nanos).toList ++ 'Z' :: rest) = some (nanos, 'Z' :: rest) := by
  unfold nanosPerSecond at hnanos
  unfold renderFraction
  split
  case isTrue hzero =>
    rw [hzero]
    rfl
  case isFalse =>
  split
  case isTrue hmillis =>
    have hwhole : nanos / 1000000 * 10 ^ (9 - 3) = nanos := by omega
    rw [readFraction_padded (by decide) (by decide) (by omega), hwhole]
  case isFalse =>
  split
  case isTrue hmicros =>
    have hwhole : nanos / 1000 * 10 ^ (9 - 6) = nanos := by omega
    rw [readFraction_padded (by decide) (by decide) (by omega), hwhole]
  case isFalse =>
    rw [readFraction_padded (by decide) (by decide) (by omega), Nat.sub_self, Nat.pow_zero,
      Nat.mul_one]

/-! ## Whole texts -/

section

-- Steps of `parse?`: what is read from the start of a text goes on to the next step.
variable {β : Type} (rest : List Char)

theorem readDigits_bind {width n : Nat} (hwidth : 0 < width) (hn : n < 10 ^ width)
    (next : Nat × List Char → Option β) :
    (readDigits width 0 ((padded width n).toList ++ rest) >>= next) = next (n, rest) := by
  rw [readDigits_padded hwidth hn]
  rfl

theorem readMark_bind {ok : Char → Bool} {c : Char} (hc : ok c = true)
    (next : List Char → Option β) : (readMark ok (c :: rest) >>= next) = next rest := by
  rw [readMark, if_pos hc]
  rfl

theorem readFraction_bind {nanos : Nat} (hnanos : nanos < nanosPerSecond)
    (next : Nat × List Char → Option β) :
    (readFraction ((renderFraction nanos).toList ++ 'Z' :: rest) >>= next) =
      next (nanos, 'Z' :: rest) := by
  rw [readFraction_render hnanos]
  rfl

theorem readOffset_bind (next : Int × List Char → Option β) :
    (readOffset ('Z' :: rest) >>= next) = next (0, rest) := rfl

end

/-- The text of a date and the time in it. -/
def write (date : Date) (hour minute second nanos : Nat) : String :=
  renderYear date.year ++ "-" ++ padded 2 date.month ++ "-" ++ padded 2 date.day ++ "T" ++
    padded 2 hour ++ ":" ++ padded 2 minute ++ ":" ++ padded 2 second ++
    renderFraction nanos ++ "Z"

theorem toList_write (date : Date) (hour minute second nanos : Nat) :
    (write date hour minute second nanos).toList =
      (renderYear date.year).toList ++ '-' :: ((padded 2 date.month).toList ++
        '-' :: ((padded 2 date.day).toList ++ 'T' :: ((padded 2 hour).toList ++
          ':' :: ((padded 2 minute).toList ++ ':' :: ((padded 2 second).toList ++
            ((renderFraction nanos).toList ++ 'Z' :: [])))))) := by
  simp [write]

/-- Second 60 is read as the leap second that follows second 59. -/
theorem parse?_write {date : Date} {hour minute second nanos : Nat}
    (hyear : 0 ≤ date.year ∧ date.year ≤ 9999) (hdate : date.Exists) (hhour : hour ≤ 23)
    (hminute : minute ≤ 59) (hsecond : second ≤ 60) (hnanos : nanos < nanosPerSecond) :
    parse? (write date hour minute second nanos) =
      some ⟨date.toDays * secondsPerDay + ((hour * 60 + minute) * 60 + min second 59 : Nat),
        if second = 60 then nanos + nanosPerSecond else nanos⟩ := by
  have hmonth := hdate.month_le
  have hday := hdate.day_le
  have hread : (⟨(date.year.toNat : Int), date.month, date.day⟩ : Date) = date := by
    rw [Int.toNat_of_nonneg hyear.1]
  unfold parse?
  rw [toList_write, renderYear, if_pos hyear, readDigits_bind _ (by decide) (by omega)]
  dsimp only
  rw [readMark_bind _ rfl, readDigits_bind _ (by decide) (by omega)]
  dsimp only
  rw [readMark_bind _ rfl, readDigits_bind _ (by decide) (by omega)]
  dsimp only
  rw [readMark_bind _ rfl, readDigits_bind _ (by decide) (by omega)]
  dsimp only
  rw [readMark_bind _ rfl, readDigits_bind _ (by decide) (by omega)]
  dsimp only
  rw [readMark_bind _ rfl, readDigits_bind _ (by decide) (by omega)]
  dsimp only
  rw [readFraction_bind _ hnanos]
  dsimp only
  rw [readOffset_bind]
  dsimp only
  rw [hread]
  rw [if_pos ⟨rfl, hdate, hhour, hminute, hsecond⟩, Int.sub_zero]
  rfl

/-! ## Instants -/

/-- The year of an instant. -/
def year (t : Instant) : Int :=
  (Date.ofDays (t.seconds / secondsPerDay)).year

/-- Whether an instant has a text that can be read: its year has four digits, and no more than a
leap second goes beyond its second. -/
def IsWritable (t : Instant) : Prop :=
  0 ≤ t.year ∧ t.year ≤ 9999 ∧ t.nanos < 2 * nanosPerSecond

instance (t : Instant) : Decidable t.IsWritable :=
  inferInstanceAs (Decidable (_ ∧ _ ∧ _))

theorem render_eq_write (t : Instant) :
    t.render =
      let time := (t.seconds % secondsPerDay).toNat
      let isLeap := nanosPerSecond ≤ t.nanos
      write (Date.ofDays (t.seconds / secondsPerDay)) (time / 3600) (time / 60 % 60)
        (time % 60 + if isLeap then 1 else 0)
        (if isLeap then t.nanos - nanosPerSecond else t.nanos) := rfl

/-- The instant that a text shows. A leap second behind a second that is not the last of its minute
looks like the second after it. -/
def shown (t : Instant) : Instant :=
  if nanosPerSecond ≤ t.nanos ∧ t.seconds % 60 ≠ 59 then
    ⟨t.seconds + 1, t.nanos - nanosPerSecond⟩
  else t

theorem render_shown {t : Instant} (hnanos : t.nanos < 2 * nanosPerSecond) :
    t.shown.render = t.render := by
  unfold shown
  split
  case isFalse => rfl
  case isTrue h =>
    obtain ⟨hleap, hsecond⟩ := h
    have hplain : ¬nanosPerSecond ≤ t.nanos - nanosPerSecond := by omega
    have hday : (t.seconds + 1) / secondsPerDay = t.seconds / secondsPerDay := by
      unfold secondsPerDay
      omega
    have htime : ((t.seconds + 1) % secondsPerDay).toNat =
        (t.seconds % secondsPerDay).toNat + 1 := by
      unfold secondsPerDay
      omega
    have hminute : (t.seconds % secondsPerDay).toNat % 60 ≠ 59 := by
      unfold secondsPerDay
      omega
    rw [render_eq_write, render_eq_write]
    simp only [hday, htime, if_pos hleap, if_neg hplain]
    congr 1 <;> omega

/-- An instant is its day, its hour, its minute and its second. -/
theorem seconds_eq (t : Instant) :
    let time := (t.seconds % secondsPerDay).toNat
    t.seconds / secondsPerDay * secondsPerDay +
      ((time / 3600 * 60 + time / 60 % 60) * 60 + time % 60 : Nat) = t.seconds := by
  unfold secondsPerDay
  dsimp only
  omega

/-- Reading what writing gives. -/
theorem parse?_render {t : Instant} (h : t.IsWritable) : parse? t.render = some t.shown := by
  obtain ⟨hlow, hhigh, hnanos⟩ := h
  have hdate := Date.ofDays_exists (t.seconds / secondsPerDay)
  have hseconds := t.seconds_eq
  have hhour : (t.seconds % secondsPerDay).toNat / 3600 ≤ 23 := by
    unfold secondsPerDay
    omega
  have hsecond : ((t.seconds % secondsPerDay).toNat % 60 : Nat) = t.seconds % 60 := by
    unfold secondsPerDay
    omega
  rw [render_eq_write]
  generalize (t.seconds % secondsPerDay).toNat = time at hseconds hhour hsecond ⊢
  dsimp only at hseconds ⊢
  rw [parse?_write ⟨hlow, hhigh⟩ hdate hhour (by omega) (by split <;> omega) (by split <;> omega),
    Date.toDays_ofDays]
  unfold shown
  by_cases hleap : nanosPerSecond ≤ t.nanos
  · rw [if_pos hleap, if_pos hleap]
    by_cases hlast : t.seconds % 60 = 59
    · rw [if_pos (by omega), if_neg fun h => h.2 hlast, Nat.sub_add_cancel hleap]
      have hlate : min (time % 60 + 1) 59 = time % 60 := by omega
      rw [hlate, hseconds]
    · rw [if_neg (by omega), if_pos ⟨hleap, hlast⟩, Option.some.injEq, Instant.mk.injEq]
      exact ⟨by omega, rfl⟩
  · rw [if_neg hleap, if_neg hleap, if_neg (by omega), if_neg fun h => hleap h.1]
    have hplain : min (time % 60 + 0) 59 = time % 60 := by omega
    rw [hplain, hseconds]

end DocQuery.Instant
