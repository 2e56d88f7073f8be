import DocQuery.Proofs.Instant.Years

/-
  Texts tell instants apart.
  Two instants have one text only if the text shows the same instant for both, whatever their years
  are (`render_eq_iff`). The texts are taken apart from the left: sign and digits of the year end at
  the first hyphen, and the other parts have fixed lengths up to the fraction.
-/

namespace DocQuery.Instant

/-! ## Parts of a text -/

section

variable {rest rest' : List Char}

theorem padded_append_inj {width m n : Nat} (hwidth : 0 < width) (hm : m < 10 ^ width)
    (hn : n < 10 ^ width)
    (h : (padded width m).toList ++ rest = (padded width n).toList ++ rest') :
    m = n ∧ rest = rest' := by
  have hread := congrArg (readDigits width 0) h
  rw [readDigits_padded hwidth hm, readDigits_padded hwidth hn, Option.some.injEq,
    Prod.mk.injEq] at hread
  exact hread

theorem digits_append_inj {width m n : Nat}
    (h : (padded width m).toList ++ '-' :: rest = (padded width n).toList ++ '-' :: rest') :
    m = n ∧ rest = rest' := by
  have hspan := congrArg (List.span Char.isDigit) h
  rw [span_padded width m rfl, span_padded width n rfl, Prod.mk.injEq, List.cons.injEq] at hspan
  have hvalue := congrArg (Nat.ofDigitChars 10 · 0) hspan.1
  simp only [ofDigitChars_padded] at hvalue
  exact ⟨hvalue, hspan.2.2⟩

theorem renderFraction_inj {m n : Nat} (hm : m < nanosPerSecond) (hn : n < nanosPerSecond)
    (h : (renderFraction m).toList ++ 'Z' :: rest = (renderFraction n).toList ++ 'Z' :: rest') :
    m = n := by
  have hread := congrArg readFraction h
  rw [readFraction_render hm, readFraction_render hn, Option.some.injEq, Prod.mk.injEq] at hread
  exact hread.1

end

/-! ## Years -/

theorem era_eq_of_render_eq {s t : Instant} (h : s.render = t.render) : s.era = t.era := by
  by_contra hne
  have hcompare := compare_render_of_era_ne hne
  rw [h, Std.compare_self, eq_comm, compare_eq_iff_eq, Era.textRank_inj] at hcompare
  exact hne hcompare

theorem year_eq_of_natAbs {s t : Instant} (hera : s.era = t.era)
    (h : s.year.natAbs = t.year.natAbs) : s.year = t.year := by
  unfold era at hera
  grind

/-! ## Whole texts -/

theorem isValid_shown {t : Instant} (h : t.IsValid) : t.shown.IsValid := by
  unfold IsValid at h ⊢
  unfold shown
  split
  · exact Nat.lt_of_le_of_lt (Nat.sub_le _ _) h
  · exact h

theorem isCivil_shown {t : Instant} (h : t.IsValid) : t.shown.IsCivil := by
  unfold IsValid at h
  unfold shown IsCivil
  split
  · dsimp only
    omega
  · next hshown =>
    intro hleap
    exact Decidable.not_not.1 fun hsecond => hshown ⟨hleap, hsecond⟩

theorem date_eq_of_parts {d e : Date} (hyear : d.year = e.year) (hmonth : d.month = e.month)
    (hday : d.day = e.day) : d = e := by
  cases d
  cases e
  rw [Date.mk.injEq]
  exact ⟨hyear, hmonth, hday⟩

theorem time_lt (t : Instant) : (t.seconds % secondsPerDay).toNat < 86400 := by
  unfold secondsPerDay
  omega

/-- Instants with one text are of one day, and their texts have the same hour, minute, second and
fraction. -/
theorem parts_of_render_eq {s t : Instant} (hs : s.IsValid) (ht : t.IsValid)
    (h : s.render = t.render) :
    let time (u : Instant) := (u.seconds % secondsPerDay).toNat
    s.seconds / secondsPerDay = t.seconds / secondsPerDay ∧
      time s / 3600 = time t / 3600 ∧ time s / 60 % 60 = time t / 60 % 60 ∧
      (time s % 60 + if nanosPerSecond ≤ s.nanos then 1 else 0) =
        (time t % 60 + if nanosPerSecond ≤ t.nanos then 1 else 0) ∧
      (if nanosPerSecond ≤ s.nanos then s.nanos - nanosPerSecond else s.nanos) =
        if nanosPerSecond ≤ t.nanos then t.nanos - nanosPerSecond else t.nanos := by
  intro time
  have hera := era_eq_of_render_eq h
  have hdates := Date.ofDays_exists (s.seconds / secondsPerDay)
  have hdatet := Date.ofDays_exists (t.seconds / secondsPerDay)
  have hmonths := hdates.month_le
  have hmontht := hdatet.month_le
  have hdays := hdates.day_le
  have hdayt := hdatet.day_le
  have htimes := s.time_lt
  have htimet := t.time_lt
  have hlist := congrArg String.toList h
  rw [render_eq_write, render_eq_write] at hlist
  dsimp only at hlist
  rw [toList_write, toList_write] at hlist
  change (renderYear s.year).toList ++ _ = (renderYear t.year).toList ++ _ at hlist
  rw [toList_renderYear, toList_renderYear, hera, List.append_assoc, List.append_assoc,
    List.append_cancel_left_eq] at hlist
  -- Only the year has no fixed length; it ends at its hyphen.
  obtain ⟨hyear, hlist⟩ := digits_append_inj hlist
  obtain ⟨hmonth, hlist⟩ := padded_append_inj (by decide) (by omega) (by omega) hlist
  rw [List.cons.injEq] at hlist
  obtain ⟨hday, hlist⟩ := padded_append_inj (by decide) (by omega) (by omega) hlist.2
  rw [List.cons.injEq] at hlist
  obtain ⟨hhour, hlist⟩ := padded_append_inj (by decide) (by omega) (by omega) hlist.2
  rw [List.cons.injEq] at hlist
  obtain ⟨hminute, hlist⟩ := padded_append_inj (by decide) (by omega) (by omega) hlist.2
  rw [List.cons.injEq] at hlist
  obtain ⟨hsecond, hlist⟩ :=
    padded_append_inj (by decide) (by split <;> omega) (by split <;> omega) hlist.2
  unfold IsValid at hs ht
  have hnanos := renderFraction_inj (by split <;> omega) (by split <;> omega) hlist
  have hdate : Date.ofDays (s.seconds / secondsPerDay) = Date.ofDays (t.seconds / secondsPerDay) :=
    date_eq_of_parts (year_eq_of_natAbs hera hyear) hmonth hday
  have hdays' := congrArg Date.toDays hdate
  rw [Date.toDays_ofDays, Date.toDays_ofDays] at hdays'
  exact ⟨hdays', hhour, hminute, hsecond, hnanos⟩

/-- A text gives back the instant that it shows. -/
theorem eq_of_render_eq {s t : Instant} (hs : s.IsValid) (ht : t.IsValid) (hs' : s.IsCivil)
    (ht' : t.IsCivil) (h : s.render = t.render) : s = t := by
  obtain ⟨hday, hhour, hminute, hsecond, hnanos⟩ := parts_of_render_eq hs ht h
  have hsame : s.seconds = t.seconds ∧ s.nanos = t.nanos := by
    unfold secondsPerDay at hday hhour hminute hsecond
    dsimp only at hhour hminute hsecond
    by_cases hleaps : nanosPerSecond ≤ s.nanos
    · have hlasts := hs' hleaps
      rw [if_pos hleaps] at hsecond hnanos
      split at hsecond
      · next hleapt =>
        rw [if_pos hleapt] at hnanos
        omega
      · omega
    · rw [if_neg hleaps] at hsecond hnanos
      split at hsecond
      · next hleapt =>
        have hlastt := ht' hleapt
        omega
      · next hleapt =>
        rw [if_neg hleapt] at hnanos
        omega
  cases s
  cases t
  rw [Instant.mk.injEq]
  exact hsame

theorem render_eq_iff {s t : Instant} (hs : s.IsValid) (ht : t.IsValid) :
    s.render = t.render ↔ s.shown = t.shown := by
  constructor
  · intro h
    rw [← render_shown hs, ← render_shown ht] at h
    exact eq_of_render_eq (isValid_shown hs) (isValid_shown ht) (isCivil_shown hs)
      (isCivil_shown ht) h
  · intro h
    rw [← render_shown hs, h, render_shown ht]

/-- The texts of two instants tie exactly if they show one instant. -/
theorem compareTexts_eq_iff_shown {s t : Instant} (hs : s.IsValid) (ht : t.IsValid) :
    Document.compareTexts s.render t.render = .eq ↔ s.shown = t.shown := by
  rw [Document.compareTexts_render_eq_iff ht, ← render_eq_iff hs ht]
  refine ⟨Or.rec id fun h => ?_, Or.inl⟩
  exact render_eq_of_parse?_render hs ht h.2

end DocQuery.Instant
