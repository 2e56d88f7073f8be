import DocQuery.Proofs.Document.Comparing
import DocQuery.Proofs.Instant.Reading
import Mathlib.Data.String.Basic

/-
  Years with more than four digits and years before year 0.
  Only the texts of the years 0 to 9999 can be read, so only these are compared as instants
  (`compareTexts_render`). The other texts have a sign in front, a plus sorts before a minus and
  both before a digit, while instants are in the order of their years
  (`compare_render_eq_order_iff`). `compareTexts_render_eq_iff` says which texts tie with the text
  of an instant.
-/

namespace DocQuery

namespace Date

/-! ## Years in order -/

theorem daysBeforeYear_mono {y z : Int} (h : y ≤ z) : daysBeforeYear y ≤ daysBeforeYear z := by
  unfold daysBeforeYear
  omega

theorem yearOfDay_mono {m n : Int} (h : m ≤ n) : yearOfDay m ≤ yearOfDay n := by
  refine Int.not_lt.1 fun hlt => ?_
  have hnext := daysBeforeYear_mono (Int.add_one_le_of_lt hlt)
  have hm := (yearOfDay_le_and_lt m).1
  have hn := (yearOfDay_le_and_lt n).2
  omega

theorem year_ofDays (n : Int) : (ofDays n).year = yearOfDay (n + epochDay) := by
  obtain ⟨_, _, hdate, -, -⟩ := ofDays_eq n
  rw [hdate]

end Date

namespace Instant

theorem year_mono {s t : Instant} (h : s.seconds ≤ t.seconds) : s.year ≤ t.year := by
  have hdays := Int.ediv_le_ediv (by decide : 0 < secondsPerDay) h
  rw [year, year, Date.year_ofDays, Date.year_ofDays]
  exact Date.yearOfDay_mono (Int.add_le_add_right hdays _)

/-- The times that differ in how a year is written. -/
inductive Era where
  /-- Before year 0. -/
  | before
  /-- The years 0 to 9999. -/
  | common
  /-- After year 9999. -/
  | after
deriving DecidableEq

/-- The era of an instant. -/
def era (t : Instant) : Era :=
  if t.year < 0 then .before else if t.year ≤ 9999 then .common else .after

namespace Era

/-- The place of an era in time. -/
def rank : Era → Nat
  | before => 0
  | common => 1
  | after => 2

/-- The place of an era among texts. -/
def textRank : Era → Nat
  | after => 0
  | before => 1
  | common => 2

/-- What stands before the digits of a year. -/
def sign : Era → List Char
  | before => ['-']
  | common => []
  | after => ['+']

/-- What the text of an instant of an era starts with. -/
def Starts : Era → Char → Prop
  | before, c => c = '-'
  | common, c => c.isDigit = true
  | after, c => c = '+'

theorem rank_inj {e f : Era} : e.rank = f.rank ↔ e = f := by
  cases e <;> cases f <;> decide

theorem textRank_inj {e f : Era} : e.textRank = f.textRank ↔ e = f := by
  cases e <;> cases f <;> decide

theorem isDigit_eq_false_of_starts {e : Era} {c : Char} (h : e.Starts c) (he : e ≠ common) :
    c.isDigit = false := by
  cases e with
  | before => subst h; rfl
  | common => exact absurd rfl he
  | after => subst h; rfl

theorem lt_of_starts {e f : Era} {c d : Char} (hc : e.Starts c) (hd : f.Starts d)
    (h : e.textRank < f.textRank) : c < d := by
  have hdigit {x : Char} (hx : x.isDigit = true) : '-' < x := by
    rw [Char.isDigit, Bool.and_eq_true, decide_eq_true_eq] at hx
    exact UInt32.lt_of_lt_of_le (by decide) hx.1
  cases e with
  | common => cases f <;> exact absurd h (by decide)
  | before =>
    cases f with
    | common => subst hc; exact hdigit hd
    | _ => exact absurd h (by decide)
  | after =>
    cases f with
    | after => exact absurd h (by decide)
    | before => subst hc hd; decide
    | common =>
      subst hc
      have hminus : '+' < '-' := by decide
      exact UInt32.lt_trans hminus (hdigit hd)

end Era

theorem isWritable_iff {t : Instant} :
    t.IsWritable ↔ t.era = .common ∧ t.IsValid := by
  unfold IsWritable IsValid era
  split
  · simp; omega
  · split
    · simp; omega
    · simp; omega

/-! ## Order -/

theorem order_eq_iff {s t : Instant} : s.order t = .eq ↔ s = t := by
  rw [order, Ordering.then_eq_eq, Std.compare_eq_iff_eq, Std.compare_eq_iff_eq]
  cases s
  cases t
  simp

theorem order_of_year_lt {s t : Instant} (h : s.year < t.year) :
    s.order t = .lt ∧ t.order s = .gt := by
  have hseconds : s.seconds < t.seconds :=
    Int.not_le.1 fun hle => Int.not_le.2 h (year_mono hle)
  rw [order, order, Std.compare_eq_lt.2 hseconds, Std.compare_eq_gt.2 hseconds]
  exact ⟨rfl, rfl⟩

theorem year_lt_of_rank_lt {s t : Instant} (h : s.era.rank < t.era.rank) : s.year < t.year := by
  unfold era at h
  grind [Era.rank]

/-- Instants of different eras are in the order of the eras. -/
theorem order_of_era_ne {s t : Instant} (h : s.era ≠ t.era) :
    s.order t = compare s.era.rank t.era.rank := by
  have hrank : s.era.rank ≠ t.era.rank := fun heq => h (Era.rank_inj.1 heq)
  rcases Nat.lt_or_gt_of_ne hrank with hlt | hgt
  · rw [(order_of_year_lt (year_lt_of_rank_lt hlt)).1, Std.compare_eq_lt.2 hlt]
  · rw [(order_of_year_lt (year_lt_of_rank_lt hgt)).2, Std.compare_eq_gt.2 hgt]

/-! ## Texts -/

theorem toList_renderYear (t : Instant) :
    (renderYear t.year).toList = t.era.sign ++ (padded 4 t.year.natAbs).toList := by
  have hminus : "-".toList = ['-'] := rfl
  have hplus : "+".toList = ['+'] := rfl
  unfold renderYear era
  by_cases hbefore : t.year < 0
  · rw [if_neg (by omega), if_pos hbefore, if_pos hbefore, String.toList_append, hminus, Era.sign]
  · by_cases hcommon : t.year ≤ 9999
    · have habs : t.year.toNat = t.year.natAbs := by omega
      rw [if_pos ⟨by omega, hcommon⟩, if_neg hbefore, if_pos hcommon, Era.sign, List.nil_append,
        habs]
    · rw [if_neg (by omega), if_neg hbefore, if_neg hbefore, if_neg hcommon, String.toList_append,
        hplus, Era.sign]

theorem padded_starts (width n : Nat) :
    ∃ c rest, (padded width n).toList = c :: rest ∧ c.isDigit = true := by
  have hne : (padded width n).toList ≠ [] := by
    rw [toList_padded]
    exact List.append_ne_nil_of_right_ne_nil _ Nat.toDigits_ne_nil
  obtain ⟨c, rest, htext⟩ := List.exists_cons_of_ne_nil hne
  refine ⟨c, rest, htext, @isDigit_of_mem_padded width n c ?_⟩
  rw [htext]
  exact List.mem_cons_self

theorem renderYear_starts (t : Instant) :
    ∃ c rest, (renderYear t.year).toList = c :: rest ∧ t.era.Starts c := by
  obtain ⟨c, rest, hdigits, hc⟩ := padded_starts 4 t.year.natAbs
  rw [toList_renderYear, hdigits]
  cases t.era with
  | before => exact ⟨'-', c :: rest, rfl, rfl⟩
  | common => exact ⟨c, rest, rfl, hc⟩
  | after => exact ⟨'+', c :: rest, rfl, rfl⟩

theorem render_starts (t : Instant) :
    ∃ c rest, t.render.toList = c :: rest ∧ t.era.Starts c := by
  have hyear : ∃ rest, t.render = renderYear t.year ++ rest := by
    rw [render_eq_write]
    simp only [write, String.append_assoc]
    exact ⟨_, rfl⟩
  obtain ⟨behind, hrender⟩ := hyear
  obtain ⟨c, rest, htext, hstarts⟩ := t.renderYear_starts
  refine ⟨c, rest ++ behind.toList, ?_, hstarts⟩
  rw [hrender, String.toList_append, htext, List.cons_append]

/-- Nothing that starts with a sign is read. -/
theorem parse?_eq_none {text : String} {c : Char} {rest : List Char} (h : text.toList = c :: rest)
    (hc : c.isDigit = false) : parse? text = none := by
  unfold parse?
  rw [h, readDigits, hc]
  rfl

theorem parse?_render_eq_none {t : Instant} (h : t.era ≠ .common) : parse? t.render = none := by
  obtain ⟨c, rest, htext, hstarts⟩ := t.render_starts
  exact parse?_eq_none htext (Era.isDigit_eq_false_of_starts hstarts h)

/-- A text that names what another one shows is the same one. -/
theorem render_eq_of_parse?_render {s t : Instant} (hs : s.IsValid) (ht : t.IsValid)
    (h : parse? s.render = some t.shown) : s.render = t.render := by
  have hcommon : s.era = .common := by
    by_contra hne
    rw [parse?_render_eq_none hne] at h
    cases h
  rw [parse?_render (isWritable_iff.2 ⟨hcommon, hs⟩), Option.some.injEq] at h
  rw [← render_shown hs, h, render_shown ht]

/-- The first characters decide the order of two texts if they differ. -/
theorem compare_of_toList {a b : String} {c d : Char} {cs ds : List Char}
    (ha : a.toList = c :: cs) (hb : b.toList = d :: ds) (h : c < d) :
    compare a b = .lt ∧ compare b a = .gt := by
  have hlt : a < b := by
    rw [String.lt_iff_toList_lt, ha, hb]
    exact List.cons_lt_cons_iff.2 (Or.inl h)
  exact ⟨compare_lt_iff_lt.2 hlt, compare_gt_iff_gt.2 hlt⟩

/-- The texts of instants of different eras are in the order of their signs. -/
theorem compare_render_of_era_ne {s t : Instant} (h : s.era ≠ t.era) :
    compare s.render t.render = compare s.era.textRank t.era.textRank := by
  obtain ⟨c, cs, hs, hc⟩ := s.render_starts
  obtain ⟨d, ds, ht, hd⟩ := t.render_starts
  have hrank : s.era.textRank ≠ t.era.textRank := fun heq => h (Era.textRank_inj.1 heq)
  rcases Nat.lt_or_gt_of_ne hrank with hlt | hgt
  · rw [(compare_of_toList hs ht (Era.lt_of_starts hc hd hlt)).1, Std.compare_eq_lt.2 hlt]
  · rw [(compare_of_toList ht hs (Era.lt_of_starts hd hc hgt)).2, Std.compare_eq_gt.2 hgt]

/-- The texts of instants of different eras are in the order of the instants unless one of these is
after year 9999. -/
theorem compare_render_eq_order_iff {s t : Instant} (h : s.era ≠ t.era) :
    compare s.render t.render = s.order t ↔ s.era ≠ .after ∧ t.era ≠ .after := by
  rw [compare_render_of_era_ne h, order_of_era_ne h]
  revert h
  generalize s.era = e
  generalize t.era = f
  cases e <;> cases f <;> decide

end Instant

/-! ## Comparing texts of instants -/

namespace Document

open Instant

/-- Texts of the years 0 to 9999 are compared as the instants they show. -/
theorem compareTexts_render {s t : Instant} (hs : s.IsWritable) (ht : t.IsWritable) :
    compareTexts s.render t.render = s.shown.order t.shown :=
  compareTexts_of_parse? (parse?_render hs) (parse?_render ht)

/-- As soon as one year is not among these, texts are compared by their characters. -/
theorem compareTexts_render_of_era_ne {s t : Instant} (h : s.era ≠ .common ∨ t.era ≠ .common) :
    compareTexts s.render t.render = compare s.render t.render :=
  compareTexts_of_parse?_eq_none (h.imp parse?_render_eq_none parse?_render_eq_none)

/-- The texts that tie with the text of an instant: this text itself, and if it can be read, all
that name what it shows. -/
theorem compareTexts_render_eq_iff {t : Instant} (ht : t.IsValid) (text : String) :
    compareTexts text t.render = .eq ↔
      text = t.render ∨ t.era = .common ∧ parse? text = some t.shown := by
  by_cases hcommon : t.era = .common
  · have hread := parse?_render (isWritable_iff.2 ⟨hcommon, ht⟩)
    cases htext : parse? text with
    | none => simp [compareTexts_of_parse?_eq_none (Or.inl htext)]
    | some u =>
      rw [compareTexts, htext, hread, order_eq_iff, and_iff_right hcommon, Option.some.injEq]
      refine ⟨Or.inr, Or.rec (fun heq => ?_) id⟩
      rw [← heq, htext, Option.some.injEq] at hread
      exact hread
  · have hnone : compareTexts text t.render = compare text t.render :=
      compareTexts_of_parse?_eq_none (Or.inr (parse?_render_eq_none hcommon))
    simp [hnone, hcommon]

end Document

end DocQuery
