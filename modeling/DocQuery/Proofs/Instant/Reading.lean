import DocQuery.Proofs.Instant.Rfc3339
import Mathlib.Data.List.TakeWhile

/-
  Instants that are read.
  A text names an instant within a second, or within the leap second behind the last second of a
  minute (`isValid_of_parse?`, `isCivil_of_parse?`): offsets are whole minutes, so they move no leap
  second away from there. Such an instant is the one its own text shows.
-/

namespace DocQuery.Instant

/-- Whether an instant goes no farther beyond its second than a leap second. -/
def IsValid (t : Instant) : Prop :=
  t.nanos < 2 * nanosPerSecond

/-- Whether an instant in a leap second stands at the end of a minute. -/
def IsCivil (t : Instant) : Prop :=
  nanosPerSecond ≤ t.nanos → t.seconds % 60 = 59

theorem shown_of_isCivil {t : Instant} (h : t.IsCivil) : t.shown = t := by
  unfold shown
  rw [if_neg]
  exact fun hleap => hleap.2 (h hleap.1)

/-! ## Counts of seconds -/

theorem nanos_of_ofSeconds? {seconds : Int} {t : Instant} (h : ofSeconds? seconds = some t) :
    t.nanos = 0 := by
  unfold ofSeconds? at h
  split at h
  · cases h
    rfl
  · cases h

theorem isValid_of_ofSeconds? {seconds : Int} {t : Instant} (h : ofSeconds? seconds = some t) :
    t.IsValid := by
  rw [IsValid, nanos_of_ofSeconds? h]
  decide

theorem isCivil_of_ofSeconds? {seconds : Int} {t : Instant} (h : ofSeconds? seconds = some t) :
    t.IsCivil := by
  rw [IsCivil, nanos_of_ofSeconds? h]
  exact fun hleap => absurd hleap (by decide)

/-! ## Fractions and offsets -/

theorem foldl_digits_lt {cs : List Char} (h : ∀ c ∈ cs, c.isDigit = true) (acc : Nat) :
    cs.foldl (fun acc c => acc * 10 + (c.toNat - '0'.toNat)) acc < (acc + 1) * 10 ^ cs.length := by
  induction cs generalizing acc with
  | nil => simp
  | cons c cs ih =>
    have hdigit : c.toNat ≤ 57 := (Char.isDigit_iff_toNat.1 (h c List.mem_cons_self)).2
    have hzero : '0'.toNat = 48 := rfl
    have hstep :=
      ih (fun d hd => h d (List.mem_cons_of_mem c hd)) (acc * 10 + (c.toNat - '0'.toNat))
    rw [List.foldl_cons, List.length_cons, Nat.pow_succ]
    refine Nat.lt_of_lt_of_le hstep ?_
    rw [Nat.mul_comm (10 ^ cs.length), ← Nat.mul_assoc]
    exact Nat.mul_le_mul_right _ (by omega)

theorem readFraction_lt {cs rest : List Char} {nanos : Nat}
    (h : readFraction cs = some (nanos, rest)) : nanos < nanosPerSecond := by
  unfold readFraction at h
  split at h
  · next behind =>
    dsimp only at h
    split at h
    · cases h
    · cases h
      have hspan : ∀ c ∈ (behind.span Char.isDigit).1, c.isDigit = true := by
        rw [List.span_eq_takeWhile_dropWhile]
        exact fun c hc => List.mem_takeWhile_imp hc
      generalize (behind.span Char.isDigit).1 = digits at hspan
      have hdigits : ∀ c ∈ digits.take 9 ++ List.replicate (9 - digits.length) '0',
          c.isDigit = true := by
        refine List.forall_mem_append.2 ⟨fun c hc => hspan c (List.mem_of_mem_take hc), ?_⟩
        intro c hc
        rw [List.eq_of_mem_replicate hc]
        rfl
      have hlength : (digits.take 9 ++ List.replicate (9 - digits.length) '0').length = 9 := by
        rw [List.length_append, List.length_take, List.length_replicate]
        omega
      have hlt := foldl_digits_lt hdigits 0
      rwa [hlength] at hlt
  · cases h
    decide

theorem readOffset_emod {cs rest : List Char} {seconds : Int}
    (h : readOffset cs = some (seconds, rest)) : seconds % 60 = 0 := by
  unfold readOffset at h
  split at h
  · cases h
  · split at h
    · cases h
      rfl
    · split at h
      · obtain ⟨⟨hours, _⟩, -, h⟩ := Option.bind_eq_some_iff.1 h
        obtain ⟨_, -, h⟩ := Option.bind_eq_some_iff.1 h
        obtain ⟨⟨minutes, _⟩, -, h⟩ := Option.bind_eq_some_iff.1 h
        dsimp only at h
        split at h
        · cases h
          split <;> omega
        · cases h
      · cases h

/-! ## Whole texts -/

/-- What is read has a fraction within a second, and a leap second only behind second 59. -/
theorem exists_of_parse? {text : String} {t : Instant} (h : parse? text = some t) :
    ∃ second nanos : Nat, nanos < nanosPerSecond ∧ t.seconds % 60 = min second 59 ∧
      t.nanos = if second = 60 then nanos + nanosPerSecond else nanos := by
  unfold parse? at h
  obtain ⟨⟨year, _⟩, -, h⟩ := Option.bind_eq_some_iff.1 h
  obtain ⟨_, -, h⟩ := Option.bind_eq_some_iff.1 h
  obtain ⟨⟨month, _⟩, -, h⟩ := Option.bind_eq_some_iff.1 h
  obtain ⟨_, -, h⟩ := Option.bind_eq_some_iff.1 h
  obtain ⟨⟨day, _⟩, -, h⟩ := Option.bind_eq_some_iff.1 h
  obtain ⟨_, -, h⟩ := Option.bind_eq_some_iff.1 h
  obtain ⟨⟨hour, _⟩, -, h⟩ := Option.bind_eq_some_iff.1 h
  obtain ⟨_, -, h⟩ := Option.bind_eq_some_iff.1 h
  obtain ⟨⟨minute, _⟩, -, h⟩ := Option.bind_eq_some_iff.1 h
  obtain ⟨_, -, h⟩ := Option.bind_eq_some_iff.1 h
  obtain ⟨⟨second, _⟩, -, h⟩ := Option.bind_eq_some_iff.1 h
  obtain ⟨⟨nanos, _⟩, hnanos, h⟩ := Option.bind_eq_some_iff.1 h
  obtain ⟨⟨offset, _⟩, hoffset, h⟩ := Option.bind_eq_some_iff.1 h
  have hfraction := readFraction_lt hnanos
  have hminutes := readOffset_emod hoffset
  dsimp only at h
  split at h
  · cases h
    refine ⟨second, nanos, hfraction, ?_, rfl⟩
    unfold secondsPerDay
    dsimp only
    omega
  · cases h

theorem isValid_of_parse? {text : String} {t : Instant} (h : parse? text = some t) :
    t.IsValid := by
  obtain ⟨second, nanos, hnanos, -, ht⟩ := exists_of_parse? h
  unfold IsValid
  rw [ht]
  split <;> omega

theorem isCivil_of_parse? {text : String} {t : Instant} (h : parse? text = some t) :
    t.IsCivil := by
  obtain ⟨second, nanos, hnanos, hseconds, ht⟩ := exists_of_parse? h
  intro hleap
  rw [ht] at hleap
  have hsecond : second = 60 := by
    by_contra hne
    rw [if_neg hne] at hleap
    omega
  rw [hseconds, hsecond]
  rfl

end DocQuery.Instant
