import DocQuery.Proofs.QueryString.Patterns

/-
  Patterns as runs of characters with stars between them.
  Every pattern is written in one way as a run of characters and further runs, each behind a star
  (`ofRuns_bijective`). The matcher tries every split of the text at every star. It succeeds exactly
  if the runs have spots in the text, one behind the other, of which the first starts where the text
  starts and the last stops where it stops (`matchesParts_iff_placed`).
-/

namespace DocQuery.QueryString

/-! ## The runs of a pattern -/

/-- A run of characters, and behind it some further runs with a star before each. -/
def ofRuns (first : List Char) (later : List (List Char)) : List Part :=
  first.map .literal ++ later.flatMap fun run => .any :: run.map .literal

theorem ofRuns_nil (first : List Char) : ofRuns first [] = first.map .literal :=
  List.append_nil _

theorem ofRuns_cons (first second : List Char) (later : List (List Char)) :
    ofRuns first (second :: later) = first.map .literal ++ .any :: ofRuns second later :=
  rfl

/-- The run before the first star of a pattern, and the runs behind the stars. -/
def runs : List Part → List Char × List (List Char)
  | [] => ([], [])
  | .literal c :: parts => (c :: (runs parts).1, (runs parts).2)
  | .any :: parts => ([], (runs parts).1 :: (runs parts).2)

theorem ofRuns_runs (parts : List Part) : ofRuns (runs parts).1 (runs parts).2 = parts := by
  induction parts with
  | nil => rfl
  | cons part parts ih =>
    cases part with
    | literal c => exact congrArg (Part.literal c :: ·) ih
    | any => exact congrArg (Part.any :: ·) ih

theorem runs_literals (cs : List Char) (parts : List Part) :
    runs (cs.map .literal ++ parts) = (cs ++ (runs parts).1, (runs parts).2) := by
  induction cs with
  | nil => rfl
  | cons c cs ih => rw [List.map_cons, List.cons_append, runs, ih, List.cons_append]

theorem runs_ofRuns (first : List Char) (later : List (List Char)) :
    runs (ofRuns first later) = (first, later) := by
  induction later generalizing first with
  | nil => rw [ofRuns, runs_literals, List.flatMap_nil, runs, List.append_nil]
  | cons second later ih => rw [ofRuns_cons, runs_literals, runs, ih, List.append_nil]

theorem ofRuns_bijective : Function.Bijective
    fun rs : List Char × List (List Char) => ofRuns rs.1 rs.2 :=
  Function.bijective_iff_has_inverse.2
    ⟨runs, fun rs => runs_ofRuns rs.1 rs.2, ofRuns_runs⟩

/-! ## Spots of runs in a text -/

/-- A run of characters with the number of characters before it. -/
structure Spot where
  start : Nat
  run : List Char

namespace Spot

/-- The number of characters up to the end of the run. -/
def stop (s : Spot) : Nat :=
  s.start + s.run.length

/-- Whether the run stands at its spot in a text. -/
def StandsIn (s : Spot) (text : List Char) : Prop :=
  s.start ≤ text.length ∧ s.run <+: text.drop s.start

theorem standsIn_iff {s : Spot} {text : List Char} : s.StandsIn text ↔
    s.start ≤ text.length ∧ text.drop s.start = s.run ++ text.drop s.stop := by
  rw [StandsIn, List.prefix_iff_eq_append, List.drop_drop, stop, eq_comm]

theorem StandsIn.stop_le {s : Spot} {text : List Char} (h : s.StandsIn text) :
    s.stop ≤ text.length := by
  have hlength := h.2.length_le
  rw [List.length_drop] at hlength
  have hstart := h.1
  unfold stop
  omega

end Spot

/-- Whether spots lie in a text one behind the other, from a place on and up to its end. -/
structure Spans (text : List Char) (start : Nat) (spots : List Spot) : Prop where
  stand : ∀ s ∈ spots, s.StandsIn text
  apart : spots.Pairwise fun s t => s.stop ≤ t.start
  opens : spots.head?.map Spot.start = some start
  closes : spots.getLast?.map Spot.stop = some text.length

variable {text : List Char} {start : Nat}

theorem spans_singleton {s : Spot} : Spans text start [s] ↔
    s.StandsIn text ∧ s.start = start ∧ s.stop = text.length := by
  constructor
  · rintro ⟨hstand, -, hopens, hcloses⟩
    exact ⟨hstand s (List.mem_singleton_self s), Option.some.inj hopens, Option.some.inj hcloses⟩
  · rintro ⟨hstand, rfl, hstop⟩
    exact ⟨by simpa using hstand, List.pairwise_singleton _ s, rfl, congrArg some hstop⟩

theorem spans_cons {s t : Spot} {spots : List Spot} : Spans text start (s :: t :: spots) ↔
    s.StandsIn text ∧ s.start = start ∧ s.stop ≤ t.start ∧ Spans text t.start (t :: spots) := by
  constructor
  · rintro ⟨hstand, hapart, hopens, hcloses⟩
    obtain ⟨hs, hrest⟩ := List.forall_mem_cons.1 hstand
    obtain ⟨hbehind, hapart⟩ := List.pairwise_cons.1 hapart
    rw [List.getLast?_cons_cons] at hcloses
    exact ⟨hs, Option.some.inj hopens, hbehind t List.mem_cons_self, hrest, hapart, rfl, hcloses⟩
  · rintro ⟨hs, rfl, hle, hstand, hapart, -, hcloses⟩
    refine ⟨List.forall_mem_cons.2 ⟨hs, hstand⟩, List.pairwise_cons.2 ⟨?_, hapart⟩, rfl, ?_⟩
    · -- Behind `t` every spot starts where `t` stops or later.
      refine List.forall_mem_cons.2 ⟨hle, fun u hu => ?_⟩
      have htu : t.stop ≤ u.start := (List.pairwise_cons.1 hapart).1 u hu
      exact hle.trans ((Nat.le_add_right t.start _).trans htu)
    · rw [List.getLast?_cons_cons]
      exact hcloses

/-! ## Matching from a place of the text on -/

/-- What a text ends with behind a place is what it ends with from some later place on. -/
theorem suffix_drop_iff (hstart : start ≤ text.length) {rest : List Char} :
    rest <:+ text.drop start ↔
      ∃ next, start ≤ next ∧ next ≤ text.length ∧ rest = text.drop next := by
  constructor
  · intro h
    have hlength := List.length_drop (i := start) (l := text)
    refine ⟨start + ((text.drop start).length - rest.length), by omega, by omega, ?_⟩
    rw [← List.drop_drop, ← List.suffix_iff_eq_drop]
    exact h
  · rintro ⟨next, hle, -, rfl⟩
    rw [← Nat.add_sub_cancel' hle, ← List.drop_drop]
    exact List.drop_suffix _ _

/-- The first run stands at the place, and the star behind it takes the text up to a place from
which the other runs match. -/
theorem matchesParts_ofRuns_cons (hstart : start ≤ text.length) (first second : List Char)
    (later : List (List Char)) :
    matchesParts (ofRuns first (second :: later)) (text.drop start) = true ↔
      (Spot.mk start first).StandsIn text ∧ ∃ next, (Spot.mk start first).stop ≤ next ∧
        next ≤ text.length ∧ matchesParts (ofRuns second later) (text.drop next) = true := by
  rw [ofRuns_cons, matchesParts_literals]
  simp only [matchesParts_any]
  constructor
  · rintro ⟨rest, hrest, tail, htail, hmatch⟩
    have hstop : text.drop (Spot.mk start first).stop = rest := by
      rw [Spot.stop, ← List.drop_drop, hrest, List.drop_left]
    have hstands : (Spot.mk start first).StandsIn text := ⟨hstart, hrest ▸ List.prefix_append _ _⟩
    rw [← hstop, suffix_drop_iff hstands.stop_le] at htail
    obtain ⟨next, hle, hnext, rfl⟩ := htail
    exact ⟨hstands, next, hle, hnext, hmatch⟩
  · rintro ⟨hstands, next, hle, hnext, hmatch⟩
    refine ⟨_, (Spot.standsIn_iff.1 hstands).2, text.drop next, ?_, hmatch⟩
    exact (suffix_drop_iff hstands.stop_le).2 ⟨next, hle, hnext, rfl⟩

/-- By induction on the runs behind the first one, with the place where the text is taken up left
open: each star moves it. -/
theorem matchesParts_drop_iff (hstart : start ≤ text.length) (first : List Char)
    (later : List (List Char)) :
    matchesParts (ofRuns first later) (text.drop start) = true ↔
      ∃ spots : List Spot, spots.map Spot.run = first :: later ∧ Spans text start spots := by
  induction later generalizing first start with
  | nil =>
    rw [ofRuns_nil, matchesParts_whole]
    constructor
    · intro h
      have hstands : (Spot.mk start first).StandsIn text := ⟨hstart, h ▸ List.prefix_rfl⟩
      refine ⟨[⟨start, first⟩], rfl, spans_singleton.2 ⟨hstands, rfl, ?_⟩⟩
      show start + first.length = text.length
      rw [← h, List.length_drop, Nat.add_sub_cancel' hstart]
    · rintro ⟨spots, hspots, hspans⟩
      obtain ⟨s, rfl, rfl⟩ := List.map_eq_singleton_iff.1 hspots
      obtain ⟨hstands, rfl, hstop⟩ := spans_singleton.1 hspans
      rw [(Spot.standsIn_iff.1 hstands).2, hstop, List.drop_length, List.append_nil]
  | cons second later ih =>
    rw [matchesParts_ofRuns_cons hstart]
    constructor
    · rintro ⟨hstands, next, hle, hnext, hmatch⟩
      obtain ⟨spots, hspots, hspans⟩ := (ih hnext second).1 hmatch
      obtain ⟨t, spots, rfl, rfl, rfl⟩ := List.map_eq_cons_iff.1 hspots
      obtain rfl : t.start = next := Option.some.inj hspans.opens
      exact ⟨⟨start, first⟩ :: t :: spots, rfl, spans_cons.2 ⟨hstands, rfl, hle, hspans⟩⟩
    · rintro ⟨spots, hspots, hspans⟩
      obtain ⟨s, others, rfl, rfl, hothers⟩ := List.map_eq_cons_iff.1 hspots
      obtain ⟨t, spots, rfl, rfl, rfl⟩ := List.map_eq_cons_iff.1 hothers
      obtain ⟨hstands, rfl, hle, hspans⟩ := spans_cons.1 hspans
      have hnext : t.start ≤ text.length := (hspans.stand t List.mem_cons_self).1
      exact ⟨hstands, t.start, hle, hnext, (ih hnext t.run).2 ⟨t :: spots, rfl, hspans⟩⟩

/-! ## Stars side by side -/

theorem matchesParts_append_congr {xs ys : List Part}
    (h : ∀ text, matchesParts xs text = matchesParts ys text) (front : List Part)
    (text : List Char) : matchesParts (front ++ xs) text = matchesParts (front ++ ys) text := by
  induction front generalizing text with
  | nil => exact h text
  | cons part front ih =>
    cases part with
    | any =>
      show (suffixes text).any (matchesParts (front ++ xs)) = _
      rw [funext ih]
      rfl
    | literal c =>
      cases text with
      | nil => rfl
      | cons d text => exact congrArg (c == d && ·) (ih text)

/-- Stars side by side count as one. -/
theorem matchesParts_stars (n : Nat) (parts : List Part) (text : List Char) :
    matchesParts (List.replicate (n + 1) .any ++ parts) text =
      matchesParts (.any :: parts) text := by
  induction n generalizing text with
  | zero => rfl
  | succ n ih =>
    rw [Bool.eq_iff_iff, List.replicate_succ, List.cons_append, matchesParts_any]
    simp only [ih, matchesParts_any]
    constructor
    · rintro ⟨rest, hrest, tail, htail, hmatch⟩
      exact ⟨tail, htail.trans hrest, hmatch⟩
    · rintro ⟨tail, htail, hmatch⟩
      exact ⟨text, List.suffix_rfl, tail, htail, hmatch⟩

/-! ## Main theorem -/

/-- Every pattern is written in one way as runs of characters with stars between them. A single run
matches the text that it is. Several runs match a text exactly if they have spots in it, in their
order and without overlap, the first from the very start and the last up to the very end. Stars side
by side count as one. -/
theorem matchesParts_iff_placed :
    (Function.Bijective fun rs : List Char × List (List Char) => ofRuns rs.1 rs.2) ∧
    (∀ run text, matchesParts (ofRuns run []) text = true ↔ text = run) ∧
    (∀ first later text, matchesParts (ofRuns first later) text = true ↔
      ∃ spots : List Spot, spots.map Spot.run = first :: later ∧ Spans text 0 spots) ∧
    ∀ front back text n, matchesParts (front ++ (List.replicate (n + 1) .any ++ back)) text =
      matchesParts (front ++ .any :: back) text := by
  refine ⟨ofRuns_bijective, fun run text => ?_, fun first later text => ?_,
    fun front back text n => ?_⟩
  · rw [ofRuns_nil, matchesParts_whole]
  · exact matchesParts_drop_iff (Nat.zero_le text.length) first later
  · exact matchesParts_append_congr (matchesParts_stars n back) front text

/-- The start and the end of a pattern do not share a character of the text. -/
example : matchesParts (ofRuns ['a', 'b'] [['b', 'a']]) ['a', 'b', 'a'] = false ∧
    matchesParts (ofRuns ['a', 'b'] [['b', 'a']]) ['a', 'b', 'b', 'a'] = true := by
  decide

end DocQuery.QueryString
