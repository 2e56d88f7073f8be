import DocQuery.Proofs.Text.Pieces
import DocQuery.Text.Lowercase

/-
  The small forms of the parts of a text.
  A part of a text has in the small form of the text the small forms of its characters, each on its
  own, unless one of its capital sigmas ends a word (`lowerText_parts`). So the small form of a text
  is that of its characters exactly if no capital sigma ends a word (`lowerText_eq_lowerEach_iff`).
-/

namespace DocQuery.Text

/-! ## Characters on their own -/

theorem lower_ne_nil (c : Char) : lower c ≠ [] := by
  unfold lower
  split <;> simp

theorem lowerEach_cons (c : Char) (cs : List Char) :
    lowerEach (c :: cs) = lower c ++ lowerEach cs :=
  List.flatMap_cons

theorem lowerEach_append (cs ds : List Char) :
    lowerEach (cs ++ ds) = lowerEach cs ++ lowerEach ds :=
  List.flatMap_append

theorem lowerEach_eq_nil {cs : List Char} (h : lowerEach cs = []) : cs = [] := by
  cases cs with
  | nil => rfl
  | cons c cs =>
    rw [lowerEach_cons] at h
    exact absurd (List.append_eq_nil_iff.1 h).1 (lower_ne_nil c)

/-! ## Capital sigmas that end a word -/

/-- A capital sigma of a part of a text ends a word of the text: a letter comes before it and none
behind it. The characters before the part stand nearest first. -/
def SigmaEndsWord (before part after : List Char) : Prop :=
  ∃ left right, part = left ++ 'Σ' :: right ∧ meetsCased (left.reverse ++ before) = true ∧
    meetsCased (right ++ after) = false

theorem not_sigmaEndsWord_nil (before after : List Char) : ¬SigmaEndsWord before [] after := by
  rintro ⟨left, right, hpart, -⟩
  exact absurd hpart (by simp)

theorem sigmaEndsWord_cons {before part after : List Char} {c : Char} :
    SigmaEndsWord before (c :: part) after ↔
      (c = 'Σ' ∧ meetsCased before = true ∧ meetsCased (part ++ after) = false) ∨
        SigmaEndsWord (c :: before) part after := by
  constructor
  · rintro ⟨left, right, hpart, hbefore, hafter⟩
    cases left with
    | nil =>
      cases hpart
      exact Or.inl ⟨rfl, hbefore, hafter⟩
    | cons d left =>
      cases hpart
      refine Or.inr ⟨left, right, rfl, ?_, hafter⟩
      simpa using hbefore
  · rintro (⟨rfl, hbefore, hafter⟩ | ⟨left, right, rfl, hbefore, hafter⟩)
    · exact ⟨[], part, rfl, hbefore, hafter⟩
    · refine ⟨c :: left, right, rfl, ?_, hafter⟩
      simpa using hbefore

instance decidableSigmaEndsWord :
    (before part after : List Char) → Decidable (SigmaEndsWord before part after)
  | before, [], after => isFalse (not_sigmaEndsWord_nil before after)
  | before, c :: part, after =>
    @decidable_of_iff' _ _ sigmaEndsWord_cons
      (@instDecidableOr _ _ _ (decidableSigmaEndsWord (c :: before) part after))

/-- What ends a word in a part of a text ends it in the text. -/
theorem sigmaEndsWord_of_part {before part after : List Char}
    (h : SigmaEndsWord before.reverse part after) :
    SigmaEndsWord [] (before ++ part ++ after) [] := by
  obtain ⟨left, right, rfl, hbefore, hafter⟩ := h
  refine ⟨before ++ left, right ++ after, by simp, ?_, ?_⟩
  · simpa using hbefore
  · simpa using hafter

/-! ## Characters in their places -/

theorem lowerAfter_cons_final {before rest : List Char} (hbefore : meetsCased before = true)
    (hrest : meetsCased rest = false) :
    lowerAfter before ('Σ' :: rest) = 'ς' :: lowerAfter ('Σ' :: before) rest := by
  rw [lowerAfter, hbefore, hrest]
  rfl

theorem lowerAfter_cons_of_not_final {before rest : List Char} {c : Char}
    (h : ¬(c = 'Σ' ∧ meetsCased before = true ∧ meetsCased rest = false)) :
    lowerAfter before (c :: rest) = lower c ++ lowerAfter (c :: before) rest := by
  rw [lowerAfter]
  split
  · next hcode =>
    have hc : c = 'Σ' := Char.toNat_inj.1 (beq_iff_eq.1 hcode)
    rw [if_neg (by simpa [hc] using h), hc]
    rfl
  · rfl

theorem lowerAfter_append {before part after : List Char} (h : ¬SigmaEndsWord before part after) :
    lowerAfter before (part ++ after) =
      lowerEach part ++ lowerAfter (part.reverse ++ before) after := by
  induction part generalizing before with
  | nil => rfl
  | cons c part ih =>
    rw [sigmaEndsWord_cons, not_or] at h
    rw [List.cons_append, lowerAfter_cons_of_not_final h.1, ih h.2, lowerEach_cons]
    simp

theorem exists_lowerAfter_append (before left rest : List Char) :
    ∃ small, lowerAfter before (left ++ rest) =
      small ++ lowerAfter (left.reverse ++ before) rest := by
  induction left generalizing before with
  | nil => exact ⟨[], rfl⟩
  | cons c left ih =>
    have hfirst : ∃ first, lowerAfter before (c :: (left ++ rest)) =
        first ++ lowerAfter (c :: before) (left ++ rest) := ⟨_, rfl⟩
    obtain ⟨first, hfirst⟩ := hfirst
    obtain ⟨small, hsmall⟩ := ih (c :: before)
    refine ⟨first ++ small, ?_⟩
    rw [List.cons_append, hfirst, hsmall]
    simp

/-- The small form of a text around a part of it. -/
theorem lowerText_parts {before part after : List Char}
    (h : ¬SigmaEndsWord before.reverse part after) :
    ∃ left right, lowerText (before ++ part ++ after) = left ++ lowerEach part ++ right ∧
      (before = [] → left = []) ∧ (after = [] → right = []) := by
  have hpart := lowerAfter_append h
  cases before with
  | nil => exact ⟨[], _, hpart, fun _ => rfl, by rintro rfl; rfl⟩
  | cons c before =>
    obtain ⟨left, hleft⟩ := exists_lowerAfter_append [] (c :: before) (part ++ after)
    rw [List.append_nil, hpart, ← List.append_assoc, ← List.append_assoc] at hleft
    exact ⟨left, _, hleft, nofun, by rintro rfl; rfl⟩

theorem length_lowerAfter (before cs : List Char) :
    (lowerAfter before cs).length = (lowerEach cs).length := by
  induction cs generalizing before with
  | nil => rfl
  | cons c cs ih =>
    rw [lowerEach_cons, List.length_append, ← ih (c :: before)]
    by_cases hfinal : c = 'Σ' ∧ meetsCased before = true ∧ meetsCased cs = false
    · obtain ⟨rfl, hbefore, hrest⟩ := hfinal
      have hone : (lower 'Σ').length = 1 := by decide
      rw [lowerAfter_cons_final hbefore hrest, hone, List.length_cons, Nat.add_comm]
    · rw [lowerAfter_cons_of_not_final hfinal, List.length_append]

theorem lowerAfter_eq_lowerEach_iff {before cs : List Char} :
    lowerAfter before cs = lowerEach cs ↔ ¬SigmaEndsWord before cs [] := by
  constructor
  · induction cs generalizing before with
    | nil => exact fun _ => not_sigmaEndsWord_nil before []
    | cons c cs ih =>
      intro h
      rw [lowerEach_cons] at h
      rw [sigmaEndsWord_cons, List.append_nil]
      by_cases hfinal : c = 'Σ' ∧ meetsCased before = true ∧ meetsCased cs = false
      · obtain ⟨rfl, hbefore, hrest⟩ := hfinal
        have hmedial : lower 'Σ' = ['σ'] := by decide
        rw [lowerAfter_cons_final hbefore hrest, hmedial] at h
        exact absurd (List.cons.inj h).1 (by decide)
      · rw [lowerAfter_cons_of_not_final hfinal] at h
        exact not_or.2 ⟨hfinal, ih (List.append_cancel_left h)⟩
  · intro h
    have hwhole := lowerAfter_append h
    rw [List.append_nil] at hwhole
    rw [hwhole]
    simp [lowerAfter]

/-- The small form of a text is that of its characters unless a capital sigma ends a word. -/
theorem lowerText_eq_lowerEach_iff {cs : List Char} :
    lowerText cs = lowerEach cs ↔ ¬SigmaEndsWord [] cs [] :=
  lowerAfter_eq_lowerEach_iff

/-! ## The forms in which a text is searched -/

/-- The small forms of a text in which something is looked for: that of the whole text and those of
its tokens. -/
def forms (cs : List Char) : List (List Char) :=
  lowerText cs :: tokens cs

theorem exists_piece_of_mem_tokens {cs token : List Char} (h : token ∈ tokens cs) :
    ∃ piece, piece <:+: cs ∧ token = lowerText piece := by
  obtain ⟨piece, hpiece, rfl⟩ := List.mem_map.1 h
  exact ⟨piece, infix_of_mem_splitAt (List.mem_filter.1 hpiece).1, rfl⟩

/-- A text whose characters all stand in one of its own forms has their small forms as its own. -/
theorem lowerText_of_prefix_form {cs form : List Char} (hform : form ∈ forms cs)
    (h : lowerEach cs <+: form) : lowerText cs = lowerEach cs := by
  rcases List.mem_cons.1 hform with rfl | htoken
  · exact (h.eq_of_length (length_lowerAfter [] cs).symm).symm
  · obtain ⟨piece, ⟨before, after, hcs⟩, rfl⟩ := exists_piece_of_mem_tokens htoken
    have hlength := h.length_le
    rw [lowerText, length_lowerAfter, ← hcs, lowerEach_append, lowerEach_append,
      List.length_append, List.length_append] at hlength
    have hbefore : before = [] := lowerEach_eq_nil (List.length_eq_zero_iff.1 (by omega))
    have hafter : after = [] := lowerEach_eq_nil (List.length_eq_zero_iff.1 (by omega))
    rw [hbefore, hafter, List.nil_append, List.append_nil] at hcs
    subst hcs
    exact (h.eq_of_length (length_lowerAfter [] piece).symm).symm

end DocQuery.Text
