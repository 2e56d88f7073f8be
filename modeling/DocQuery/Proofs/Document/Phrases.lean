import DocQuery.Document.Matching
import DocQuery.Proofs.Identifier
import DocQuery.Proofs.QueryString.Patterns
import DocQuery.Proofs.Text.Pieces

/-
  Phrases.
  A text holds a phrase if the words of the phrase stand side by side among its tokens
  (`containsWords_iff`). The tokens of an identifier are its groups of digits, as many for every
  identifier, so the phrase of an identifier is found in no other one (`phrase_render_iff`).
-/

namespace DocQuery

/-! ## Tokens -/

namespace Text

/-- Whether a character is a letter or digit that is its own small form wherever it stands. -/
def IsSmall (c : Char) : Prop :=
  isAlphanumeric c = true ∧ c.toNat ≠ 0x3a3 ∧ lower c = [c]

theorem lowerText_of_small {cs : List Char} (h : ∀ c ∈ cs, IsSmall c) : lowerText cs = cs := by
  have hafter (before : List Char) : lowerAfter before cs = cs := by
    induction cs generalizing before with
    | nil => rfl
    | cons c cs ih =>
      obtain ⟨-, hsigma, hlower⟩ := h c List.mem_cons_self
      rw [lowerAfter, ih fun d hd => h d (List.mem_cons_of_mem c hd)]
      simp [hsigma, hlower]
  exact hafter []

theorem tokens_of_small {cs : List Char} (hne : cs ≠ []) (h : ∀ c ∈ cs, IsSmall c) :
    tokens cs = [cs] := by
  have hpieces : splitAt (fun c => !isAlphanumeric c) cs = [cs] := by
    refine splitAt_of_not_sep fun c hc => ?_
    rw [(h c hc).1]
    rfl
  simp [tokens, stretches, hpieces, hne, lowerText_of_small h]

theorem tokens_append_cons {s : Char} (hs : isAlphanumeric s = false) (xs ys : List Char) :
    tokens (xs ++ s :: ys) = tokens xs ++ tokens ys := by
  have hsep : (!isAlphanumeric s) = true := by simp [hs]
  rw [tokens, stretches, splitAt_append_cons hsep, List.filter_append, List.map_append]
  rfl

end Text

/-! ## Words side by side -/

namespace Document

theorem startsWithWords_iff {words tokens : List (List Char)} :
    startsWithWords false words tokens = true ↔ words <+: tokens := by
  induction words generalizing tokens with
  | nil => simp [startsWithWords]
  | cons word words ih =>
    cases tokens with
    | nil => simp [startsWithWords]
    | cons token tokens =>
      rw [List.cons_prefix_cons, ← ih, @eq_comm _ word]
      cases words with
      | nil => simp [startsWithWords]
      | cons next words => simp [startsWithWords]

theorem containsWords_iff {words tokens : List (List Char)} :
    containsWords false words tokens = true ↔ words ≠ [] ∧ words <:+: tokens := by
  rw [containsWords, QueryString.suffixes_eq_tails, Bool.and_eq_true, List.any_eq_true]
  simp [startsWithWords_iff, List.infix_iff_prefix_suffix, and_comm]

end Document

/-! ## Identifiers as phrases -/

namespace Identifier

variable {id : Identifier}

theorem isSmall_of_mem_chars {c : Char} (hc : c ∈ id.chars) : Text.IsSmall c := by
  have hsmall : ∀ d : Fin 16, Text.isAlphanumeric (Nat.digitChar d.val) = true ∧
      (Nat.digitChar d.val).toNat ≠ 0x3a3 ∧
      Text.lower (Nat.digitChar d.val) = [Nat.digitChar d.val] := by decide
  obtain ⟨d, -, rfl⟩ := List.mem_map.1 hc
  exact hsmall d

theorem tokens_hyphenate {a b c d e : List Char} (ha : a.length = 8) (hb : b.length = 4)
    (hc : c.length = 4) (hd : d.length = 4) (he : e.length = 12)
    (h : ∀ x ∈ a ++ b ++ c ++ d ++ e, Text.IsSmall x) :
    Text.tokens (hyphenate a b c d e) = [a, b, c, d, e] := by
  have hhyphen : Text.isAlphanumeric '-' = false := by decide
  have hgroup {g : List Char} {n : Nat} (hg : g.length = n + 1) (hsmall : ∀ x ∈ g, Text.IsSmall x) :
      Text.tokens g = [g] :=
    Text.tokens_of_small (List.ne_nil_of_length_eq_add_one hg) hsmall
  simp only [List.forall_mem_append] at h
  obtain ⟨⟨⟨⟨ha', hb'⟩, hc'⟩, hd'⟩, he'⟩ := h
  simp only [hyphenate, Text.tokens_append_cons hhyphen]
  rw [hgroup ha ha', hgroup hb hb', hgroup hc hc', hgroup hd hd', hgroup he he']
  rfl

/-- The tokens of an identifier are five, and put together they are its digits. -/
theorem tokens_render (h : id.digits.length = 32) :
    (Text.tokens id.render.toList).length = 5 ∧
      (Text.tokens id.render.toList).flatten = id.chars := by
  obtain ⟨a, b, c, d, e, ha, hb, hc, hd, he, hchars, htext⟩ := toList_render h
  have htokens := tokens_hyphenate ha hb hc hd he fun x hx => isSmall_of_mem_chars (hchars ▸ hx)
  rw [htext, htokens, hchars]
  simp

theorem chars_injective {id' : Identifier} (h : id.chars = id'.chars) : id = id' := by
  have hspells := id.spells_chars
  rw [h, Spells, id'.spells_chars] at hspells
  have hdigits := (List.map_inj_right fun _ _ => Option.some.inj).1 hspells
  cases id
  cases id'
  rw [mk.injEq]
  exact hdigits.symm

/-- One identifier holds the phrase of another one only if the two are the same. -/
theorem phrase_render_iff {u w : Identifier} (hu : u.digits.length = 32)
    (hw : w.digits.length = 32) :
    Document.containsWords false (Text.tokens w.render.toList)
      (Text.tokens u.render.toList) = true ↔ u = w := by
  obtain ⟨hlengthu, hcharsu⟩ := tokens_render hu
  obtain ⟨hlengthw, hcharsw⟩ := tokens_render hw
  rw [Document.containsWords_iff]
  constructor
  · rintro ⟨-, hinfix⟩
    have htokens := hinfix.eq_of_length (hlengthw.trans hlengthu.symm)
    apply chars_injective
    rw [← hcharsu, ← hcharsw, htokens]
  · rintro rfl
    refine ⟨?_, List.infix_rfl⟩
    intro hnil
    rw [hnil] at hlengthu
    cases hlengthu

end Identifier

namespace Document

variable {doc : Json} {name : String}

theorem isMatch_phrase {text : String} (h : fieldValues doc name = [.string text])
    (query : String) :
    isMatch doc (.matchPhrase name query) =
      containsWords false (Text.tokens query.toList) (Text.tokens text.toList) := by
  simp [isMatch, someValue, h, asText]

theorem isMatch_identifier {u w : Identifier} (hu : u.digits.length = 32)
    (hw : w.digits.length = 32) (h : fieldValues doc name = [.string u.render]) :
    isMatch doc (.matchPhrase name w.render) = true ↔ u = w := by
  rw [isMatch_phrase h, Identifier.phrase_render_iff hu hw]

end Document

end DocQuery
