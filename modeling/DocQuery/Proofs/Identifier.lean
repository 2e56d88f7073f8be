import DocQuery.Identifier

/-
  Reading an identifier from its written forms.
  `IsWritten` lists the texts that name an identifier: its digits in letters of either case, in one
  piece or in groups, and the groups in braces or behind the lead of a name. An identifier is read
  from exactly these texts (`parse_eq_ok`), the one it is written as among them (`parse_render`).
  The forms differ in their length in bytes, so at most one of them is tried.
-/

namespace DocQuery.Identifier

/-! ## Written forms -/

/-- Five groups of characters, joined by hyphens. -/
def hyphenate (a b c d e : List Char) : List Char :=
  a ++ '-' :: (b ++ '-' :: (c ++ '-' :: (d ++ '-' :: e)))

/-- Whether characters are the digits of an identifier, in letters of either case. -/
def Spells (id : Identifier) (cs : List Char) : Prop :=
  cs.map digit? = id.digits.map some

/-- Whether characters are the digits of an identifier in groups of 8, 4, 4, 4 and 12. -/
def IsGrouped (id : Identifier) (cs : List Char) : Prop :=
  ∃ a b c d e, a.length = 8 ∧ b.length = 4 ∧ c.length = 4 ∧ d.length = 4 ∧ e.length = 12 ∧
    id.Spells (a ++ b ++ c ++ d ++ e) ∧ cs = hyphenate a b c d e

/-- The written forms of an identifier. -/
inductive IsWritten (id : Identifier) : List Char → Prop where
  | plain {cs : List Char} (h : id.Spells cs) : IsWritten id cs
  | hyphenated {cs : List Char} (h : id.IsGrouped cs) : IsWritten id cs
  | braced {cs : List Char} (h : id.IsGrouped cs) : IsWritten id ('\x7b' :: (cs ++ ['\x7d']))
  | urn {lead cs : List Char} (hlead : lead.map Char.toLower = urnLead) (h : id.IsGrouped cs) :
    IsWritten id (lead ++ cs)

variable {id : Identifier} {cs : List Char}

/-! ## Characters of one byte -/

theorem utf8Size_eq_one {c last : Char} (h : c ≤ last) (hlast : last.utf8Size = 1) :
    c.utf8Size = 1 := by
  rw [Char.utf8Size_eq_one_iff] at hlast ⊢
  exact UInt32.le_trans h hlast

theorem utf8Size_of_digit? {c : Char} {d : Fin 16} (h : digit? c = some d) : c.utf8Size = 1 := by
  unfold digit? at h
  split at h
  · next hc => exact utf8Size_eq_one hc.2 rfl
  · split at h
    · next hc => exact utf8Size_eq_one hc.2 rfl
    · split at h
      · next hc => exact utf8Size_eq_one hc.2 rfl
      · cases h

theorem utf8Size_of_toLower {c : Char} (h : c.toLower.utf8Size = 1) : c.utf8Size = 1 := by
  unfold Char.toLower at h
  split at h
  · next hc =>
    have hle : c ≤ 'Z' := hc.2
    exact utf8Size_eq_one hle rfl
  · exact h

theorem utf8Size_of_mem_lead {lead : List Char} (h : lead.map Char.toLower = urnLead) {c : Char}
    (hc : c ∈ lead) : c.utf8Size = 1 := by
  have hmem : c.toLower ∈ urnLead := by
    rw [← h]
    exact List.mem_map_of_mem hc
  have hsmall : urnLead.all (fun x => x.utf8Size == 1) = true := by decide
  exact utf8Size_of_toLower (eq_of_beq (List.all_eq_true.1 hsmall _ hmem))

/-! ## Digits in one piece -/

theorem length_of_spells (h : id.Spells cs) : cs.length = id.digits.length := by
  have hlength := congrArg List.length h
  simpa using hlength

theorem utf8Size_of_spells (h : id.Spells cs) {c : Char} (hc : c ∈ cs) : c.utf8Size = 1 := by
  have hmem : digit? c ∈ id.digits.map some := by
    rw [← h]
    exact List.mem_map_of_mem hc
  obtain ⟨d, -, hd⟩ := List.mem_map.1 hmem
  exact utf8Size_of_digit? hd.symm

theorem mapM_digit?_eq_some {ds : List (Fin 16)} :
    cs.mapM digit? = some ds ↔ cs.map digit? = ds.map some := by
  induction cs generalizing ds with
  | nil => cases ds <;> simp
  | cons c cs ih =>
    have hstep : (c :: cs).mapM digit? = some ds ↔
        ∃ d, digit? c = some d ∧ ∃ rest, cs.mapM digit? = some rest ∧ d :: rest = ds := by
      simp [List.mapM_cons, Option.bind_eq_some_iff]
    rw [hstep]
    cases ds with
    | nil => simp
    | cons d ds => simp [ih]

theorem ofDigits?_eq_some : ofDigits? cs = some id ↔ id.digits.length = 32 ∧ id.Spells cs := by
  rw [Spells, ← mapM_digit?_eq_some, ofDigits?]
  cases cs.mapM digit? with
  | none => simp
  | some ds =>
    obtain ⟨digits⟩ := id
    rw [Option.bind_eq_bind, Option.bind_some, Option.ite_none_right_eq_some]
    grind

theorem digit?_digitChar (d : Fin 16) : digit? (Nat.digitChar d.val) = some d := by
  revert d
  decide

/-- The digits of an identifier as they are written, without hyphens. -/
def chars (id : Identifier) : List Char :=
  id.digits.map fun d => Nat.digitChar d.val

theorem spells_chars (id : Identifier) : id.Spells id.chars := by
  simp [Spells, chars, Function.comp_def, digit?_digitChar]

/-! ## Digits in groups -/

theorem mem_hyphenate {a b c d e : List Char} {x : Char} :
    x ∈ hyphenate a b c d e ↔ x = '-' ∨ x ∈ a ++ b ++ c ++ d ++ e := by
  simp only [hyphenate, List.mem_append, List.mem_cons]
  grind

section

variable {a b c d e : List Char} (ha : a.length = 8) (hb : b.length = 4) (hc : c.length = 4)
  (hd : d.length = 4) (he : e.length = 12)

include ha hb hc hd he

theorem length_hyphenate : (hyphenate a b c d e).length = 36 := by
  simp [hyphenate, ha, hb, hc, hd, he]

theorem ofGroups?_hyphenate :
    ofGroups? (hyphenate a b c d e) = ofDigits? (a ++ b ++ c ++ d ++ e) := by
  have hdrop (n : Nat) (xs : List Char) (h : xs.length ≤ n) : xs.drop n = [] :=
    List.drop_eq_nil_of_le h
  unfold ofGroups? hyphenate
  simp [List.drop_append, ha, hb, hc, hd, he, hdrop]

end

theorem take_cons_drop {n : Nat} {x : Char} (h : cs[n]? = some x) :
    cs.take n ++ x :: cs.drop (n + 1) = cs := by
  obtain ⟨hn, rfl⟩ := List.getElem?_eq_some_iff.1 h
  rw [← List.drop_eq_getElem_cons hn, List.take_append_drop]

/-- Characters with hyphens at the places of the hyphens are five groups. -/
theorem hyphenate_pieces (h : ∀ i ∈ [8, 13, 18, 23], cs[i]? = some '-') :
    hyphenate (cs.take 8) ((cs.drop 9).take 4) ((cs.drop 14).take 4) ((cs.drop 19).take 4)
      (cs.drop 24) = cs := by
  have hpiece (n : Nat) (hn : n + 4 ∈ [8, 13, 18, 23]) :
      (cs.drop n).take 4 ++ '-' :: cs.drop (n + 5) = cs.drop n := by
    have hplace : (cs.drop n)[4]? = some '-' := by rw [List.getElem?_drop, h (n + 4) hn]
    have hcut := take_cons_drop hplace
    rwa [List.drop_drop] at hcut
  rw [hyphenate, hpiece 19 (by decide), hpiece 14 (by decide), hpiece 9 (by decide),
    take_cons_drop (h 8 (by decide))]

theorem ofGroups?_eq_some :
    ofGroups? cs = some id ↔ id.digits.length = 32 ∧ id.IsGrouped cs := by
  constructor
  · intro h
    have hplaces : cs.length = 36 ∧ ∀ i ∈ [8, 13, 18, 23], cs[i]? = some '-' := by
      unfold ofGroups? at h
      dsimp only at h
      split at h
      · next hif => simpa [List.all_eq_true] using hif
      · cases h
    obtain ⟨hlength, hhyphens⟩ := hplaces
    have hcs := hyphenate_pieces hhyphens
    have ha : (cs.take 8).length = 8 := by simp [hlength]
    have hb : ((cs.drop 9).take 4).length = 4 := by simp [hlength]
    have hc : ((cs.drop 14).take 4).length = 4 := by simp [hlength]
    have hd : ((cs.drop 19).take 4).length = 4 := by simp [hlength]
    have he : (cs.drop 24).length = 12 := by simp [hlength]
    rw [← hcs, ofGroups?_hyphenate ha hb hc hd he, ofDigits?_eq_some] at h
    exact ⟨h.1, _, _, _, _, _, ha, hb, hc, hd, he, h.2, hcs.symm⟩
  · rintro ⟨hdigits, a, b, c, d, e, ha, hb, hc, hd, he, hspells, rfl⟩
    rw [ofGroups?_hyphenate ha hb hc hd he]
    exact ofDigits?_eq_some.2 ⟨hdigits, hspells⟩

theorem length_of_isGrouped (h : id.IsGrouped cs) : cs.length = 36 := by
  obtain ⟨a, b, c, d, e, ha, hb, hc, hd, he, -, rfl⟩ := h
  exact length_hyphenate ha hb hc hd he

theorem utf8Size_of_isGrouped (h : id.IsGrouped cs) {c : Char} (hc : c ∈ cs) :
    c.utf8Size = 1 := by
  obtain ⟨_, _, _, _, _, -, -, -, -, -, hspells, rfl⟩ := h
  rcases mem_hyphenate.1 hc with rfl | hdigit
  · rfl
  · exact utf8Size_of_spells hspells hdigit

/-- The written form is the characters of an identifier in groups. -/
theorem toList_render (h : id.digits.length = 32) :
    ∃ a b c d e, a.length = 8 ∧ b.length = 4 ∧ c.length = 4 ∧ d.length = 4 ∧ e.length = 12 ∧
      id.chars = a ++ b ++ c ++ d ++ e ∧ id.render.toList = hyphenate a b c d e := by
  have hlength : id.chars.length = 32 := (List.length_map _).trans h
  have hlast : (id.chars.drop 20).take 12 = id.chars.drop 20 :=
    List.take_of_length_le (by simp [hlength])
  refine ⟨id.chars.take 8, (id.chars.drop 8).take 4, (id.chars.drop 12).take 4,
    (id.chars.drop 16).take 4, id.chars.drop 20, by simp [hlength], by simp [hlength],
    by simp [hlength], by simp [hlength], by simp [hlength], ?_, ?_⟩
  · rw [← List.take_add, ← List.take_add, ← List.take_add, List.take_append_drop]
  · rw [← hlast]
    simp [render, hyphenate, groups, groupLengths, chars]

theorem isGrouped_render (h : id.digits.length = 32) : id.IsGrouped id.render.toList := by
  obtain ⟨a, b, c, d, e, ha, hb, hc, hd, he, hchars, htext⟩ := toList_render h
  refine ⟨a, b, c, d, e, ha, hb, hc, hd, he, ?_, htext⟩
  rw [← hchars]
  exact id.spells_chars

/-! ## Whole texts -/

theorem byteLength_eq_length (h : ∀ c ∈ cs, c.utf8Size = 1) :
    byteLength cs = cs.length := by
  have hfold (n : Nat) : cs.foldl (fun n c => n + c.utf8Size) n = n + cs.length := by
    induction cs generalizing n with
    | nil => rfl
    | cons c cs ih =>
      rw [List.foldl_cons, ih fun d hd => h d (List.mem_cons_of_mem c hd), h c List.mem_cons_self,
        List.length_cons]
      omega
  rw [byteLength, hfold, Nat.zero_add]

theorem byteLength_of_isGrouped (h : id.IsGrouped cs) : byteLength cs = 36 := by
  rw [byteLength_eq_length fun c hc => utf8Size_of_isGrouped h hc, length_of_isGrouped h]

/-- A text with two different characters at its ends has them around what is left of it. -/
theorem cons_dropLast_of_ends {x y : Char} (hhead : cs.head? = some x)
    (hlast : cs.getLast? = some y) (hne : x ≠ y) : cs = x :: ((cs.drop 1).dropLast ++ [y]) := by
  cases cs with
  | nil => cases hhead
  | cons c rest =>
    cases hhead
    have hrest : rest ≠ [] := by
      rintro rfl
      cases hlast
      exact hne rfl
    rw [List.getLast?_cons_of_ne_nil hrest] at hlast
    obtain ⟨inner, rfl⟩ := List.getLast?_eq_some_iff.1 hlast
    rw [List.drop_one, List.tail_cons, List.dropLast_concat]

/-- What is read is read in one of the four forms. -/
theorem parse_cases {s : String} (h : parse s = .ok id) :
    ofDigits? s.toList = some id ∨ ofGroups? s.toList = some id ∨
      (s.toList.head? = some '\x7b' ∧ s.toList.getLast? = some '\x7d' ∧
        ofGroups? (s.toList.drop 1).dropLast = some id) ∨
      (hasUrnLead s.toList = true ∧ ofGroups? (s.toList.drop urnLead.length) = some id) := by
  unfold parse at h
  dsimp only at h
  grind

theorem isWritten_of_parse {s : String} (h : parse s = .ok id) :
    id.digits.length = 32 ∧ id.IsWritten s.toList := by
  rcases parse_cases h with hread | hread | ⟨hhead, hlast, hread⟩ | ⟨hlead, hread⟩
  · obtain ⟨hdigits, hspells⟩ := ofDigits?_eq_some.1 hread
    exact ⟨hdigits, .plain hspells⟩
  · obtain ⟨hdigits, hgrouped⟩ := ofGroups?_eq_some.1 hread
    exact ⟨hdigits, .hyphenated hgrouped⟩
  · obtain ⟨hdigits, hgrouped⟩ := ofGroups?_eq_some.1 hread
    have hcs : s.toList = '\x7b' :: ((s.toList.drop 1).dropLast ++ ['\x7d']) := by
      exact cons_dropLast_of_ends hhead hlast (by decide)
    rw [hcs]
    exact ⟨hdigits, .braced hgrouped⟩
  · obtain ⟨hdigits, hgrouped⟩ := ofGroups?_eq_some.1 hread
    have hsmall : (s.toList.take urnLead.length).map Char.toLower = urnLead := by
      simpa [hasUrnLead] using hlead
    have hwritten := IsWritten.urn hsmall hgrouped
    rw [List.take_append_drop] at hwritten
    exact ⟨hdigits, hwritten⟩

theorem parse_of_isWritten {s : String} (hdigits : id.digits.length = 32)
    (h : id.IsWritten s.toList) : parse s = .ok id := by
  generalize hcs : s.toList = cs at h
  cases h with
  | plain hspells =>
    have hlength : byteLength cs = 32 := by
      rw [byteLength_eq_length fun c hc => utf8Size_of_spells hspells hc,
        length_of_spells hspells, hdigits]
    have hread := ofDigits?_eq_some.2 ⟨hdigits, hspells⟩
    simp [parse, hcs, hlength, hread]
  | hyphenated hgrouped =>
    have hlength := byteLength_of_isGrouped hgrouped
    have hread := ofGroups?_eq_some.2 ⟨hdigits, hgrouped⟩
    simp [parse, hcs, hlength, hread]
  | @braced cs hgrouped =>
    have hsizes : ∀ c ∈ '\x7b' :: (cs ++ ['\x7d']), c.utf8Size = 1 := by
      have hinner := fun c => utf8Size_of_isGrouped (c := c) hgrouped
      simp only [List.forall_mem_cons, List.forall_mem_append]
      exact ⟨rfl, hinner, rfl, by simp⟩
    have hlength : byteLength ('\x7b' :: (cs ++ ['\x7d'])) = 38 := by
      rw [byteLength_eq_length hsizes]
      simp [length_of_isGrouped hgrouped]
    have hlast : ('\x7b' :: (cs ++ ['\x7d'])).getLast? = some '\x7d' := by
      rw [← List.cons_append, List.getLast?_concat]
    have hread := ofGroups?_eq_some.2 ⟨hdigits, hgrouped⟩
    simp [parse, hcs, hlength, hlast, hread]
  | @urn lead cs hlead hgrouped =>
    have hsize : lead.length = urnLead.length := by
      rw [← hlead, List.length_map]
    have hsizes : ∀ c ∈ lead ++ cs, c.utf8Size = 1 := List.forall_mem_append.2
      ⟨fun c hc => utf8Size_of_mem_lead hlead hc, fun c hc => utf8Size_of_isGrouped hgrouped hc⟩
    have hlength : byteLength (lead ++ cs) = 45 := by
      rw [byteLength_eq_length hsizes, List.length_append, hsize, length_of_isGrouped hgrouped]
      rfl
    have hread := ofGroups?_eq_some.2 ⟨hdigits, hgrouped⟩
    have hstarts : hasUrnLead (lead ++ cs) = true := by simp [hasUrnLead, ← hsize, hlead]
    have hdrop : (lead ++ cs).drop urnLead.length = cs := by simp [← hsize]
    simp [parse, hcs, hlength, hstarts, hdrop, hread]

/-- An identifier is read from its written forms, and from nothing else. -/
theorem parse_eq_ok {s : String} :
    parse s = .ok id ↔ id.digits.length = 32 ∧ id.IsWritten s.toList := by
  constructor
  · exact isWritten_of_parse
  · exact fun h => parse_of_isWritten h.1 h.2

theorem parse_render (h : id.digits.length = 32) : parse id.render = .ok id :=
  parse_of_isWritten h (.hyphenated (isGrouped_render h))

theorem render_inj {id' : Identifier} (h : id.digits.length = 32) (h' : id'.digits.length = 32) :
    id.render = id'.render ↔ id = id' := by
  constructor
  · intro hrender
    have hparse := parse_render h
    rw [hrender, parse_render h', Except.ok.injEq] at hparse
    exact hparse.symm
  · exact congrArg render

end DocQuery.Identifier
