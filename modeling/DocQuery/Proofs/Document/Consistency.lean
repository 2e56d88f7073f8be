import DocQuery.Proofs.Document.Comparing
import Mathlib.Data.String.Basic

/-
  When comparing fits together.
  Values that do not compare tie, and a text is compared with another one as an instant only if both
  are instants. So not all values are in order: they are if and only if they fit together
  (`isOrderOn_valueOrder_iff`), and this decides for documents and for the keys of groups
  (`comparators_consistent_iff`). A number, a word and a smaller number need not come out in order,
  nor need two instants and a text (`comparators_disagree_ticket`).
-/

namespace DocQuery.Document

/-- Values that fit together. -/
structure FitTogether (p : Json → Prop) : Prop where
  /-- Two values of which one is less than the other compare with all values. -/
  comparable : ∀ {x y z}, p x → p y → p z → compareValues x y = some .lt →
    (compareValues x z).isSome
  /-- Instants are in order if their texts have a text between them that is no instant. -/
  between : ∀ {a b c : String} {s t : Instant}, p (.string a) → p (.string b) → p (.string c) →
    Instant.parse? a = some s → Instant.parse? b = some t → Instant.parse? c = none →
    a < c → c < b → s.order t = .lt

/-! ## Values -/

theorem valueOrder_eq_lt {x y : Json} : valueOrder x y = .lt ↔ compareValues x y = some .lt := by
  cases hxy : compareValues x y with
  | none => simp [valueOrder, hxy]
  | some order => simp [valueOrder, hxy]

theorem valueOrder_of_isNone {x y : Json} (h : ¬(compareValues x y).isSome) :
    valueOrder x y = .eq := by
  rw [valueOrder, Option.not_isSome_iff_eq_none.1 h]
  rfl

/-- Values that compare with each other compare with the same values. -/
theorem isSome_compareValues_congr {x y : Json} (h : (compareValues x y).isSome) (z : Json) :
    (compareValues x z).isSome = (compareValues z y).isSome := by
  cases x with
  | number m =>
    cases y with
    | number n => cases z <;> rfl
    | _ => cases h
  | bool a =>
    cases y with
    | bool b => cases z <;> rfl
    | _ => cases h
  | string a =>
    cases y with
    | string b => cases z <;> rfl
    | _ => cases h
  | _ => cases h

section

variable {p : Json → Prop} {x y z : Json} {a b c : String}

theorem le_of_isLE_compareTexts (h : (compareTexts a b).isLE)
    (hnone : Instant.parse? a = none ∨ Instant.parse? b = none) : a ≤ b := by
  rw [compareTexts_of_parse?_eq_none hnone] at h
  exact compare_le_iff_le.1 (Ordering.ne_gt_iff_isLE.2 h)

/-- The text of an instant is never that of another value. -/
theorem lt_of_isLE_compareTexts {s : Instant} (h : (compareTexts a b).isLE)
    (hread : Instant.parse? a = some s ∧ Instant.parse? b = none ∨
      Instant.parse? a = none ∧ Instant.parse? b = some s) : a < b := by
  have hle := le_of_isLE_compareTexts h (hread.symm.imp And.left And.right)
  refine lt_of_le_of_ne hle ?_
  rintro rfl
  rcases hread with ⟨hsome, hnone⟩ | ⟨hnone, hsome⟩ <;> rw [hsome] at hnone <;> cases hnone

/-- Two instants and a text that is none do not go round in a circle. -/
theorem FitTogether.not_circle (h : FitTogether p) {s t : Instant} (hpa : p (.string a))
    (hpb : p (.string b)) (hpc : p (.string c)) (ha : Instant.parse? a = some s)
    (hb : Instant.parse? b = some t) (hc : Instant.parse? c = none)
    (hab : (compareTexts a b).isLE) (hbc : (compareTexts b c).isLE) :
    ¬(compareTexts c a).isLE := by
  intro hca
  have hbc : b < c := lt_of_isLE_compareTexts hbc (.inl ⟨hb, hc⟩)
  have hca : c < a := lt_of_isLE_compareTexts hca (.inr ⟨hc, ha⟩)
  have hba : t.order s = .lt := h.between hpb hpa hpc hb ha hc hbc hca
  rw [compareTexts_swap b a, compareTexts_of_parse? hb ha, hba] at hab
  cases hab

/-- Texts that fit together are in order. -/
theorem FitTogether.isLE_compareTexts (h : FitTogether p) (ha : p (.string a)) (hb : p (.string b))
    (hc : p (.string c)) (hab : (compareTexts a b).isLE) (hbc : (compareTexts b c).isLE) :
    (compareTexts a c).isLE := by
  have hbytes (h : Instant.parse? a = none ∨ Instant.parse? b = none)
      (h' : Instant.parse? b = none ∨ Instant.parse? c = none)
      (h'' : Instant.parse? a = none ∨ Instant.parse? c = none) : (compareTexts a c).isLE := by
    rw [compareTexts_of_parse?_eq_none h'', ← Ordering.ne_gt_iff_isLE]
    have hab := le_of_isLE_compareTexts hab h
    exact compare_le_iff_le.2 (hab.trans (le_of_isLE_compareTexts hbc h'))
  by_contra hac
  have hgt : compareTexts a c = .gt := by simpa using hac
  have hca : (compareTexts c a).isLE := by
    rw [compareTexts_swap a c, hgt]
    rfl
  -- only two instants and one other text are compared in both ways
  cases hs : Instant.parse? a with
  | none =>
    cases ht : Instant.parse? b with
    | none => exact hac (hbytes (.inl hs) (.inl ht) (.inl hs))
    | some t =>
      cases hu : Instant.parse? c with
      | none => exact hac (hbytes (.inl hs) (.inr hu) (.inl hs))
      | some u => exact h.not_circle hb hc ha ht hu hs hbc hca hab
  | some s =>
    cases ht : Instant.parse? b with
    | none =>
      cases hu : Instant.parse? c with
      | none => exact hac (hbytes (.inr ht) (.inl ht) (.inr hu))
      | some u => exact h.not_circle hc ha hb hu hs ht hca hab hbc
    | some t =>
      cases hu : Instant.parse? c with
      | none => exact h.not_circle ha hb hc hs ht hu hab hbc hca
      | some u =>
        rw [compareTexts_of_parse? hs ht] at hab
        rw [compareTexts_of_parse? ht hu] at hbc
        rw [compareTexts_of_parse? hs hu] at hac
        exact hac (Std.TransCmp.isLE_trans hab hbc)

theorem FitTogether.isOrderOn (h : FitTogether p) : IsOrderOn valueOrder p where
  swap {x y} _ _ := valueOrder_swap x y
  trans {x y z} hx hy hz hxy hyz := by
    by_contra hxz
    have hgt : valueOrder x z = .gt := by simpa using hxz
    have hzx : compareValues z x = some .lt := by
      rw [← valueOrder_eq_lt, valueOrder_swap x z, hgt]
      rfl
    -- the value in the middle compares with both ends, so all three are of one kind
    have hzy := h.comparable hz hx hy hzx
    refine hxz ?_
    cases z with
    | number n =>
      cases x with
      | number l =>
        cases y with
        | number m => exact Std.TransOrd.isLE_trans hxy hyz
        | _ => cases hzy
      | _ => cases hzx
    | bool c =>
      cases x with
      | bool a =>
        cases y with
        | bool b => exact Std.TransOrd.isLE_trans hxy hyz
        | _ => cases hzy
      | _ => cases hzx
    | string c =>
      cases x with
      | string a =>
        cases y with
        | string b => exact h.isLE_compareTexts hx hy hz hxy hyz
        | _ => cases hzy
      | _ => cases hzx
    | _ => cases hzx

theorem IsOrderOn.fitTogether (h : IsOrderOn valueOrder p) : FitTogether p where
  comparable {x y z} hx hy hz hxy := by
    by_contra hxz
    have hcompares : (compareValues x y).isSome := by rw [hxy]; rfl
    have hzy := hxz
    rw [isSome_compareValues_congr hcompares] at hzy
    have hyz : (valueOrder y z).isLE := by
      rw [valueOrder_swap z y, valueOrder_of_isNone hzy]
      rfl
    have hlt := h.lt_of_lt_of_isLE hx hy hz (valueOrder_eq_lt.2 hxy) hyz
    rw [valueOrder_of_isNone hxz] at hlt
    cases hlt
  between {a b c s t} ha hb hc hs ht hu hac hcb := by
    have hac : compareTexts a c = .lt := by
      rw [compareTexts_of_parse?_eq_none (.inr hu)]
      exact compare_lt_iff_lt.2 hac
    have hcb : compareTexts c b = .lt := by
      rw [compareTexts_of_parse?_eq_none (.inl hu)]
      exact compare_lt_iff_lt.2 hcb
    have hle : (compareTexts c b).isLE := by
      rw [hcb]
      rfl
    have hab : compareTexts a b = .lt := h.lt_of_lt_of_isLE ha hc hb hac hle
    rw [compareTexts_of_parse? hs ht] at hab
    exact hab

/-- The values that are in order are those that fit together. -/
theorem isOrderOn_valueOrder_iff : IsOrderOn valueOrder p ↔ FitTogether p :=
  ⟨IsOrderOn.fitTogether, FitTogether.isOrderOn⟩

end

/-! ## Documents and keys -/

section

variable {p : Json → Prop} {field : String}

/-- A key in ascending order compares documents as their values compare. -/
theorem isOrderOn_of_compareDocuments (h : IsOrderOn (compareDocuments [⟨field, .asc⟩]) p) :
    IsOrderOn valueOrder (ValuesIn field p) := by
  constructor
  · intro x y _ _
    exact valueOrder_swap x y
  · rintro x y z ⟨a, hpa, ha⟩ ⟨b, hpb, hb⟩ ⟨c, hpc, hc⟩ hxy hyz
    rw [← compareDocuments_asc ha hb] at hxy
    rw [← compareDocuments_asc hb hc] at hyz
    rw [← compareDocuments_asc ha hc]
    exact h.trans hpa hpb hpc hxy hyz

/-- The keys of one field compare as their values do. -/
theorem isOrderOn_of_compareKeys
    (h : IsOrderOn compareKeys fun key => ∃ doc, p doc ∧ keyOf? [field] doc = some key) :
    IsOrderOn valueOrder (ValuesIn field p) := by
  have hvalues : (fun x y => compareKeys [x] [y]) = valueOrder := by
    funext x y
    show (valueOrder x y).then .eq = valueOrder x y
    exact Ordering.then_eq
  rw [← hvalues]
  refine (h.comap fun v => [v]).mono ?_
  rintro v ⟨doc, hdoc, hv⟩
  exact ⟨doc, hdoc, keyOf?_cons_eq_some.2 ⟨v, [], hv, keyOf?_nil doc, rfl⟩⟩

end

/-! ## Main theorem -/

/-- Turning two documents or two keys round turns their order round, whatever their values are. All
sort keys over some fields put documents in order, and all groupings by some of these fields have
their keys in order, if and only if the values of every field fit together. -/
theorem comparators_consistent_iff (fields : List String) (p : Json → Prop) :
    (∀ keys a b, compareDocuments keys b a = (compareDocuments keys a b).swap) ∧
    (∀ as bs, compareKeys bs as = (compareKeys as bs).swap) ∧
    ((∀ keys : List SortField, keys.map SortField.field ⊆ fields →
        IsOrderOn (compareDocuments keys) p) ↔
      ∀ field ∈ fields, FitTogether (ValuesIn field p)) ∧
    ((∀ names ⊆ fields,
        IsOrderOn compareKeys fun key => ∃ doc, p doc ∧ keyOf? names doc = some key) ↔
      ∀ field ∈ fields, FitTogether (ValuesIn field p)) := by
  simp only [← isOrderOn_valueOrder_iff]
  refine ⟨compareDocuments_swap, compareKeys_swap,
    ⟨fun h field hfield => ?_, fun h keys hkeys => ?_⟩,
    fun h field hfield => ?_, fun h names hnames => ?_⟩
  · exact isOrderOn_of_compareDocuments (h [⟨field, .asc⟩] (by simpa using hfield))
  · exact compareDocuments_isOrderOn fun key hkey => h key.field (hkeys (List.mem_map_of_mem hkey))
  · exact isOrderOn_of_compareKeys (h [field] (by simpa using hfield))
  · exact compareKeys_isOrderOn fun name hname => h name (hnames hname)

theorem not_isOrderOn {α : Type} {order : α → α → Ordering} {p : α → Prop} {a b c : α} (ha : p a)
    (hb : p b) (hc : p c) (hab : (order a b).isLE) (hbc : (order b c).isLE)
    (hac : order a c = .gt) : ¬IsOrderOn order p := by
  intro h
  have hle := h.trans ha hb hc hab hbc
  rw [hac] at hle
  cases hle

/-- A word ties with a number and with a smaller one, and two instants go round in a circle with the
beginning of such a text. -/
theorem comparators_disagree_ticket :
    let keys : List SortField := [⟨"age", .asc⟩]
    let two := Json.object [("age", .int 2)]
    let word := Json.object [("age", .string "a")]
    let one := Json.object [("age", .int 1)]
    let east := Json.object [("age", .string "2021-01-01T05:00:00+10:00")]
    let utc := Json.object [("age", .string "2021-01-01T00:00:00Z")]
    let part := Json.object [("age", .string "2021-01-01T03")]
    ¬IsOrderOn (compareDocuments keys) (· ∈ [two, word, one]) ∧
    ¬IsOrderOn (compareDocuments keys) (· ∈ [east, utc, part]) ∧
    ¬IsOrderOn compareKeys (· ∈ [[Json.int 2], [Json.string "a"], [Json.int 1]]) ∧
    sortDocuments keys [(0, two), (1, word), (2, one)] = [(0, two), (1, word), (2, one)] := by
  intro keys two word one east utc part
  have hage (n : Int) : firstValue? (.object [("age", .int n)]) "age" = some (.int n) := by rfl
  have htext (s : String) :
      firstValue? (.object [("age", .string s)]) "age" = some (.string s) := by
    rfl
  have htwo : compareDocuments keys two word = .eq := compareDocuments_asc (hage 2) (htext "a")
  have hone : compareDocuments keys word one = .eq := compareDocuments_asc (htext "a") (hage 1)
  have hgreater : valueOrder (.int 2) (.int 1) = .gt := by decide +kernel
  refine ⟨?numbers, ?texts, ?keys, ?sorted⟩
  case numbers =>
    refine not_isOrderOn (by simp) (by simp) (by simp) ?_ ?_ ?_ (a := two) (b := word) (c := one)
    · rw [htwo]
      rfl
    · rw [hone]
      rfl
    · exact (compareDocuments_asc (hage 2) (hage 1)).trans hgreater
  case texts =>
    have hutc : compareTexts "2021-01-01T05:00:00+10:00" "2021-01-01T00:00:00Z" = .lt := by
      decide +kernel
    have hpart : compareTexts "2021-01-01T00:00:00Z" "2021-01-01T03" = .lt := by decide +kernel
    have heast : compareTexts "2021-01-01T05:00:00+10:00" "2021-01-01T03" = .gt := by decide +kernel
    have hdocs (s t : String) : compareDocuments keys (.object [("age", .string s)])
        (.object [("age", .string t)]) = compareTexts s t :=
    compareDocuments_asc (htext s) (htext t)
    refine not_isOrderOn (by simp) (by simp) (by simp) ?_ ?_ ?_ (a := east) (b := utc) (c := part)
    · rw [hdocs, hutc]
      rfl
    · rw [hdocs, hpart]
      rfl
    · rw [hdocs, heast]
  case keys =>
    refine not_isOrderOn (by simp) (by simp) (by simp) rfl rfl ?_
      (a := [Json.int 2]) (b := [Json.string "a"]) (c := [Json.int 1])
    exact congrArg (Ordering.then · .eq) hgreater
  case sorted =>
    have hword : compareDocuments keys word two = .eq := compareDocuments_asc (htext "a") (hage 2)
    have hlast : compareDocuments keys one word = .eq := compareDocuments_asc (hage 1) (htext "a")
    simp [sortDocuments, sortBy, insertDescending, hword, hlast]

end DocQuery.Document
