import DocQuery.Document.Order

/-
  Equality of JSON values.
  Two values can be equal and yet differ in the sign of a zero. Equality is still an equivalence, so
  it splits values into classes (`sameItems_congr`), and equal values compare alike
  (`compareKeys_congr`).
-/

namespace DocQuery

namespace Number

theorem same_refl (m : Number) : m.same m = true := by
  cases m <;> simp [same, Binary64.sameValue]

theorem same_comm (m n : Number) : m.same n = n.same m := by
  cases m <;> cases n <;> simp [same, Binary64.sameValue, Bool.beq_comm]

theorem same_trans {l m n : Number} (hlm : l.same m = true) (hmn : m.same n = true) :
    l.same n = true := by
  cases m with
  | integer b =>
    cases l with
    | real x => cases hlm
    | integer a =>
      cases n with
      | real y => cases hmn
      | integer c =>
        simp only [same, beq_iff_eq] at hlm hmn ⊢
        exact hlm.trans hmn
  | real y =>
    cases l with
    | integer a => cases hlm
    | real x =>
      cases n with
      | integer c => cases hmn
      | real z =>
        simp only [same, Binary64.sameValue, beq_iff_eq] at hlm hmn ⊢
        exact hlm.trans hmn

theorem value_eq_of_same {m n : Number} (h : m.same n = true) : m.value = n.value := by
  cases m with
  | integer a =>
    cases n with
    | integer b =>
      simp only [same, beq_iff_eq] at h
      rw [h]
    | real y => cases h
  | real x =>
    cases n with
    | integer b => cases h
    | real y =>
      simp only [same, Binary64.sameValue, beq_iff_eq] at h
      exact h

end Number

namespace Json

attribute [local simp] same sameItems sameEntries

mutual

theorem same_refl : ∀ a : Json, a.same a = true
  | .null => by simp
  | .bool _ => by simp
  | .number m => by simp [m.same_refl]
  | .string _ => by simp
  | .array xs => by simp [sameItems_refl xs]
  | .object es => by simp [sameEntries_refl es]

theorem sameItems_refl : ∀ xs : List Json, sameItems xs xs = true
  | [] => by simp
  | x :: xs => by simp [same_refl x, sameItems_refl xs]

theorem sameEntries_refl : ∀ es : List (String × Json), sameEntries es es = true
  | [] => by simp
  | (_, x) :: es => by simp [same_refl x, sameEntries_refl es]

end

mutual

theorem same_comm : ∀ a b : Json, a.same b = b.same a
  | .null, b => by cases b <;> simp
  | .bool _, b => by cases b <;> simp [Bool.beq_comm]
  | .number m, b => by cases b <;> simp [m.same_comm]
  | .string _, b => by cases b <;> simp [Bool.beq_comm]
  | .array xs, b => by
    cases b with
    | array ys => simpa using sameItems_comm xs ys
    | _ => simp
  | .object es, b => by
    cases b with
    | object fs => simpa using sameEntries_comm es fs
    | _ => simp

theorem sameItems_comm : ∀ xs ys : List Json, sameItems xs ys = sameItems ys xs
  | [], ys => by cases ys <;> simp
  | x :: xs, [] => by simp
  | x :: xs, y :: ys => by simp [same_comm x y, sameItems_comm xs ys]

theorem sameEntries_comm : ∀ es fs : List (String × Json), sameEntries es fs = sameEntries fs es
  | [], fs => by cases fs <;> simp
  | e :: es, [] => by simp
  | (k, x) :: es, (l, y) :: fs => by
    simp [same_comm x y, sameEntries_comm es fs, Bool.beq_comm (a := k)]

end

mutual

theorem same_trans (a : Json) {b c : Json} (hab : a.same b = true) (hbc : b.same c = true) :
    a.same c = true := by
  cases a with
  | null => cases b <;> simp at hab; exact hbc
  | bool _ => cases b <;> simp at hab; rw [hab]; exact hbc
  | string _ => cases b <;> simp at hab; rw [hab]; exact hbc
  | number m =>
    cases b <;> simp at hab
    cases c <;> simp at hbc
    simpa using Number.same_trans hab hbc
  | array xs =>
    cases b <;> simp at hab
    cases c <;> simp at hbc
    simpa using sameItems_trans xs hab hbc
  | object es =>
    cases b <;> simp at hab
    cases c <;> simp at hbc
    simpa using sameEntries_trans es hab hbc
termination_by structural a

theorem sameItems_trans (xs : List Json) {ys zs : List Json} (hxy : sameItems xs ys = true)
    (hyz : sameItems ys zs = true) : sameItems xs zs = true := by
  cases xs with
  | nil => cases ys <;> simp at hxy; exact hyz
  | cons x xs =>
    cases ys <;> simp at hxy
    cases zs <;> simp at hyz
    simpa using ⟨same_trans x hxy.1 hyz.1, sameItems_trans xs hxy.2 hyz.2⟩
termination_by structural xs

theorem sameEntries_trans (es : List (String × Json)) {fs gs : List (String × Json)}
    (hef : sameEntries es fs = true) (hfg : sameEntries fs gs = true) :
    sameEntries es gs = true := by
  match es with
  | [] => cases fs <;> simp at hef; exact hfg
  | (k, x) :: es =>
    cases fs <;> simp at hef
    cases gs <;> simp at hfg
    simpa using ⟨⟨hef.1.1.trans hfg.1.1, same_trans x hef.1.2 hfg.1.2⟩,
      sameEntries_trans es hef.2 hfg.2⟩
termination_by structural es

end

/-- Equal lists are equal to the same lists. -/
theorem sameItems_congr {xs ys : List Json} (h : sameItems xs ys = true) (zs : List Json) :
    sameItems xs zs = sameItems ys zs := by
  rw [Bool.eq_iff_iff]
  constructor
  · intro hxz
    rw [sameItems_comm] at h
    exact sameItems_trans ys h hxz
  · exact sameItems_trans xs h

end Json

/-! ## Comparing equal values -/

namespace Document

theorem compareValues_congr {a b : Json} (h : a.same b = true) (c : Json) :
    compareValues c a = compareValues c b := by
  cases a with
  | null => cases b <;> simp [Json.same] at h; rfl
  | bool _ => cases b <;> simp [Json.same] at h; rw [h]
  | string _ => cases b <;> simp [Json.same] at h; rw [h]
  | number m =>
    cases b <;> simp [Json.same] at h
    cases c <;> simp [compareValues, Number.value_eq_of_same h]
  | array xs =>
    cases b <;> simp [Json.same] at h
    cases c <;> rfl
  | object es =>
    cases b <;> simp [Json.same] at h
    cases c <;> rfl

theorem compareKeys_congr {as bs : List Json} (h : Json.sameItems as bs = true) (cs : List Json) :
    compareKeys cs as = compareKeys cs bs := by
  induction as generalizing bs cs with
  | nil =>
    cases bs with
    | nil => rfl
    | cons b bs => simp [Json.sameItems] at h
  | cons a as ih =>
    cases bs with
    | nil => simp [Json.sameItems] at h
    | cons b bs =>
      simp only [Json.sameItems, Bool.and_eq_true] at h
      cases cs with
      | nil => rfl
      | cons c cs => rw [compareKeys, compareKeys, compareValues_congr h.1, ih h.2]

end Document

end DocQuery
