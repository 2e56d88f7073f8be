import DocQuery.Proofs.Document.Comparing
import DocQuery.Proofs.Number.Rounding
import DocQuery.Proofs.Text.Bytes

/-
  Documents in the order of their keys.
  What it means that one value stands below another, that a key puts one document before another and
  that several keys do, is said here without a comparison that has three results. Where the first
  values of every field lie on one scale, sorting puts each document before those behind it or
  leaves it tied with them on every key, and tied documents keep their order
  (`sortDocuments_ranks`). Numbers stand in the order of their rounded values, so an integer may
  stay before a smaller one that rounding makes the same (`larger_stays_first_ticket`).
-/

namespace DocQuery

/-- Whether an instant is before another. -/
def Instant.Before (s t : Instant) : Prop :=
  s.seconds < t.seconds ∨ s.seconds = t.seconds ∧ s.nanos < t.nanos

/-- Whether a value stands below another one on their scale. Numbers have their values as
floating-point numbers, and texts that are no instants are compared by their bytes. -/
inductive Json.Below : Json → Json → Prop where
  | number {m n : Number} (h : m.value < n.value) : Below (.number m) (.number n)
  | bool : Below (.bool false) (.bool true)
  | instant {a b : String} {s t : Instant} (ha : Instant.parse? a = some s)
    (hb : Instant.parse? b = some t) (h : s.Before t) : Below (.string a) (.string b)
  | text {a b : String} (ha : Instant.parse? a = none) (hb : Instant.parse? b = none)
    (h : Text.bytes a < Text.bytes b) : Below (.string a) (.string b)

namespace SortField

open Document

/-- Whether a key puts a document before another. A document without a value is behind all that have
one, in both directions. -/
def Puts (key : SortField) (a b : Json) : Prop :=
  match firstValue? a key.field, firstValue? b key.field with
  | some x, some y =>
    match key.order with
    | .asc => x.Below y
    | .desc => y.Below x
  | some _, none => True
  | none, _ => False

/-- Whether a key puts neither of two documents before the other. -/
def Ties (key : SortField) (a b : Json) : Prop :=
  ¬key.Puts a b ∧ ¬key.Puts b a

end SortField

namespace Document

/-- Whether the first key that does not tie puts a document before another. -/
def GoesBefore : List SortField → Json → Json → Prop
  | [], _, _ => False
  | key :: keys, a, b => key.Puts a b ∨ key.Ties a b ∧ GoesBefore keys a b

/-! ## Below and before -/

theorem order_eq_lt_iff {s t : Instant} : s.order t = .lt ↔ s.Before t := by
  simp [Instant.order, Instant.Before, Ordering.then_eq_lt, Std.compare_eq_lt]

theorem compare_eq_lt_iff_bytes {a b : String} :
    compare a b = .lt ↔ Text.bytes a < Text.bytes b := by
  rw [compare_lt_iff_lt, Text.lt_iff_bytes_lt]

theorem valueOrder_of_below {x y : Json} (h : x.Below y) : valueOrder x y = .lt := by
  cases h with
  | number h => exact Std.compare_eq_lt.2 h
  | bool => rfl
  | instant ha hb h =>
    simp only [valueOrder, compareValues, compareTexts, ha, hb, Option.getD_some]
    exact order_eq_lt_iff.2 h
  | text ha hb h =>
    simp only [valueOrder, compareValues, compareTexts, ha, hb, Option.getD_some]
    exact compare_eq_lt_iff_bytes.2 h

/-- On one scale values are in order as they stand below one another. -/
theorem valueOrder_eq_lt_iff {scale : Scale} {x y : Json} (hx : x.scale? = some scale)
    (hy : y.scale? = some scale) : valueOrder x y = .lt ↔ x.Below y := by
  refine ⟨fun h => ?_, valueOrder_of_below⟩
  cases x with
  | number m =>
    cases y with
    | number n => exact .number (Std.compare_eq_lt.1 h)
    | _ => cases h
  | bool a =>
    cases y with
    | bool b => cases a <;> cases b <;> first | exact .bool | cases h
    | _ => cases h
  | string a =>
    cases y with
    | string b =>
      have hscale : (Instant.parse? a).isSome = (Instant.parse? b).isSome := by
        rw [← hy] at hx
        simp only [Json.scale?, Option.some.injEq] at hx
        grind
      simp only [valueOrder, compareValues, compareTexts, Option.getD_some] at h
      cases ha : Instant.parse? a with
      | none =>
        have hb : Instant.parse? b = none := by simpa [ha] using hscale.symm
        simp only [ha, hb] at h
        exact .text ha hb (compare_eq_lt_iff_bytes.1 h)
      | some s =>
        obtain ⟨t, hb⟩ := Option.isSome_iff_exists.1 (by simpa [ha] using hscale.symm)
        simp only [ha, hb] at h
        exact .instant ha hb (order_eq_lt_iff.1 h)
    | _ => cases h
  | _ => cases h

section

variable {p : Json → Prop} {key : SortField} {keys : List SortField} {a b : Json}

theorem compareBy_eq_lt_iff (h : ComparableIn key.field p) (ha : p a) (hb : p b) :
    compareBy key a b = .lt ↔ key.Puts a b := by
  obtain ⟨scale, hscale⟩ := h
  have hxs := hscale a ha
  have hys := hscale b hb
  unfold compareBy SortField.Puts
  cases hx : firstValue? a key.field with
  | none => cases firstValue? b key.field <;> simp
  | some x =>
    cases hy : firstValue? b key.field with
    | none => simp
    | some y =>
      have hx := hxs x hx
      have hy := hys y hy
      cases key.order with
      | asc => exact valueOrder_eq_lt_iff hx hy
      | desc =>
        show (valueOrder x y).swap = .lt ↔ y.Below x
        rw [← valueOrder_eq_lt_iff hy hx, valueOrder_swap x y]

theorem compareBy_eq_eq_iff (h : ComparableIn key.field p) (ha : p a) (hb : p b) :
    compareBy key a b = .eq ↔ key.Ties a b := by
  rw [SortField.Ties, ← compareBy_eq_lt_iff h ha hb, ← compareBy_eq_lt_iff h hb ha,
    compareBy_swap key a b]
  cases compareBy key a b <;> simp

theorem compareDocuments_eq_lt_iff (h : ∀ key ∈ keys, ComparableIn key.field p) (ha : p a)
    (hb : p b) : compareDocuments keys a b = .lt ↔ GoesBefore keys a b := by
  induction keys with
  | nil => simp [compareDocuments, GoesBefore]
  | cons key keys ih =>
    obtain ⟨hkey, hkeys⟩ := List.forall_mem_cons.1 h
    rw [compareDocuments, GoesBefore, Ordering.then_eq_lt, ih hkeys,
      compareBy_eq_lt_iff hkey ha hb, compareBy_eq_eq_iff hkey ha hb]

theorem compareDocuments_eq_eq_iff (h : ∀ key ∈ keys, ComparableIn key.field p) (ha : p a)
    (hb : p b) : compareDocuments keys a b = .eq ↔ ∀ key ∈ keys, key.Ties a b := by
  induction keys with
  | nil => simp [compareDocuments]
  | cons key keys ih =>
    obtain ⟨hkey, hkeys⟩ := List.forall_mem_cons.1 h
    rw [compareDocuments, Ordering.then_eq_eq, ih hkeys, compareBy_eq_eq_iff hkey ha hb,
      List.forall_mem_cons]

end

/-! ## Main theorem -/

/-- Where the first values of every field lie on one scale, sorting moves documents so that each one
goes before those behind it or ties with them on every key, and documents that tie on every key keep
their order. -/
theorem sortDocuments_ranks {keys : List SortField} {docs : Positioned}
    (h : ∀ key ∈ keys, ComparableIn key.field (· ∈ docs.map Prod.snd)) :
    (sortDocuments keys docs).Perm docs ∧
      (sortDocuments keys docs).Pairwise (fun a b =>
        GoesBefore keys a.2 b.2 ∨ ∀ key ∈ keys, key.Ties a.2 b.2) ∧
      ∀ tied : Positioned, tied.Sublist docs →
        (tied.Pairwise fun a b => ∀ key ∈ keys, key.Ties a.2 b.2) →
        tied.Sublist (sortDocuments keys docs) := by
  have horder := (compareDocuments_isOrderOn fun key hkey => (h key hkey).isOrderOn).positioned
  have hmem : ∀ d ∈ docs, d.2 ∈ docs.map Prod.snd := fun d hd => List.mem_map_of_mem hd
  have hperm := sortDocuments_perm keys docs
  refine ⟨hperm, ?_, fun tied htied hties => ?_⟩
  · have hsorted : (sortDocuments keys docs).Pairwise _ := sortBy_pairwise horder hmem
      (List.pairwise_of_forall (R := fun _ _ => True) fun _ _ => trivial)
    refine hsorted.imp_of_mem fun {a b} ha hb hab => ?_
    have ha := hmem a (hperm.mem_iff.1 ha)
    have hb := hmem b (hperm.mem_iff.1 hb)
    rcases hab with hlt | ⟨heq, -⟩
    · exact Or.inl ((compareDocuments_eq_lt_iff h ha hb).1 hlt)
    · exact Or.inr ((compareDocuments_eq_eq_iff h ha hb).1 heq)
  · refine sublist_sortBy htied (hties.imp_of_mem fun {a b} ha hb hab => ?_)
    have ha := hmem a (htied.mem ha)
    have hb := hmem b (htied.mem hb)
    rw [compareDocuments_swap, (compareDocuments_eq_eq_iff h ha hb).2 hab]
    simp

/-- Urgent tickets come first, open ones before the others, and those that are neither open nor done
last; two tickets with the same values stay as they are. -/
theorem sortDocuments_ranks_ticket :
    let keys : List SortField := [⟨"urgent", .desc⟩, ⟨"done", .asc⟩]
    let calm := Json.object [("done", .bool false), ("urgent", .bool false)]
    let first := Json.object [("done", .bool true), ("id", .int 1), ("urgent", .bool true)]
    let second := Json.object [("done", .bool true), ("id", .int 2), ("urgent", .bool true)]
    let unsure := Json.object [("urgent", .bool true)]
    let docs : Positioned := [(4, unsure), (9, calm), (9, first), (0, second)]
    (∀ key ∈ keys, ComparableIn key.field (· ∈ docs.map Prod.snd)) ∧
      sortDocuments keys docs = [(9, first), (0, second), (4, unsure), (9, calm)] ∧
      (sortDocuments keys docs).Pairwise (fun a b =>
        GoesBefore keys a.2 b.2 ∨ ∀ key ∈ keys, key.Ties a.2 b.2) := by
  intro keys calm first second unsure docs
  have hcomparable : ∀ key ∈ keys, ComparableIn key.field (· ∈ docs.map Prod.snd) :=
    List.forall_mem_cons.2 ⟨comparableIn_of_all .truthValues rfl,
      List.forall_mem_singleton.2 (comparableIn_of_all .truthValues rfl)⟩
  obtain ⟨-, hordered, -⟩ := sortDocuments_ranks hcomparable
  exact ⟨hcomparable, by rfl, hordered⟩

/-- Two ages are the same once they are rounded, and so the greater one stays first. -/
theorem larger_stays_first_ticket :
    let keys : List SortField := [⟨"age", .asc⟩]
    let larger := Json.object [("age", .int 9007199254740993)]
    let smaller := Json.object [("age", .int 9007199254740992)]
    ComparableIn "age" (· ∈ [larger, smaller]) ∧
      sortDocuments keys [(0, larger), (1, smaller)] = [(0, larger), (1, smaller)] := by
  intro keys larger smaller
  have hvalue : (Number.integer 9007199254740992).value = (Number.integer 9007199254740993).value :=
    by decide +kernel
  have hages {m n : Int} (h : (Number.integer m).value = (Number.integer n).value) :
      compareDocuments keys (.object [("age", .int m)]) (.object [("age", .int n)]) = .eq := by
    have hage (n : Int) : firstValue? (.object [("age", .int n)]) "age" = some (.int n) := by rfl
    rw [compareDocuments_asc (hage m) (hage n)]
    simp [valueOrder, compareValues, Json.int, h]
  have hties : compareDocuments keys smaller larger ≠ .lt := by
    rw [hages hvalue]
    simp
  exact ⟨comparableIn_of_all .numbers rfl, sortBy_eq_self (List.pairwise_pair.2 hties)⟩

end Document

end DocQuery
