import DocQuery.Proofs.Compilation.Membership
import Mathlib.Tactic.Choose

/-
  Comparing for order.
  Numbers and instants are compared with a term of their field, and every comparison matches as the
  order of the two says (`compile_ordered`), although equality of numbers, equality of instants and
  the other comparisons become different clauses. So the comparisons with one value fit together
  (`comparisons_cohere`).
-/

namespace DocQuery

open Document

/-- Whether a comparison holds of two things in some order. -/
def Comparison.accepts : Comparison → Ordering → Bool
  | eq, order => order == .eq
  | ne, order => order != .eq
  | gt, order => order == .gt
  | ge, order => order != .lt
  | lt, order => order == .lt
  | le, order => order != .gt

/-- Comparisons that fit together: exactly one of less, equal and greater holds, and the others are
made of these. -/
structure IsCoherent (holds : Comparison → Bool) : Prop where
  exactly_one : [holds .lt, holds .eq, holds .gt].count true = 1
  le : holds .le = (holds .lt || holds .eq)
  ge : holds .ge = (holds .gt || holds .eq)
  ne : holds .ne = !holds .eq

theorem isCoherent_accepts (order : Ordering) : IsCoherent fun op => op.accepts order := by
  cases order <;> exact ⟨rfl, rfl, rfl, rfl⟩

/-- The values that have an order in a field: finite numbers, and whatever names an instant. -/
inductive Value.OrdersIn : Value → FieldKind → Prop where
  | signed (n : Int) : OrdersIn (.signed n) .numeric
  | unsigned (n : Nat) : OrdersIn (.unsigned n) .numeric
  | real (x : Binary64) : OrdersIn (.real (.finite x)) .numeric
  | instant {v : Value} {t : Instant} (h : v.toInstant = .ok t) : OrdersIn v .datetime

/-- The values of documents that have an order in a field: numbers, and texts whether they are
instants or not. -/
inductive Json.OrdersIn : Json → FieldKind → Prop where
  | number (n : Number) : OrdersIn (.number n) .numeric
  | string (s : String) : OrdersIn (.string s) .datetime

namespace Compilation

variable {r : Resolver} {property : String} {field : ResolvedField} {value : Value}
  {x term : Json} {order : Ordering}

/-! ## Bounds -/

theorem withinBounds_exactly (h : compareValues x term = some order) :
    withinBounds x (.exactly term) = Comparison.eq.accepts order := by
  cases order <;> simp [withinBounds, RangeBounds.exactly, meets, h, Comparison.accepts]

theorem withinBounds_ordering {op : Comparison} (hop : op ≠ .eq ∧ op ≠ .ne)
    (h : compareValues x term = some order) :
    withinBounds x (orderingBounds op term) = op.accepts order := by
  cases op with
  | eq => exact absurd rfl hop.1
  | ne => exact absurd rfl hop.2
  | _ => simp [withinBounds, orderingBounds, meets, h, Comparison.accepts]

theorem valuesEqual_number (m n : Number) :
    valuesEqual (.number m) (.number n) = Comparison.eq.accepts (compare m.value n.value) := by
  rw [Bool.eq_iff_iff]
  simp [valuesEqual, Comparison.accepts]

/-! ## Clauses -/

section

variable {doc : Json} {name : String} (hdoc : fieldValues doc name = [x])

include hdoc

theorem isMatch_term_of_single : isMatch doc (.term name term) = valuesEqual x term := by
  simp [isMatch, someValue, hdoc]

theorem isMatch_range_of_single (bounds : RangeBounds) :
    isMatch doc (.range name bounds) = withinBounds x bounds := by
  simp [isMatch, someValue, hdoc]

end

/-- The comparisons of a number follow its order to the term. -/
theorem termClause?_numeric (name : String) (op : Comparison) (n : Number) :
    ∃ c, termClause? name .numeric op (.number n) = some c ∧
      ∀ doc m, fieldValues doc name = [.number m] →
        isMatch doc c = op.accepts (compare m.value n.value) := by
  have hcompare (m : Number) :
      compareValues (.number m) (.number n) = some (compare m.value n.value) := rfl
  cases op with
  | eq =>
    refine ⟨_, rfl, fun doc m hdoc => ?_⟩
    simp [isMatch_term_of_single hdoc, valuesEqual_number]
  | ne =>
    refine ⟨_, rfl, fun doc m hdoc => ?_⟩
    simp [isMatch_term_of_single hdoc, valuesEqual_number, Comparison.accepts, bne]
  | _ =>
    refine ⟨_, rfl, fun doc m hdoc => ?_⟩
    rw [isMatch_allOf, allMatch_cons, isMatch_range_of_single hdoc,
      withinBounds_ordering (by decide) (hcompare m), allMatch_nil, Bool.and_true]

/-- The comparisons of a text follow its order to the term, equality through two bounds. -/
theorem termClause?_datetime (name : String) (op : Comparison) (t : String) :
    ∃ c, termClause? name .datetime op (.string t) = some c ∧
      ∀ doc s, fieldValues doc name = [.string s] →
        isMatch doc c = op.accepts (compareTexts s t) := by
  have hcompare (s : String) :
      compareValues (.string s) (.string t) = some (compareTexts s t) := rfl
  cases op with
  | eq =>
    refine ⟨_, rfl, fun doc s hdoc => ?_⟩
    rw [isMatch_range_of_single hdoc, withinBounds_exactly (hcompare s)]
  | ne =>
    refine ⟨_, rfl, fun doc s hdoc => ?_⟩
    rw [isMatch_noneOf, anyMatch_cons, isMatch_range_of_single hdoc,
      withinBounds_exactly (hcompare s), anyMatch_nil, Bool.or_false]
    rfl
  | _ =>
    refine ⟨_, rfl, fun doc s hdoc => ?_⟩
    rw [isMatch_range_of_single hdoc, withinBounds_ordering (by decide) (hcompare s)]

/-- Whatever has an order in a field has a term there, and every comparison with it a clause that
matches as the order of the value of a document to the term says. -/
theorem exists_termClause_ordered (hvalue : value.OrdersIn field.kind) :
    ∃ term, value.toTerm field.kind = .ok term ∧ ∀ op, ∃ c,
      termClause? field.name field.kind.type op term = some c ∧
      ∀ doc x, fieldValues doc field.name = [x] → x.OrdersIn field.kind →
        ∃ order, compareValues x term = some order ∧ isMatch doc c = op.accepts order := by
  have hnumeric (n : Number) (op : Comparison) : ∃ c,
      termClause? field.name .numeric op (.number n) = some c ∧
      ∀ doc x, fieldValues doc field.name = [x] → x.OrdersIn .numeric →
        ∃ order, compareValues x (.number n) = some order ∧ isMatch doc c = op.accepts order := by
    obtain ⟨c, hc, hmatch⟩ := termClause?_numeric field.name op n
    refine ⟨c, hc, fun doc x hdoc hx => ?_⟩
    cases hx with
    | number m => exact ⟨_, rfl, hmatch doc m hdoc⟩
  generalize field.kind = kind at hvalue ⊢
  cases hvalue with
  | signed n => exact ⟨_, rfl, hnumeric (.integer n)⟩
  | unsigned n => exact ⟨_, rfl, hnumeric (.integer n)⟩
  | real x => exact ⟨_, rfl, hnumeric (.real x)⟩
  | @instant _ t ht =>
    refine ⟨.string t.render, ?_, fun op => ?_⟩
    · rw [Value.toTerm, ht]
      rfl
    · obtain ⟨c, hc, hmatch⟩ := termClause?_datetime field.name op t.render
      refine ⟨c, hc, fun doc x hdoc hx => ?_⟩
      cases hx with
      | string s => exact ⟨_, rfl, hmatch doc s hdoc⟩

/-- All comparisons with a value that has an order compile, and in a document with one value they
match as the order of this value to the term says. -/
theorem compile_ordered (hfield : r.resolve property = .ok field)
    (hvalue : value.OrdersIn field.kind) :
    ∃ term, value.toTerm field.kind = .ok term ∧ ∃ clauses : Comparison → List Clause,
      (∀ op, (Predicate.comparison property op value).compile r = .ok (clauses op)) ∧
      ∀ doc x, fieldValues doc field.name = [x] → x.OrdersIn field.kind →
        ∃ order, compareValues x term = some order ∧
          ∀ op, allMatch doc (clauses op) = op.accepts order := by
  obtain ⟨term, hterm, hclauses⟩ := exists_termClause_ordered hvalue
  choose clause hclause hmatch using hclauses
  refine ⟨term, hterm, fun op => [.allOf [clause op]], fun op => ?_, fun doc x hdoc hx => ?_⟩
  · exact compile_comparison_of_term hfield hterm (hclause op)
  · obtain ⟨order, horder, -⟩ := hmatch .eq doc x hdoc hx
    refine ⟨order, horder, fun op => ?_⟩
    obtain ⟨order', horder', hop⟩ := hmatch op doc x hdoc hx
    rw [horder, Option.some.injEq] at horder'
    subst horder'
    simpa using hop

theorem compile_ordered_of_term (hfield : r.resolve property = .ok field)
    (hvalue : value.OrdersIn field.kind) (hterm : value.toTerm field.kind = .ok term) :
    ∃ clauses : Comparison → List Clause,
      (∀ op, (Predicate.comparison property op value).compile r = .ok (clauses op)) ∧
      ∀ doc x, fieldValues doc field.name = [x] → x.OrdersIn field.kind →
        ∃ order, compareValues x term = some order ∧
          ∀ op, allMatch doc (clauses op) = op.accepts order := by
  obtain ⟨term', hterm', h⟩ := compile_ordered hfield hvalue
  rw [hterm, Except.ok.injEq] at hterm'
  subst hterm'
  exact h

end Compilation

open Compilation

/-- The comparisons of a numeric field with a finite number fit together in every document with one
number in the field, and those of a field of instants with whatever names an instant in every
document with one text. -/
theorem comparisons_cohere {r : Resolver} {property : String} {field : ResolvedField}
    {value : Value} (hfield : r.resolve property = .ok field)
    (hvalue : value.OrdersIn field.kind) :
    ∃ clauses : Comparison → List Clause,
      (∀ op, (Predicate.comparison property op value).compile r = .ok (clauses op)) ∧
      ∀ doc x, fieldValues doc field.name = [x] → x.OrdersIn field.kind →
        IsCoherent fun op => allMatch doc (clauses op) := by
  obtain ⟨term, -, clauses, hclauses, hmatch⟩ := compile_ordered hfield hvalue
  refine ⟨clauses, hclauses, fun doc x hdoc hx => ?_⟩
  obtain ⟨order, -, hop⟩ := hmatch doc x hdoc hx
  simp only [hop]
  exact isCoherent_accepts order

/-- An index of tickets with an age and a date. -/
def datedIndex : IndexDeclaration where
  name := "tickets"
  fields := [("Age", { type := .numeric }), ("CreatedAt", { type := .datetime })]

/-- An age is compared with a number, and a date that is no instant with a count of seconds. -/
theorem comparisons_cohere_ticket :
    let r := datedIndex.resolver
    let old := Json.object [("age", .int 5)]
    let undated := Json.object [("createdAt", .string "soon")]
    r.resolve "Age" = .ok ⟨"age", .numeric⟩ ∧
    r.resolve "CreatedAt" = .ok ⟨"createdAt", .datetime⟩ ∧
    (∃ clauses : Comparison → List Clause,
      (∀ op, (Predicate.comparison "Age" op (.signed 3)).compile r = .ok (clauses op)) ∧
      IsCoherent fun op => allMatch old (clauses op)) ∧
    ∃ clauses : Comparison → List Clause,
      (∀ op, (Predicate.comparison "CreatedAt" op (.unsigned 0)).compile r = .ok (clauses op)) ∧
      IsCoherent fun op => allMatch undated (clauses op) := by
  intro r old undated
  have hage : r.resolve "Age" = .ok ⟨"age", .numeric⟩ := by decide
  have hcreated : r.resolve "CreatedAt" = .ok ⟨"createdAt", .datetime⟩ := by decide
  have hold : fieldValues old "age" = [.int 5] := by rfl
  have hundated : fieldValues undated "createdAt" = [.string "soon"] :=
    fieldValues_only_entry (by decide) "soon"
  have hzero : (Value.unsigned 0).toInstant = .ok ⟨0, 0⟩ := by rfl
  obtain ⟨ages, hages, hcohere⟩ := comparisons_cohere hage (.signed 3)
  obtain ⟨dates, hdates, hcohere'⟩ := comparisons_cohere hcreated (.instant hzero)
  exact ⟨hage, hcreated, ⟨ages, hages, hcohere old _ hold (.number (.integer 5))⟩,
    dates, hdates, hcohere' undated _ hundated (.string "soon")⟩

end DocQuery
