import DocQuery.Proofs.Compilation.Ordering
import DocQuery.Proofs.Compilation.Term
import DocQuery.Proofs.Number.Rounding

/-
  Comparing with integers.
  A numeric field is compared by floating-point values, and a document with an integer is found as
  the rounded integers say (`integers_compared`): in their own order, unless rounding makes them the
  same. That happens from 2 ^ 53 on, where equality and membership find a neighbour
  (`neighbour_found_ticket`).
-/

namespace DocQuery

open Document

namespace Compilation

variable {index : IndexDeclaration} {property : String} {field : ResolvedField} {x : Value}
  {b : Int}

theorem ordersIn_of_isInteger (hx : x.IsInteger b) : x.OrdersIn .numeric := by
  cases hx with
  | signed => exact .signed b
  | unsigned => exact .unsigned _

theorem compile_integers (hfield : index.resolve property = .ok field)
    (hkind : field.kind = .numeric) (hx : x.IsInteger b) :
    ∃ clauses : Comparison → List Clause, ∃ isIn,
      (∀ op, (Predicate.comparison property op x).compile index.resolver = .ok (clauses op)) ∧
      (Predicate.membership property [x]).compile index.resolver = .ok isIn ∧
      ∀ doc a, fieldValues doc field.name = [.int a] → ∃ order,
        order = compare (Number.integer a).value (Number.integer b).value ∧
        (∀ op, allMatch doc (clauses op) = op.accepts order) ∧
        (allMatch doc isIn = true ↔ order = .eq ∧ index.FormsReadAlike property) := by
  obtain ⟨exactName, hexact⟩ := IndexDeclaration.exists_resolveVariant_exact hfield
  have hterm : x.toTerm field.kind = .ok (.int b) := by
    rw [hkind]
    exact Value.toTerm_of_isInteger hx
  have horders : x.OrdersIn field.kind := by
    rw [hkind]
    exact ordersIn_of_isInteger hx
  obtain ⟨clauses, hclauses, hmatch⟩ :=
    compile_ordered_of_term (r := index.resolver) hfield horders hterm
  obtain ⟨isIn, hisIn, hmember⟩ := compile_membership_of_terms (r := index.resolver) hfield hexact
    (List.forall_mem_singleton.2 ⟨_, hterm⟩)
  refine ⟨clauses, isIn, hclauses, hisIn, fun doc a hdoc => ?_⟩
  have hnumber : (Json.int a).OrdersIn field.kind := by
    rw [hkind]
    exact .number (.integer a)
  obtain ⟨order, horder, hop⟩ := hmatch doc _ hdoc hnumber
  cases horder
  refine ⟨_, rfl, hop, ?_⟩
  rw [hmember doc, IndexDeclaration.exists_fieldValues_exact hfield hexact
    (by simp [hdoc, Json.int, Json.entries?]), hdoc]
  simp [hterm, Json.int, valuesEqual, and_comm]

end Compilation

open Compilation

/-- Comparing a numeric field that holds an integer with an integer compares the two rounded to 53
significant bits, and a membership finds the integer as equality does if its untokenised form is
read at the place of the field, which is so in every valid index. So comparisons follow the order of
the integers, or find them equal; and they follow it whenever the two are told apart. -/
theorem integers_compared {index : IndexDeclaration} {property : String} {field : ResolvedField}
    (hfield : index.resolve property = .ok field) (hkind : field.kind = .numeric) {x : Value}
    {b : Int} (hx : x.IsInteger b) :
    ∃ clauses : Comparison → List Clause, ∃ isIn,
      (∀ op, (Predicate.comparison property op x).compile index.resolver = .ok (clauses op)) ∧
      (Predicate.membership property [x]).compile index.resolver = .ok isIn ∧
      (index.validate = .ok () → index.FormsReadAlike property) ∧
      ∀ doc a, fieldValues doc field.name = [.int a] → ∃ order,
        order = compare (Number.integer a).value (Number.integer b).value ∧
        (∀ op, allMatch doc (clauses op) = op.accepts order) ∧
        (allMatch doc isIn = true ↔ order = .eq ∧ index.FormsReadAlike property) ∧
        (order = compare a b ∨ order = .eq) ∧
        (AreToldApart a b → order = compare a b) := by
  obtain ⟨clauses, isIn, hclauses, hisIn, hmatch⟩ := compile_integers hfield hkind hx
  have hvalid : index.validate = .ok () → index.FormsReadAlike property := fun h =>
    IndexDeclaration.formsReadAlike_of_validate h hfield (by simp [hkind, FieldKind.type])
      (by simp [hkind, FieldKind.type])
  refine ⟨clauses, isIn, hclauses, hisIn, hvalid, fun doc a hdoc => ?_⟩
  obtain ⟨_, rfl, hop, hmember⟩ := hmatch doc a hdoc
  exact ⟨_, rfl, hop, hmember, Number.compare_value_integer a b,
    Number.compare_value_of_areToldApart⟩

/-- An age that rounding changes is still told apart from a small one. -/
theorem integers_compared_ticket :
    let r := datedIndex.resolver
    let old := Json.object [("age", .int (-9007199254740993))]
    datedIndex.resolve "Age" = .ok ⟨"age", .numeric⟩ ∧ fieldValues old "age" =
      [.int (-9007199254740993)] ∧ ∃ clauses : Comparison → List Clause, ∃ isIn,
        (∀ op, (Predicate.comparison "Age" op (.unsigned 7)).compile r = .ok (clauses op)) ∧
        (Predicate.membership "Age" [.unsigned 7]).compile r = .ok isIn ∧
        [clauses .lt, clauses .eq, clauses .gt, isIn].map (allMatch old) =
          [true, false, false, false] := by
  intro r old
  have hage : datedIndex.resolve "Age" = .ok ⟨"age", .numeric⟩ := by decide
  have hold : fieldValues old "age" = [.int (-9007199254740993)] := by rfl
  obtain ⟨clauses, isIn, hclauses, hisIn, -, hmatch⟩ :=
    integers_compared hage rfl (.unsigned (n := 7) rfl)
  obtain ⟨order, -, hop, hmember, -, horder⟩ := hmatch old _ hold
  have hlt : order = .lt := horder (Or.inr (Or.inr (by decide)))
  have hisIn' : allMatch old isIn = false := by
    rw [Bool.eq_false_iff, Ne, hmember, hlt]
    simp
  refine ⟨hage, hold, clauses, isIn, hclauses, hisIn, ?_⟩
  simp [hop, hlt, hisIn', Comparison.accepts]

/-- Two ages that differ by one are the same once they are rounded. -/
theorem neighbour_found_ticket :
    let r := datedIndex.resolver
    let old := Json.object [("age", .int 9007199254740992)]
    let x := Value.unsigned 9007199254740993
    datedIndex.validate = .ok () ∧ datedIndex.resolve "Age" = .ok ⟨"age", .numeric⟩ ∧
      fieldValues old "age" = [.int 9007199254740992] ∧ ∃ lt eq isIn,
        (Predicate.comparison "Age" .lt x).compile r = .ok lt ∧
        (Predicate.comparison "Age" .eq x).compile r = .ok eq ∧
        (Predicate.membership "Age" [x]).compile r = .ok isIn ∧
        [lt, eq, isIn].map (allMatch old) = [false, true, true] := by
  intro r old x
  have hvalid : datedIndex.validate = .ok () := by decide
  have hage : datedIndex.resolve "Age" = .ok ⟨"age", .numeric⟩ := by decide
  have hold : fieldValues old "age" = [.int 9007199254740992] := by rfl
  have hvalue : (Number.integer 9007199254740992).value = (Number.integer 9007199254740993).value :=
    by decide +kernel
  obtain ⟨clauses, isIn, hclauses, hisIn, hmatch⟩ :=
    compile_integers hage rfl (.unsigned (n := 9007199254740993) rfl)
  obtain ⟨order, horder, hop, hmember⟩ := hmatch old _ hold
  have heq : order = .eq := by
    rw [horder, hvalue]
    exact Std.compare_self
  have hforms : datedIndex.FormsReadAlike "Age" :=
    IndexDeclaration.formsReadAlike_of_validate hvalid hage (by decide) (by decide)
  refine ⟨hvalid, hage, hold, _, _, isIn, hclauses .lt, hclauses .eq, hisIn, ?_⟩
  simp [hop, heq, hmember.2 ⟨heq, hforms⟩, Comparison.accepts]

end DocQuery
