import DocQuery.Proofs.Compilation.Failure

/-
  Negation of compiled predicates.
  A predicate and its negation fail for the same reason, and where they compile they match opposite
  documents, whatever the documents hold (`compile_not`). The exception are the tests of a property
  for a truth value, which are turned round instead of negated: they match opposite documents only
  where the field holds exactly one of the two values.
-/

namespace DocQuery

open Document

variable {r : Resolver}

/-- The test for a truth value that is left of a predicate, turned round if it is negated. -/
def Folded.truthTest? : Folded → Option (String × Bool)
  | condition (.not x) => x.truthTest?.map fun (property, t) => (property, !t)
  | condition p => p.truthTest?
  | _ => none

/-! ## Opposite clauses -/

/-- Some clauses and those of the negation. They match opposite documents, or each of them asks one
field for one of the two truth values. -/
def Opposed (r : Resolver) (test : Option (String × Bool)) (cs ds : List Clause) : Prop :=
  match test with
  | none => ∀ doc, allMatch doc cs = !allMatch doc ds
  | some (property, t) => ∃ field, r.resolve property = .ok field ∧ ∀ doc,
      (allMatch doc cs = true ↔ .bool t ∈ fieldValues doc field.name) ∧
      (allMatch doc ds = true ↔ .bool (!t) ∈ fieldValues doc field.name)

theorem opposed_symm {test : Option (String × Bool)} {cs ds : List Clause}
    (h : Opposed r test cs ds) :
    Opposed r (test.map fun (property, t) => (property, !t)) ds cs := by
  cases test with
  | none =>
    intro doc
    rw [h doc, Bool.not_not]
  | some test =>
    obtain ⟨property, t⟩ := test
    obtain ⟨field, hfield, hmatch⟩ := h
    refine ⟨field, hfield, fun doc => ⟨(hmatch doc).2, ?_⟩⟩
    rw [Bool.not_not]
    exact (hmatch doc).1

namespace Compilation

/-- Both ways to negate a node give opposite clauses: negating its group, or turning it round. -/
theorem conj_not_opposed {x : Predicate} {cs ds : List Clause} (hx : conj r x = .ok cs)
    (hnot : conj r (.not x) = .ok ds) : Opposed r x.truthTest? [.allOf cs] [.allOf ds] := by
  cases htest : x.truthTest? with
  | none =>
    rw [conj_not_group (flipped?_eq_none htest), hx] at hnot
    cases hnot
    intro doc
    simp [isMatch_group]
  | some test =>
    obtain ⟨property, t⟩ := test
    obtain ⟨hconj, hconjnot⟩ := conj_truthTest (r := r) htest
    rw [hconj] at hx
    rw [hconjnot] at hnot
    rcases comparisonClause_truth r property with ⟨cause, h⟩ | ⟨field, hfield, h⟩
    · rw [(h t).1] at hx
      cases hx
    · rw [(h t).1] at hx
      rw [(h !t).1] at hnot
      cases hx
      cases hnot
      refine ⟨field, hfield, fun doc => ?_⟩
      have hmatch (b : Bool) : allMatch doc [.allOf [.allOf [.term field.name (.bool b)]]] = true ↔
          .bool b ∈ fieldValues doc field.name := by
        rw [← isMatch_boolTerm_iff]
        simp
      exact ⟨hmatch t, hmatch !t⟩

end Compilation

namespace Folded

theorem leaves_negate (f : Folded) : f.negate.leaves = f.leaves := by
  cases f with
  | condition p => cases p <;> rfl
  | _ => rfl

theorem errorOf?_clauses_negate {f : Folded} (hf : f.isNormal = true) (r : Resolver) :
    errorOf? (f.negate.clauses r) = errorOf? (f.clauses r) := by
  rw [errorOf?_clauses (isNormal_negate hf), errorOf?_clauses hf, leaves_negate]

theorem clauses_negate_opposed {f : Folded} {cs ds : List Clause} (hf : f.clauses r = .ok cs)
    (hnot : f.negate.clauses r = .ok ds) : Opposed r f.truthTest? cs ds := by
  cases f with
  | always =>
    cases hf
    cases hnot
    intro doc
    simp
  | never =>
    cases hf
    cases hnot
    intro doc
    simp
  | condition p =>
    obtain ⟨xs, hxs, hcs⟩ := bind_eq_ok.1 hf
    cases pure_eq_ok.1 hcs
    rcases negate_condition p with ⟨x, rfl, hnegate⟩ | ⟨hp, hnegate⟩
    · rw [hnegate] at hnot
      obtain ⟨ys, hys, hds⟩ := bind_eq_ok.1 hnot
      cases pure_eq_ok.1 hds
      exact opposed_symm (Compilation.conj_not_opposed hys hxs)
    · rw [hnegate] at hnot
      obtain ⟨ys, hys, hds⟩ := bind_eq_ok.1 hnot
      cases pure_eq_ok.1 hds
      have htest : (condition p).truthTest? = p.truthTest? := by
        cases p with
        | not x => cases hp
        | _ => rfl
      rw [htest]
      exact Compilation.conj_not_opposed hxs hys

end Folded

/-! ## Main theorem -/

/-- A predicate and its negation fail together and for the same reason. Where they compile, every
document matches exactly one of them, unless the predicate comes down to a test for a truth value;
then each of the two matches the documents that hold the value it asks for, and a document that
holds no truth value matches neither. -/
theorem compile_not (r : Resolver) (p : Predicate) :
    (∀ cause, p.compile r = .error cause ↔ (Predicate.not p).compile r = .error cause) ∧
    ∀ f cs ds, p.normalize = .ok f → p.compile r = .ok cs →
      (Predicate.not p).compile r = .ok ds →
      (f.truthTest? = none → ∀ doc, allMatch doc cs = !allMatch doc ds) ∧
      ∀ property t, f.truthTest? = some (property, t) →
        ∃ field, r.resolve property = .ok field ∧ ∀ doc,
          (allMatch doc cs = true ↔ .bool t ∈ fieldValues doc field.name) ∧
          (allMatch doc ds = true ↔ .bool (!t) ∈ fieldValues doc field.name) ∧
          ((∀ b, .bool b ∉ fieldValues doc field.name) →
            allMatch doc cs = false ∧ allMatch doc ds = false) := by
  have hnot : (Predicate.not p).compile r =
      p.normalize >>= fun f => f.negate.clauses r := by
    rw [Predicate.compile_eq, Predicate.normalize]
    simp
  rw [hnot, p.compile_eq]
  cases hf : p.normalize with
  | error cause => simp
  | ok f =>
    simp only [ok_bind]
    constructor
    · intro cause
      rw [← errorOf?_eq_some, ← errorOf?_eq_some,
        Folded.errorOf?_clauses_negate (Predicate.isNormal_normalize hf)]
    · rintro _ cs ds ⟨⟩ hcs hds
      have h := Folded.clauses_negate_opposed hcs hds
      refine ⟨fun htest => ?_, fun property t htest => ?_⟩
      · rw [htest] at h
        exact h
      · rw [htest] at h
        obtain ⟨field, hfield, hmatch⟩ := h
        refine ⟨field, hfield, fun doc => ⟨(hmatch doc).1, (hmatch doc).2, fun hnone => ?_⟩⟩
        rw [← Bool.not_eq_true, ← Bool.not_eq_true, (hmatch doc).1, (hmatch doc).2]
        exact ⟨hnone t, hnone !t⟩

/-- A document that holds both truth values matches a test and its negation, but only one of a
disjunction and its negation. -/
theorem compile_not_ticket :
    let r := ticketIndex.resolver
    let test := Predicate.boolComparison (.flag "Done") .ne true
    let either := Predicate.or (.flag "Urgent") (.not (.flag "Done"))
    let asks (field : String) (b : Bool) : Clause := .allOf [.term field (.bool b)]
    let cs : List Clause := [.allOf [.anyOf [asks "urgent" true, asks "done" false]]]
    let ds : List Clause := [.allOf [.noneOf [.anyOf [asks "urgent" true, asks "done" false]]]]
    let doc := Json.object [("done", .array [.bool true, .null, .bool false])]
    test.compile r = .ok [.allOf [asks "done" false]] ∧
      (Predicate.not test).compile r = .ok [.allOf [asks "done" true]] ∧
      allMatch doc [.allOf [asks "done" false]] = true ∧
      allMatch doc [.allOf [asks "done" true]] = true ∧
      either.compile r = .ok cs ∧ (Predicate.not either).compile r = .ok ds ∧
      allMatch doc cs = !allMatch doc ds := by
  intro r test either asks cs ds doc
  have htest : test.compile r = .ok [.allOf [asks "done" false]] := by rfl
  have hnottest : (Predicate.not test).compile r = .ok [.allOf [asks "done" true]] := by rfl
  have heither : either.compile r = .ok cs := by rfl
  have hnoteither : (Predicate.not either).compile r = .ok ds := by rfl
  have hmatch := ((compile_not r test).2 _ _ _ rfl htest hnottest).2 "Done" false rfl
  have hopposite := ((compile_not r either).2 _ _ _ rfl heither hnoteither).1 rfl
  obtain ⟨field, hfield, hdoc⟩ := hmatch
  cases hfield
  have hvalues : fieldValues doc "done" = [.bool true, .bool false] := by rfl
  refine ⟨htest, hnottest, (hdoc doc).1.2 ?_, (hdoc doc).2.1.2 ?_, heither, hnoteither,
    hopposite doc⟩
  · exact hvalues ▸ by simp
  · exact hvalues ▸ by simp

end DocQuery
