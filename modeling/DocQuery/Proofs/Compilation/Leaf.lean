import DocQuery.Proofs.Compilation.Conjunction
import DocQuery.Proofs.Document.Matching
import DocQuery.Proofs.Predicate.Normal

/-
  What the clauses of leaves match.
  Only fields of truth values can be compared with a truth value. A negated leaf of that kind is
  turned round into one that matches exactly the other documents, as long as the field holds one
  truth value (`isMatch_flipped`). Turned round or not, it fails for the same reason
  (`comparisonClause_truth`).
-/

namespace DocQuery

/-- The property that a leaf tests for a truth value, and this value. -/
def Predicate.truthTest? : Predicate → Option (String × Bool)
  | flag property => some (property, true)
  | comparison property .eq (.bool b) => some (property, b)
  | comparison property .ne (.bool b) => some (property, !b)
  | _ => none

/-- A predicate that compiles and matches a document. -/
def Predicate.Finds (p : Predicate) (r : Resolver) (doc : Json) : Prop :=
  ∃ cs, p.compile r = .ok cs ∧ Document.allMatch doc cs = true

theorem Predicate.finds_iff {p : Predicate} {r : Resolver} {cs : List Clause}
    (h : p.compile r = .ok cs) (doc : Json) : p.Finds r doc ↔ Document.allMatch doc cs = true := by
  simp [Finds, h]

namespace Compilation

open Document

variable {r : Resolver}

/-! ## Compiling one leaf -/

theorem conj_of_isLeaf {p : Predicate} (hp : p.isLeaf = true) :
    conj r p = do return [← leafClause r p] := by
  cases p with
  | and _ _ | or _ _ | not _ | constant _ | boolComparison _ _ _ => cases hp
  | _ => rw [conj] <;> simp

/-- A leaf that folding leaves as it is compiles to a group of its clause. -/
theorem compile_of_isLeaf {p : Predicate} (hnormal : p.isNormal = true) (hp : p.isLeaf = true) :
    p.compile r = do return [.allOf [← leafClause r p]] := by
  rw [p.compile_eq, (p.normalize_leaf hnormal hp).1, ok_bind, Folded.clauses, conj_of_isLeaf hp]
  simp

/-- Only leaves have clauses of their own, and of these all but calls. -/
theorem isLeaf_of_leafClause {p : Predicate} {c : Clause} (h : leafClause r p = .ok c) :
    p.isNormal = true ∧ p.isLeaf = true := by
  cases p with
  | and _ _ | or _ _ | not _ | constant _ | boolComparison _ _ _ | call _ _ _ => cases h
  | _ => exact ⟨rfl, rfl⟩

theorem conj_leaf {p : Predicate} {c : Clause} (h : leafClause r p = .ok c) :
    conj r p = .ok [c] := by
  rw [conj_of_isLeaf (isLeaf_of_leafClause h).2, h]
  rfl

/-- A leaf that has a clause compiles to a group of this clause. -/
theorem compile_leaf {p : Predicate} {c : Clause} (h : leafClause r p = .ok c) :
    p.isLeaf = true ∧ p.compile r = .ok [.allOf [c]] := by
  obtain ⟨hnormal, hleaf⟩ := isLeaf_of_leafClause h
  refine ⟨hleaf, ?_⟩
  rw [compile_of_isLeaf hnormal hleaf, h]
  rfl

theorem isMatch_group (doc : Json) (cs : List Clause) :
    isMatch doc (group cs) = allMatch doc cs := by
  match cs with
  | [] => simp [group]
  | [c] => simp [group]
  | _ :: _ :: _ => simp [group]

/-! ## Comparisons with truth values -/

theorem toTerm_bool {b : Bool} {kind : FieldKind} {term : Json} :
    (Value.bool b).toTerm kind = .ok term ↔ kind = .boolean ∧ term = .bool b := by
  cases kind with
  | boolean => simp [Value.toTerm, eq_comm]
  | datetime => simp [Value.toTerm, Value.toInstant]
  | enumeration representation members => simp [Value.toTerm, Value.toMember]
  | _ => simp [Value.toTerm]

/-- A comparison with a truth value asks a boolean field for a truth value. -/
theorem comparisonClause_bool {property : String} {op : Comparison} {b : Bool} {c : Clause} :
    comparisonClause r property op (.bool b) = .ok c ↔
      ∃ field, r.resolve property = .ok field ∧ field.kind = .boolean ∧
        ((op = .eq ∧ c = .allOf [.term field.name (.bool b)]) ∨
          (op = .ne ∧ c = .allOf [.term field.name (.bool !b)])) := by
  constructor
  · intro h
    unfold comparisonClause at h
    obtain ⟨field, hfield, h⟩ := bind_eq_ok.1 h
    obtain ⟨term, hterm, h⟩ := bind_eq_ok.1 h
    have hterm : field.kind = .boolean ∧ term = .bool b := by
      unfold coerce at hterm
      split at hterm
      · next e =>
        cases hterm
        exact toTerm_bool.1 e
      · cases hterm
    obtain ⟨hkind, rfl⟩ := hterm
    refine ⟨field, hfield, hkind, ?_⟩
    rw [hkind] at h
    cases op with
    | eq => exact Or.inl ⟨rfl, (pure_eq_ok.1 h).symm⟩
    | ne => exact Or.inr ⟨rfl, (pure_eq_ok.1 h).symm⟩
    | _ => cases h
  · rintro ⟨field, hfield, hkind, ⟨rfl, rfl⟩ | ⟨rfl, rfl⟩⟩
    · unfold comparisonClause
      rw [hfield, ok_bind, hkind]
      rfl
    · unfold comparisonClause
      rw [hfield, ok_bind, hkind]
      rfl

theorem valuesEqual_bool {v : Json} {b : Bool} : valuesEqual v (.bool b) = true ↔ v = .bool b := by
  cases v <;> simp [valuesEqual, Json.same]

/-- A document may hold both truth values in a field, or none. -/
theorem isMatch_boolTerm_iff {doc : Json} {field : String} {b : Bool} :
    isMatch doc (.allOf [.term field (.bool b)]) = true ↔ .bool b ∈ fieldValues doc field := by
  simp [isMatch, someValue, valuesEqual_bool]

theorem isMatch_boolTerm {doc : Json} {field : String} {v : Bool}
    (hv : fieldValues doc field = [.bool v]) (b : Bool) :
    isMatch doc (.allOf [.term field (.bool b)]) = (v == b) := by
  rw [Bool.eq_iff_iff, isMatch_boolTerm_iff, hv, List.mem_singleton, Json.bool.injEq, beq_iff_eq]
  exact eq_comm

/-- Turning a leaf round turns the truth value round that it asks for. -/
theorem flipped?_eq_some {x : Predicate} {property : String} {op : Comparison} {value : Value}
    (h : flipped? x = some (property, op, value)) :
    ∃ t, value = .bool !t ∧ leafClause r x = comparisonClause r property op (.bool t) ∧
      property ∈ x.properties := by
  unfold flipped? at h
  split at h
  · cases h
    exact ⟨true, rfl, rfl, by simp [Predicate.properties]⟩
  · cases h
    exact ⟨_, rfl, rfl, by simp [Predicate.properties]⟩
  · cases h
    exact ⟨_, rfl, rfl, by simp [Predicate.properties]⟩
  · cases h

/-- Every boolean field of some properties holds exactly one truth value. -/
def HoldsTruthValues (r : Resolver) (doc : Json) (properties : List String) : Prop :=
  ∀ property ∈ properties, ∀ field, r.resolve property = .ok field → field.kind = .boolean →
    ∃ v, fieldValues doc field.name = [.bool v]

/-- A leaf that is turned round has a clause itself, and the two match opposite documents. -/
theorem isMatch_flipped {x : Predicate} {property : String} {op : Comparison} {value : Value}
    {c : Clause} {doc : Json} (h : flipped? x = some (property, op, value))
    (hc : comparisonClause r property op value = .ok c)
    (hdoc : HoldsTruthValues r doc x.properties) :
    ∃ d, leafClause r x = .ok d ∧ isMatch doc c = !isMatch doc d := by
  obtain ⟨t, rfl, hleaf, hproperty⟩ := flipped?_eq_some (r := r) h
  obtain ⟨field, hfield, hkind, hop⟩ := comparisonClause_bool.1 hc
  obtain ⟨v, hv⟩ := hdoc property hproperty field hfield hkind
  rw [hleaf]
  rcases hop with ⟨rfl, rfl⟩ | ⟨rfl, rfl⟩
  · refine ⟨_, comparisonClause_bool.2 ⟨field, hfield, hkind, Or.inl ⟨rfl, rfl⟩⟩, ?_⟩
    rw [isMatch_boolTerm hv, isMatch_boolTerm hv]
    cases v <;> cases t <;> rfl
  · refine ⟨_, comparisonClause_bool.2 ⟨field, hfield, hkind, Or.inr ⟨rfl, rfl⟩⟩, ?_⟩
    rw [isMatch_boolTerm hv, isMatch_boolTerm hv]
    cases v <;> cases t <;> rfl

/-! ## Reasons against comparisons with truth values -/

/-- Why a truth value does not fit a field does not depend on the value. -/
theorem toTerm_bool_of_ne_boolean {kind : FieldKind} (h : kind ≠ .boolean) :
    ∃ reason, ∀ b, (Value.bool b).toTerm kind = .error reason := by
  cases kind with
  | boolean => exact absurd rfl h
  | datetime => exact ⟨.notDatetime .bool, fun _ => rfl⟩
  | text => exact ⟨.mismatch .bool .text, fun _ => rfl⟩
  | identifier => exact ⟨.mismatch .bool .identifier, fun _ => rfl⟩
  | numeric => exact ⟨.mismatch .bool .numeric, fun _ => rfl⟩
  | enumeration representation members => exact ⟨.mismatch .bool .enumeration, fun _ => rfl⟩

/-- Comparing a property to one truth value or to the other fails for the same reason, or asks its
field for one of the two. -/
theorem comparisonClause_truth (r : Resolver) (property : String) :
    (∃ cause, ∀ b, comparisonClause r property .eq (.bool b) = .error cause ∧
      comparisonClause r property .ne (.bool b) = .error cause) ∨
    ∃ field, r.resolve property = .ok field ∧ ∀ b,
      comparisonClause r property .eq (.bool b) = .ok (.allOf [.term field.name (.bool b)]) ∧
      comparisonClause r property .ne (.bool b) = .ok (.allOf [.term field.name (.bool !b)]) := by
  cases hfield : r.resolve property with
  | error cause =>
    refine Or.inl ⟨cause, fun b => ?_⟩
    simp [comparisonClause, hfield]
  | ok field =>
    by_cases hkind : field.kind = .boolean
    · refine Or.inr ⟨field, rfl, fun b => ⟨?_, ?_⟩⟩
      · exact comparisonClause_bool.2 ⟨field, hfield, hkind, Or.inl ⟨rfl, rfl⟩⟩
      · exact comparisonClause_bool.2 ⟨field, hfield, hkind, Or.inr ⟨rfl, rfl⟩⟩
    · obtain ⟨reason, hreason⟩ := toTerm_bool_of_ne_boolean hkind
      refine Or.inl ⟨.invalidValue property reason, fun b => ?_⟩
      simp [comparisonClause, hfield, Value.isNull, coerce, hreason]

theorem comparisonClause_ne_bool (r : Resolver) (property : String) (b : Bool) :
    comparisonClause r property .ne (.bool b) = comparisonClause r property .eq (.bool !b) := by
  rcases comparisonClause_truth r property with ⟨cause, h⟩ | ⟨field, -, h⟩
  · rw [(h b).2, (h !b).1]
  · rw [(h b).2, (h !b).1]

theorem errorOf?_comparisonClause_bool (r : Resolver) (property : String) (b : Bool) :
    errorOf? (comparisonClause r property .eq (.bool !b)) =
      errorOf? (comparisonClause r property .eq (.bool b)) := by
  rcases comparisonClause_truth r property with ⟨cause, h⟩ | ⟨field, -, h⟩
  · rw [(h b).1, (h !b).1]
  · rw [(h b).1, (h !b).1, errorOf?_ok, errorOf?_ok]

/-! ## Leaves that test for a truth value -/

theorem flipped?_eq_none {x : Predicate} (h : x.truthTest? = none) : flipped? x = none := by
  unfold Predicate.truthTest? at h
  split at h <;> simp_all [flipped?]

theorem leafClause_truthTest {x : Predicate} {property : String} {t : Bool}
    (h : x.truthTest? = some (property, t)) :
    leafClause r x = comparisonClause r property .eq (.bool t) := by
  unfold Predicate.truthTest? at h
  split at h
  · cases h; rfl
  · cases h; rfl
  · cases h; exact comparisonClause_ne_bool r _ _
  · cases h

/-- The clauses of a leaf that tests for a truth value, and those of its negation. -/
theorem conj_truthTest {x : Predicate} {property : String} {t : Bool}
    (h : x.truthTest? = some (property, t)) :
    conj r x = (do return [← comparisonClause r property .eq (.bool t)]) ∧
      conj r (.not x) = do return [← comparisonClause r property .eq (.bool !t)] := by
  rw [← leafClause_truthTest h]
  unfold Predicate.truthTest? at h
  split at h
  · cases h
    exact ⟨by rw [conj] <;> simp, by rw [conj]; rfl⟩
  · cases h
    exact ⟨by rw [conj] <;> simp, by rw [conj]; rfl⟩
  · cases h
    refine ⟨by rw [conj] <;> simp, ?_⟩
    rw [conj, leafClause, comparisonClause_ne_bool]
  · cases h

end Compilation

end DocQuery
