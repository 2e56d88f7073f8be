import DocQuery.Proofs.Compilation.Association
import DocQuery.Proofs.Compilation.Duality
import DocQuery.Proofs.Compilation.Failure
import DocQuery.Proofs.Document.Fields
import DocQuery.Proofs.Json.Equality

/-
  Membership in a list of candidates.
  A membership matches the documents that have what one of its candidates asks for, and fails for
  the first candidate that does not fit the field (`compile_membership`). So it is the union of the
  memberships in the pieces of its list, and for numbers, truth values and enumerations the
  disjunction of the equalities with its candidates (`membership_is_union`). Only a declaration that
  is not valid can break the last of these (`number_missed_ticket`).
-/

namespace DocQuery

open Document

/-! ## Disjunctions of leaves -/

/-- The operands of a chain of disjunctions, from left to right, however it is nested. -/
def Predicate.disjuncts : Predicate → List Predicate
  | or left right => left.disjuncts ++ right.disjuncts
  | p => [p]

/-- A chain of disjunctions whose operands are leaves in normal form. -/
def Predicate.IsLeafChain (q : Predicate) : Prop :=
  ∀ x ∈ q.disjuncts, x.isNormal = true ∧ x.isLeaf = true

theorem Predicate.disjuncts_ne_nil (q : Predicate) : q.disjuncts ≠ [] := by
  induction q with
  | or left right ihl ihr =>
    intro h
    exact ihl (List.append_eq_nil_iff.1 h).1
  | _ => exact List.cons_ne_nil _ _

/-- The values a membership or a comparison looks for. -/
def Predicate.candidates : Predicate → List Value
  | membership _ xs => xs
  | comparison _ _ x => [x]
  | _ => []

variable {r : Resolver}

namespace Predicate

theorem isLeafChain_or {left right : Predicate} :
    (or left right).IsLeafChain ↔ left.IsLeafChain ∧ right.IsLeafChain :=
  List.forall_mem_append

theorem isLeafChain_leaf {p : Predicate} (h : p.disjuncts = [p]) :
    p.IsLeafChain ↔ p.isNormal = true ∧ p.isLeaf = true := by
  simp [IsLeafChain, h]

/-- A chain of leaves is a normal form, and its operands are its leaves. -/
theorem normalize_leafChain {q : Predicate} (h : q.IsLeafChain) :
    q.normalize = .ok (.condition q) ∧ q.leaves = q.disjuncts := by
  induction q with
  | or left right ihl ihr =>
    obtain ⟨hl, hr⟩ := isLeafChain_or.1 h
    obtain ⟨hfoldl, hleavesl⟩ := ihl hl
    obtain ⟨hfoldr, hleavesr⟩ := ihr hr
    constructor
    · simp [normalize, hfoldl, hfoldr, Folded.either, pure, Except.pure]
    · rw [leaves, disjuncts, hleavesl, hleavesr]
  | _ =>
    obtain ⟨hnormal, hleaf⟩ := (isLeafChain_leaf rfl).1 h
    exact normalize_leaf hnormal hleaf

theorem compile_leafChain {q : Predicate} (h : q.IsLeafChain) (r : Resolver) :
    q.compile r = do return [.allOf (← Compilation.conj r q)] := by
  rw [compile_eq, (normalize_leafChain h).1]
  rfl

/-- A chain of leaves fails like the first leaf that does. -/
theorem errorOf?_compile_leafChain {q : Predicate} (h : q.IsLeafChain) (r : Resolver) :
    errorOf? (q.compile r) =
      q.disjuncts.findSome? fun x => errorOf? (Compilation.leafClause r x) := by
  rw [compile_leafChain h, errorOf?_map, (Compilation.conj_disj_failByLeaf q).1,
    (normalize_leafChain h).2]

end Predicate

namespace Compilation

section

variable {doc : Json} {M : Predicate → Prop}

theorem anyMatch_disj_leaf {p : Predicate} {cs : List Clause} (hp : p.isLeaf = true)
    (h : disj r p = .ok cs) (hM : ∀ c, leafClause r p = .ok c → (isMatch doc c = true ↔ M p)) :
    anyMatch doc cs = true ↔ M p := by
  rw [disj_of_ne_or (by rintro _ _ rfl; cases hp), conj_of_isLeaf hp] at h
  simp only [bind_eq_ok, pure_eq_ok] at h
  obtain ⟨_, ⟨c, hc, rfl⟩, rfl⟩ := h
  simp [group, hM c hc]

/-- Where every leaf of a chain means something, one of its branches matches exactly if one of the
leaves holds. -/
theorem anyMatch_disj {q : Predicate} (hq : q.IsLeafChain) {cs : List Clause}
    (h : disj r q = .ok cs)
    (hM : ∀ x ∈ q.disjuncts, ∀ c, leafClause r x = .ok c → (isMatch doc c = true ↔ M x)) :
    anyMatch doc cs = true ↔ ∃ x ∈ q.disjuncts, M x := by
  induction q generalizing cs with
  | or left right ihl ihr =>
    obtain ⟨hl, hr⟩ := Predicate.isLeafChain_or.1 hq
    simp only [disj, bind_eq_ok, pure_eq_ok] at h
    obtain ⟨ds, hds, es, hes, rfl⟩ := h
    have hleft := ihl hl hds fun x hx => hM x (List.mem_append_left _ hx)
    have hright := ihr hr hes fun x hx => hM x (List.mem_append_right _ hx)
    rw [anyMatch_append, Bool.or_eq_true, hleft, hright, Predicate.disjuncts]
    simp [or_and_right, exists_or]
  | _ =>
    have hleaf := ((Predicate.isLeafChain_leaf rfl).1 hq).2
    rw [anyMatch_disj_leaf hleaf h fun c hc => hM _ (List.mem_singleton_self _) c hc]
    simp [Predicate.disjuncts]

/-- What all match as a part of a conjunction is what one matches as branches of a disjunction. -/
theorem exists_disj_of_conj (doc : Json) {q : Predicate} {cs : List Clause}
    (h : conj r q = .ok cs) :
    ∃ ds, disj r q = .ok ds ∧ anyMatch doc ds = allMatch doc cs := by
  by_cases hq : ∃ left right, q = .or left right
  · obtain ⟨left, right, rfl⟩ := hq
    rw [conj_or] at h
    obtain ⟨ds, hds, h⟩ := bind_eq_ok.1 h
    cases pure_eq_ok.1 h
    have hne := (conj_disj_ne_nil _).2 ds hds
    refine ⟨ds, hds, ?_⟩
    simp [isMatch_anyOf doc hne]
  · have hne : ∀ left right, q ≠ .or left right := fun left right e => hq ⟨left, right, e⟩
    refine ⟨[group cs], ?_, by simp [isMatch_group]⟩
    rw [disj_of_ne_or hne, h]
    rfl

theorem allMatch_leafChain {q : Predicate} (hq : q.IsLeafChain) {cs : List Clause}
    (h : q.compile r = .ok cs)
    (hM : ∀ x ∈ q.disjuncts, ∀ c, leafClause r x = .ok c → (isMatch doc c = true ↔ M x)) :
    allMatch doc cs = true ↔ ∃ x ∈ q.disjuncts, M x := by
  rw [Predicate.compile_leafChain hq] at h
  obtain ⟨must, hmust, h⟩ := bind_eq_ok.1 h
  cases pure_eq_ok.1 h
  obtain ⟨ds, hds, hmatch⟩ := exists_disj_of_conj doc hmust
  rw [← anyMatch_disj hq hds hM, hmatch]
  simp

end

/-! ## Candidates -/

/-- Why a candidate does not fit a field; null fits every field. -/
def misfit? (property : String) (kind : FieldKind) (x : Value) : Option QueryError :=
  if x.isNull then none else errorOf? (coerce property kind x)

/-- Whether a document has what a candidate asks for: no value in a field if the candidate is null,
and else a value equal to the term of the candidate, under the name of a form of the field. -/
def HasCandidate (doc : Json) (field : ResolvedField) (exactName : String) (x : Value) : Prop :=
  if x.isNull then fieldValues doc field.name = []
  else ∃ term, x.toTerm field.kind = .ok term ∧
    ∃ v ∈ fieldValues doc exactName, valuesEqual v term = true

variable {property : String} {kind : FieldKind} {field : ResolvedField} {exactName : String}
  {x : Value} {doc : Json}

theorem hasCandidate_of_null (hx : x.isNull = true) :
    HasCandidate doc field exactName x ↔ fieldValues doc field.name = [] := by
  rw [HasCandidate, if_pos hx]

theorem hasCandidate_of_term {term : Json} (hx : x.isNull = false)
    (hterm : x.toTerm field.kind = .ok term) :
    HasCandidate doc field exactName x ↔
      ∃ v ∈ fieldValues doc exactName, valuesEqual v term = true := by
  rw [HasCandidate, if_neg (by simp [hx]), hterm]
  simp

theorem misfit?_of_not_null (hx : x.isNull = false) :
    misfit? property kind x = errorOf? (coerce property kind x) := by
  rw [misfit?, if_neg (by simp [hx])]

theorem coerce_eq_ok {term : Json} :
    coerce property kind x = .ok term ↔ x.toTerm kind = .ok term := by
  unfold coerce
  cases x.toTerm kind <;> simp

theorem isNull_of_toTerm {term : Json} (hterm : x.toTerm kind = .ok term) : x.isNull = false := by
  cases x with
  | null => cases kind <;> cases hterm
  | _ => rfl

/-! ## Terms -/

theorem valuesEqual_string {v : Json} {text : String} :
    valuesEqual v (.string text) = true ↔ v = .string text := by
  cases v <;> simp [valuesEqual, Json.same]

/-- Equal terms are equal to the same values. -/
theorem valuesEqual_congr {s t : Json} (h : s.same t = true) (v : Json) :
    valuesEqual v s = valuesEqual v t := by
  have hsame : v.same s = v.same t := by
    rw [Bool.eq_iff_iff]
    constructor
    · exact fun hv => v.same_trans hv h
    · exact fun hv => v.same_trans hv (by rwa [t.same_comm])
  cases s with
  | number m =>
    cases t <;> simp [Json.same] at h
    cases v with
    | number n => simp [valuesEqual, Number.value_eq_of_same h]
    | _ => exact hsame
  | _ =>
    cases t <;> simp [Json.same] at h
    all_goals cases v <;> exact hsame

/-- Whether a value is equal to one of some terms. -/
def EqualsOne (v : Json) (terms : List Json) : Prop := ∃ t ∈ terms, valuesEqual v t = true

theorem equalsOne_push (v term : Json) (seen : List Json) :
    EqualsOne v (if seen.any (fun t => t.same term) then seen else seen ++ [term]) ↔
      EqualsOne v seen ∨ valuesEqual v term = true := by
  split
  · next hseen =>
    obtain ⟨t, ht, hsame⟩ := List.any_eq_true.1 hseen
    refine (or_iff_left_of_imp fun hterm => ⟨t, ht, ?_⟩).symm
    rw [valuesEqual_congr hsame, hterm]
  · simp [EqualsOne, or_and_right, exists_or]

/-- A value is equal to one of the distinct terms exactly if it is equal to the term of a candidate:
what is left out is equal to a term that is there. -/
theorem equalsOne_distinctTerms {xs : List Value} {seen terms : List Json}
    (h : distinctTerms property kind seen xs = .ok terms) (v : Json) :
    EqualsOne v terms ↔ EqualsOne v seen ∨ ∃ x ∈ xs, x.isNull = false ∧
      ∃ term, x.toTerm kind = .ok term ∧ valuesEqual v term = true := by
  induction xs generalizing seen with
  | nil =>
    cases h
    simp
  | cons x xs ih =>
    rw [distinctTerms] at h
    split at h
    · next hx =>
      rw [ih h]
      simp [hx]
    · next hx =>
      obtain ⟨term, hterm, h⟩ := bind_eq_ok.1 h
      rw [ih h, equalsOne_push, or_assoc]
      simp [hx, coerce_eq_ok.1 hterm]

/-- Collecting terms fails for the first candidate that does not fit. -/
theorem errorOf?_distinctTerms (seen : List Json) (xs : List Value) :
    errorOf? (distinctTerms property kind seen xs) = xs.findSome? (misfit? property kind) := by
  induction xs generalizing seen with
  | nil => rfl
  | cons x xs ih =>
    rw [distinctTerms, findSome?_cons_or, misfit?]
    split
    · rw [ih, Option.none_or]
    · cases coerce property kind x with
      | error cause => rfl
      | ok term => exact ih _

/-! ## Memberships -/

/-- The clause of a membership, given the terms of its candidates. -/
theorem membershipClause_of_resolve (hfield : r.resolve property = .ok field)
    (hexact : r.variant .exact property = .ok exactName) (xs : List Value) :
    membershipClause r property xs = do
      let terms ← distinctTerms property field.kind [] xs
      return if xs.any Value.isNull then
        .anyOf [.terms exactName terms, .noneOf [.present field.name]]
      else .terms exactName terms := by
  unfold membershipClause
  rw [hfield, ok_bind, hexact, ok_bind]
  split <;> rfl

theorem errorOf?_membershipClause (hfield : r.resolve property = .ok field)
    (hexact : r.variant .exact property = .ok exactName) (xs : List Value) :
    errorOf? (membershipClause r property xs) = xs.findSome? (misfit? property field.kind) := by
  rw [membershipClause_of_resolve hfield hexact, errorOf?_map, errorOf?_distinctTerms]

theorem isMatch_terms {name : String} {terms : List Json} :
    isMatch doc (.terms name terms) = true ↔ ∃ v ∈ fieldValues doc name, EqualsOne v terms := by
  simp [isMatch, someValue, EqualsOne]

theorem isMatch_absent {name : String} :
    isMatch doc (.noneOf [.present name]) = true ↔ fieldValues doc name = [] := by
  simp [isMatch]

/-- What candidates ask for, apart for null and the others. -/
theorem exists_hasCandidate_iff {xs : List Value} :
    (∃ x ∈ xs, HasCandidate doc field exactName x) ↔
      (∃ v ∈ fieldValues doc exactName, ∃ x ∈ xs, x.isNull = false ∧
        ∃ term, x.toTerm field.kind = .ok term ∧ valuesEqual v term = true) ∨
      (xs.any Value.isNull = true ∧ fieldValues doc field.name = []) := by
  rw [List.any_eq_true]
  constructor
  · rintro ⟨x, hx, hhas⟩
    cases hnull : x.isNull with
    | true => exact Or.inr ⟨⟨x, hx, hnull⟩, (hasCandidate_of_null hnull).1 hhas⟩
    | false =>
      rw [HasCandidate, if_neg (by simp [hnull])] at hhas
      obtain ⟨term, hterm, v, hv, hequal⟩ := hhas
      exact Or.inl ⟨v, hv, x, hx, hnull, term, hterm, hequal⟩
  · rintro (⟨v, hv, x, hx, hnull, term, hterm, hequal⟩ | ⟨⟨x, hx, hnull⟩, hempty⟩)
    · exact ⟨x, hx, (hasCandidate_of_term hnull hterm).2 ⟨v, hv, hequal⟩⟩
    · exact ⟨x, hx, (hasCandidate_of_null hnull).2 hempty⟩

theorem isMatch_membershipClause (hfield : r.resolve property = .ok field)
    (hexact : r.variant .exact property = .ok exactName) {xs : List Value} {c : Clause}
    (h : membershipClause r property xs = .ok c) :
    isMatch doc c = true ↔ ∃ x ∈ xs, HasCandidate doc field exactName x := by
  rw [membershipClause_of_resolve hfield hexact] at h
  obtain ⟨terms, hterms, h⟩ := bind_eq_ok.1 h
  have hnone (v : Json) : ¬EqualsOne v [] := by simp [EqualsOne]
  have hclause : isMatch doc (.terms exactName terms) = true ↔
      ∃ v ∈ fieldValues doc exactName, ∃ x ∈ xs, x.isNull = false ∧
        ∃ term, x.toTerm field.kind = .ok term ∧ valuesEqual v term = true := by
    simp only [isMatch_terms, equalsOne_distinctTerms hterms, hnone, false_or]
  rw [exists_hasCandidate_iff, ← hclause, ← pure_eq_ok.1 h]
  cases hnull : xs.any Value.isNull with
  | true =>
    rw [if_pos rfl, isMatch_anyOf doc (by simp), anyMatch_cons, anyMatch_cons, anyMatch_nil,
      Bool.or_false, Bool.or_eq_true, isMatch_absent]
    simp
  | false => simp

/-! ## Equalities -/

/-- Numbers, truth values and members of enumerations are compared as whole values. -/
theorem termClause?_whole {term : Json} (name : String)
    (htype : field.kind.type ∈ [FieldType.numeric, .boolean, .enumeration])
    (hterm : x.toTerm field.kind = .ok term) :
    ∃ c, termClause? name field.kind.type .eq term = some c ∧ ∀ doc,
      isMatch doc c = true ↔ ∃ v ∈ fieldValues doc name, valuesEqual v term = true := by
  cases hkind : field.kind with
  | text | identifier | datetime => simp [hkind, FieldKind.type] at htype
  | boolean =>
    rw [hkind] at hterm
    cases x with
    | bool b =>
      cases hterm
      exact ⟨_, rfl, fun doc => by simp [isMatch, someValue, termClause?.isTrue]⟩
    | _ => cases hterm
  | _ => exact ⟨_, rfl, fun doc => by simp [isMatch, someValue]⟩

theorem comparisonClause_of_null (hfield : r.resolve property = .ok field)
    (hx : x.isNull = true) :
    comparisonClause r property .eq x = .ok (.noneOf [.present field.name]) := by
  unfold comparisonClause
  rw [hfield, ok_bind, if_pos hx]
  rfl

theorem comparisonClause_of_term {op : Comparison} {term : Json} {c : Clause}
    (hfield : r.resolve property = .ok field) (hterm : x.toTerm field.kind = .ok term)
    (hc : termClause? field.name field.kind.type op term = some c) :
    comparisonClause r property op x = .ok c := by
  unfold comparisonClause
  simp only [hfield, ok_bind, isNull_of_toTerm hterm, coerce_eq_ok.2 hterm, hc]
  rfl

theorem compile_comparison_of_term {op : Comparison} {term : Json} {c : Clause}
    (hfield : r.resolve property = .ok field) (hterm : x.toTerm field.kind = .ok term)
    (hc : termClause? field.name field.kind.type op term = some c) :
    (Predicate.comparison property op x).compile r = .ok [.allOf [c]] := by
  rw [compile_comparison, comparisonClause_of_term hfield hterm hc]
  rfl

theorem comparisonClause_of_misfit {cause : QueryError} (hfield : r.resolve property = .ok field)
    (hx : x.isNull = false) (hterm : coerce property field.kind x = .error cause) :
    comparisonClause r property .eq x = .error cause := by
  unfold comparisonClause
  simp only [hfield, ok_bind, hx, hterm]
  rfl

/-- Comparing a field of whole values for equality fails only with a value that does not fit. -/
theorem errorOf?_comparisonClause_eq (hfield : r.resolve property = .ok field)
    (htype : field.kind.type ∈ [FieldType.numeric, .boolean, .enumeration]) (x : Value) :
    errorOf? (comparisonClause r property .eq x) = misfit? property field.kind x := by
  cases hnull : x.isNull with
  | true =>
    rw [comparisonClause_of_null hfield hnull, misfit?, if_pos hnull]
    rfl
  | false =>
    rw [misfit?_of_not_null hnull]
    cases hterm : coerce property field.kind x with
    | error cause =>
      rw [comparisonClause_of_misfit hfield hnull hterm]
      rfl
    | ok term =>
      have hterm' := coerce_eq_ok.1 hterm
      obtain ⟨c, hc, -⟩ := termClause?_whole field.name htype hterm'
      rw [comparisonClause_of_term hfield hterm' hc]
      rfl

theorem isMatch_comparisonClause_eq (hfield : r.resolve property = .ok field)
    (htype : field.kind.type ∈ [FieldType.numeric, .boolean, .enumeration])
    (hvalues : fieldValues doc exactName = fieldValues doc field.name) {c : Clause}
    (h : comparisonClause r property .eq x = .ok c) :
    isMatch doc c = true ↔ HasCandidate doc field exactName x := by
  cases hnull : x.isNull with
  | true =>
    rw [comparisonClause_of_null hfield hnull, Except.ok.injEq] at h
    rw [← h, isMatch_absent, hasCandidate_of_null hnull]
  | false =>
    cases hterm : coerce property field.kind x with
    | error cause =>
      rw [comparisonClause_of_misfit hfield hnull hterm] at h
      cases h
    | ok term =>
      have hterm' := coerce_eq_ok.1 hterm
      obtain ⟨d, hd, hmatch⟩ := termClause?_whole field.name htype hterm'
      rw [comparisonClause_of_term hfield hterm' hd, Except.ok.injEq] at h
      rw [← h, hmatch, hasCandidate_of_term hnull hterm', hvalues]

/-! ## Chains of tests -/

/-- A leaf that fails for the first of its candidates that does not fit a field, and else matches
the documents that have what one of them asks for. -/
structure Tests (r : Resolver) (property : String) (field : ResolvedField) (exactName : String)
    (p : Predicate) : Prop where
  isNormal : p.isNormal = true
  isLeaf : p.isLeaf = true
  fails : errorOf? (leafClause r p) = p.candidates.findSome? (misfit? property field.kind)
  matches_iff : ∀ doc c, leafClause r p = .ok c →
    (isMatch doc c = true ↔ ∃ x ∈ p.candidates, HasCandidate doc field exactName x)

theorem tests_membership (hfield : r.resolve property = .ok field)
    (hexact : r.variant .exact property = .ok exactName) (xs : List Value) :
    Tests r property field exactName (.membership property xs) where
  isNormal := rfl
  isLeaf := rfl
  fails := errorOf?_membershipClause hfield hexact xs
  matches_iff := fun _ _ h => isMatch_membershipClause hfield hexact h

/-- Equality in a field of whole values tests for the value it compares with, if the exact form of
the field is read at the place of the field. -/
theorem tests_eq (hfield : r.resolve property = .ok field)
    (htype : field.kind.type ∈ [FieldType.numeric, .boolean, .enumeration])
    (hvalues : ∀ doc, fieldValues doc exactName = fieldValues doc field.name) (x : Value) :
    Tests r property field exactName (.comparison property .eq x) where
  isNormal := rfl
  isLeaf := rfl
  fails := by
    have hclause := errorOf?_comparisonClause_eq hfield htype x
    rwa [← findSome?_singleton (misfit? property field.kind) x] at hclause
  matches_iff := by
    intro doc c h
    rw [isMatch_comparisonClause_eq hfield htype (hvalues doc) h]
    simp [Predicate.candidates]

/-- A chain of tests fails for the first candidate that does not fit, and else matches the documents
that have what one of its candidates asks for. -/
theorem compile_tests {q : Predicate} (hq : ∀ x ∈ q.disjuncts, Tests r property field exactName x) :
    errorOf? (q.compile r) =
        (q.disjuncts.flatMap Predicate.candidates).findSome? (misfit? property field.kind) ∧
      ∀ cs, q.compile r = .ok cs → ∀ doc, (allMatch doc cs = true ↔
        ∃ x ∈ q.disjuncts.flatMap Predicate.candidates, HasCandidate doc field exactName x) := by
  have hchain : q.IsLeafChain := fun x hx => ⟨(hq x hx).isNormal, (hq x hx).isLeaf⟩
  constructor
  · rw [Predicate.errorOf?_compile_leafChain hchain, findSome?_flatMap]
    exact findSome?_congr fun x hx => (hq x hx).fails
  · intro cs hcs doc
    rw [allMatch_leafChain hchain hcs fun x hx c hc => (hq x hx).matches_iff doc c hc]
    simp only [List.mem_flatMap]
    constructor
    · rintro ⟨p, hp, x, hx, hhas⟩
      exact ⟨x, ⟨p, hp, hx⟩, hhas⟩
    · rintro ⟨x, ⟨p, hp, hx⟩, hhas⟩
      exact ⟨p, hp, x, hx, hhas⟩

/-- Chains of tests for the same candidates match alike. -/
theorem matchAlike_tests {p q : Predicate}
    (hp : ∀ x ∈ p.disjuncts, Tests r property field exactName x)
    (hq : ∀ x ∈ q.disjuncts, Tests r property field exactName x)
    (h : p.disjuncts.flatMap Predicate.candidates = q.disjuncts.flatMap Predicate.candidates) :
    MatchAlike (p.compile r) (q.compile r) := by
  obtain ⟨hfailp, hmatchp⟩ := compile_tests hp
  obtain ⟨hfailq, hmatchq⟩ := compile_tests hq
  have hfail : errorOf? (p.compile r) = errorOf? (q.compile r) := by rw [hfailp, hfailq, h]
  cases hcs : p.compile r with
  | error cause =>
    rw [hcs, errorOf?_error, eq_comm, errorOf?_eq_some] at hfail
    rw [hfail]
    exact .failed cause
  | ok cs =>
    rw [hcs, errorOf?_ok, eq_comm, errorOf?_eq_none] at hfail
    obtain ⟨ds, hds⟩ := hfail
    rw [hds]
    refine .compiled fun doc => ?_
    rw [Bool.eq_iff_iff, hmatchp cs hcs doc, hmatchq ds hds doc, h]

/-- A membership fails for the first candidate that does not fit, and else matches the documents
that have what one of its candidates asks for. -/
theorem compile_membership (hfield : r.resolve property = .ok field)
    (hexact : r.variant .exact property = .ok exactName) (xs : List Value) :
    errorOf? ((Predicate.membership property xs).compile r) =
        xs.findSome? (misfit? property field.kind) ∧
      ∀ cs, (Predicate.membership property xs).compile r = .ok cs → ∀ doc,
        (allMatch doc cs = true ↔ ∃ x ∈ xs, HasCandidate doc field exactName x) := by
  have hcandidates :
      (Predicate.membership property xs).disjuncts.flatMap Predicate.candidates = xs :=
    List.append_nil xs
  have htests : ∀ x ∈ (Predicate.membership property xs).disjuncts,
      Tests r property field exactName x :=
    List.forall_mem_singleton.2 (tests_membership hfield hexact xs)
  have h := compile_tests htests
  rwa [hcandidates] at h

/-- A membership all of whose candidates have terms matches the documents that have a value equal to
one of the terms. -/
theorem compile_membership_of_terms (hfield : r.resolve property = .ok field)
    (hexact : r.variant .exact property = .ok exactName) {xs : List Value}
    (hterms : ∀ x ∈ xs, ∃ term, x.toTerm field.kind = .ok term) :
    ∃ cs, (Predicate.membership property xs).compile r = .ok cs ∧
      ∀ doc, allMatch doc cs = true ↔ ∃ v ∈ fieldValues doc exactName,
        ∃ x ∈ xs, ∃ term, x.toTerm field.kind = .ok term ∧ valuesEqual v term = true := by
  obtain ⟨hfail, hmatch⟩ := compile_membership hfield hexact xs
  have hfits : ∀ x ∈ xs, misfit? property field.kind x = none := by
    intro x hx
    obtain ⟨term, hterm⟩ := hterms x hx
    rw [misfit?_of_not_null (isNull_of_toTerm hterm), coerce_eq_ok.2 hterm, errorOf?_ok]
  rw [List.findSome?_eq_none_iff.2 hfits, errorOf?_eq_none] at hfail
  obtain ⟨cs, hcs⟩ := hfail
  refine ⟨cs, hcs, fun doc => ?_⟩
  rw [hmatch cs hcs doc, exists_hasCandidate_iff]
  have hnotnull : ∀ x ∈ xs, x.isNull = false := by
    intro x hx
    obtain ⟨term, hterm⟩ := hterms x hx
    exact isNull_of_toTerm hterm
  have hany : xs.any Value.isNull = false := by simpa using hnotnull
  constructor
  · rintro (⟨v, hv, x, hx, -, hterm⟩ | ⟨hnull, -⟩)
    · exact ⟨v, hv, x, hx, hterm⟩
    · rw [hany] at hnull
      cases hnull
  · rintro ⟨v, hv, x, hx, hterm⟩
    exact Or.inl ⟨v, hv, x, hx, hnotnull x hx, hterm⟩

/-- Memberships in a property that is not declared fail alike. -/
theorem compile_undeclared {cause : QueryError} (h : r.resolve property = .error cause)
    {q : Predicate} (hq : ∀ x ∈ q.disjuncts, ∃ xs, x = .membership property xs) :
    q.compile r = .error cause := by
  have hchain : q.IsLeafChain := by
    intro x hx
    obtain ⟨xs, rfl⟩ := hq x hx
    exact ⟨rfl, rfl⟩
  have hcause : ∀ x ∈ q.disjuncts, errorOf? (leafClause r x) = some cause := by
    intro x hx
    obtain ⟨xs, rfl⟩ := hq x hx
    change errorOf? (membershipClause r property xs) = some cause
    rw [membershipClause, h]
    rfl
  rw [← errorOf?_eq_some, Predicate.errorOf?_compile_leafChain hchain, findSome?_congr hcause]
  cases hleaves : q.disjuncts with
  | nil => exact absurd hleaves q.disjuncts_ne_nil
  | cons x rest => rfl

/-- Memberships in the pieces of a list match like the one in the whole list. -/
theorem matchAlike_pieces (index : IndexDeclaration) (property : String) (xs ys : List Value) :
    MatchAlike ((Predicate.membership property (xs ++ ys)).compile index.resolver)
      ((Predicate.or (.membership property xs) (.membership property ys)).compile
        index.resolver) := by
  have hpieces : (Predicate.or (.membership property xs) (.membership property ys)).disjuncts =
      [.membership property xs, .membership property ys] := rfl
  have hwhole : (Predicate.membership property (xs ++ ys)).disjuncts =
      [.membership property (xs ++ ys)] := rfl
  cases hfield : index.resolver.resolve property with
  | error cause =>
    rw [compile_undeclared hfield (by simp [hwhole]), compile_undeclared hfield (by simp [hpieces])]
    exact .failed cause
  | ok field =>
    obtain ⟨exactName, hexact⟩ := IndexDeclaration.exists_resolveVariant_exact hfield
    have htests := tests_membership hfield hexact
    have htestswhole := List.forall_mem_singleton.2 (htests (xs ++ ys))
    have htestspieces := List.forall_mem_cons.2
      ⟨htests xs, List.forall_mem_singleton.2 (htests ys)⟩
    refine matchAlike_tests htestswhole htestspieces ?_
    simp [hwhole, hpieces, Predicate.candidates]

/-- A membership depends on what is in its list, not on how often or in which order. -/
theorem matches_of_same_members {index : IndexDeclaration} {xs ys : List Value}
    (hsame : ∀ x, x ∈ xs ↔ x ∈ ys) {cs : List Clause}
    (hcs : (Predicate.membership property xs).compile index.resolver = .ok cs) :
    ∃ ds, (Predicate.membership property ys).compile index.resolver = .ok ds ∧
      ∀ doc, allMatch doc cs = allMatch doc ds := by
  cases hfield : index.resolver.resolve property with
  | error cause =>
    rw [compile_undeclared hfield (List.forall_mem_singleton.2 ⟨xs, rfl⟩)] at hcs
    cases hcs
  | ok field =>
    obtain ⟨exactName, hexact⟩ := IndexDeclaration.exists_resolveVariant_exact hfield
    obtain ⟨hfailx, hmatchx⟩ := compile_membership hfield hexact xs
    obtain ⟨hfaily, hmatchy⟩ := compile_membership hfield hexact ys
    have hfit : ∀ x ∈ xs, misfit? property field.kind x = none := by
      rwa [hcs, errorOf?_ok, eq_comm, List.findSome?_eq_none_iff] at hfailx
    have hsuccess :
        errorOf? ((Predicate.membership property ys).compile index.resolver) = none := by
      rw [hfaily, List.findSome?_eq_none_iff]
      exact fun y hy => hfit y ((hsame y).2 hy)
    obtain ⟨ds, hds⟩ := errorOf?_eq_none.1 hsuccess
    refine ⟨ds, hds, fun doc => ?_⟩
    rw [Bool.eq_iff_iff, hmatchx cs hcs, hmatchy ds hds]
    simp only [hsame]

theorem not_matches_of_no_candidates {index : IndexDeclaration}
    (hfield : index.resolver.resolve property = .ok field) :
    ∃ cs, (Predicate.membership property []).compile index.resolver = .ok cs ∧
      ∀ doc, allMatch doc cs = false := by
  obtain ⟨exactName, hexact⟩ := IndexDeclaration.exists_resolveVariant_exact hfield
  obtain ⟨hfail, hmatch⟩ := compile_membership hfield hexact []
  obtain ⟨cs, hcs⟩ := errorOf?_eq_none.1 hfail
  refine ⟨cs, hcs, fun doc => ?_⟩
  rw [Bool.eq_false_iff, Ne, hmatch cs hcs doc]
  simp

/-- The candidates of a chain of equalities are the values it compares with. -/
theorem candidates_equalities {xs : List Value} {q : Predicate}
    (hq : q.disjuncts = xs.map (Predicate.comparison property .eq)) :
    q.disjuncts.flatMap Predicate.candidates = xs := by
  rw [hq, List.flatMap_map]
  simp [Predicate.candidates]

theorem tests_equalities (hfield : r.resolve property = .ok field)
    (htype : field.kind.type ∈ [FieldType.numeric, .boolean, .enumeration])
    (hvalues : ∀ doc, fieldValues doc exactName = fieldValues doc field.name) {xs : List Value}
    {q : Predicate} (hq : q.disjuncts = xs.map (Predicate.comparison property .eq)) :
    ∀ p ∈ q.disjuncts, Tests r property field exactName p := by
  rw [hq]
  intro p hp
  obtain ⟨x, -, rfl⟩ := List.mem_map.1 hp
  exact tests_eq hfield htype hvalues x

/-- In a field of whole values a membership fails like the equalities with its candidates, wherever
its exact form is read. -/
theorem errorOf?_equalities {index : IndexDeclaration}
    (hfield : index.resolver.resolve property = .ok field)
    (htype : field.kind.type ∈ [FieldType.numeric, .boolean, .enumeration]) {xs : List Value}
    {q : Predicate} (hq : q.disjuncts = xs.map (Predicate.comparison property .eq)) :
    errorOf? ((Predicate.membership property xs).compile index.resolver) =
      errorOf? (q.compile index.resolver) := by
  obtain ⟨exactName, hexact⟩ := IndexDeclaration.exists_resolveVariant_exact hfield
  obtain ⟨hmembership, -⟩ := compile_membership hfield hexact xs
  obtain ⟨hequalities, -⟩ := compile_tests (tests_equalities hfield htype (fun _ => rfl) hq)
  rw [hmembership, hequalities, candidates_equalities hq]

/-- In a field of whole values that is read at the place of its exact form a membership matches like
the equalities with its candidates. -/
theorem matchAlike_equalities {index : IndexDeclaration}
    (hfield : index.resolver.resolve property = .ok field)
    (htype : field.kind.type ∈ [FieldType.numeric, .boolean, .enumeration])
    (hforms : index.FormsReadAlike property) {xs : List Value} {q : Predicate}
    (hq : q.disjuncts = xs.map (Predicate.comparison property .eq)) :
    MatchAlike ((Predicate.membership property xs).compile index.resolver)
      (q.compile index.resolver) := by
  obtain ⟨exactName, hexact⟩ := IndexDeclaration.exists_resolveVariant_exact hfield
  have hvalues := IndexDeclaration.fieldValues_exact hfield hexact hforms
  have hmembership := List.forall_mem_singleton.2 (tests_membership hfield hexact xs)
  refine matchAlike_tests hmembership (tests_equalities hfield htype hvalues hq) ?_
  rw [candidates_equalities hq]
  exact List.append_nil xs

end Compilation

/-! ## Main theorem -/

open Compilation

/-- A membership matches the documents that have what one of its candidates asks for, whatever their
order and however often they stand in the list: it matches like the memberships in two pieces of the
list together, and an empty one matches nothing. For numbers, truth values and enumerations it fails
like the equalities with its candidates together. It also matches like them if the field has no
untokenised form or is read at the place of it, which holds in every valid declaration. -/
theorem membership_is_union (index : IndexDeclaration) (property : String) :
    let r := index.resolver
    let isIn := Predicate.membership property
    let equals := Predicate.comparison property .eq
    (∀ xs ys,
      MatchAlike ((isIn (xs ++ ys)).compile r) ((Predicate.or (isIn xs) (isIn ys)).compile r)) ∧
    (∀ xs ys, (∀ x, x ∈ xs ↔ x ∈ ys) → ∀ cs, (isIn xs).compile r = .ok cs →
      ∃ ds, (isIn ys).compile r = .ok ds ∧ ∀ doc, allMatch doc cs = allMatch doc ds) ∧
    (∀ field, r.resolve property = .ok field →
      ∃ cs, (isIn []).compile r = .ok cs ∧ ∀ doc, allMatch doc cs = false) ∧
    ∀ field, r.resolve property = .ok field →
      field.kind.type ∈ [FieldType.numeric, .boolean, .enumeration] →
      (index.validate = .ok () → index.FormsReadAlike property) ∧
      ∀ (xs : List Value) (q : Predicate), q.disjuncts = xs.map equals →
        errorOf? ((isIn xs).compile r) = errorOf? (q.compile r) ∧
        (index.FormsReadAlike property → MatchAlike ((isIn xs).compile r) (q.compile r)) := by
  intro r isIn equals
  refine ⟨matchAlike_pieces index property, fun xs ys hsame cs => matches_of_same_members hsame,
    fun field => not_matches_of_no_candidates, ?_⟩
  intro field hfield htype
  have htext : field.kind.type ≠ .text := fun h => by simp [h] at htype
  have hidentifier : field.kind.type ≠ .identifier := fun h => by simp [h] at htype
  refine ⟨fun hvalid => ?_, fun xs q hq => ⟨?_, fun hforms => ?_⟩⟩
  · exact IndexDeclaration.formsReadAlike_of_validate hvalid hfield htext hidentifier
  · exact errorOf?_equalities hfield htype hq
  · exact matchAlike_equalities hfield htype hforms hq

/-- An index of tickets of two levels. -/
def levelIndex : IndexDeclaration where
  name := "tickets"
  fields := [("Level", .ofMembers .names [("Low", 1), ("High", 2)])]

theorem membership_is_union_level :
    let r := levelIndex.resolver
    let isIn := Predicate.membership "Level"
    let equals := Predicate.comparison "Level" .eq
    let low := Value.text "Low"
    let one := Value.unsigned 1
    let cs := [Clause.allOf
      [.anyOf [.terms "level" [.string "Low"], .noneOf [.present "level"]]]]
    (isIn [low, .null, one]).compile r = .ok cs ∧
    MatchAlike (.ok cs) ((Predicate.or (isIn [low, .null]) (isIn [one])).compile r) ∧
    (∃ ds, (isIn [.null, one, low, one]).compile r = .ok ds ∧
      ∀ doc, allMatch doc cs = allMatch doc ds) ∧
    (∃ ds, (isIn []).compile r = .ok ds ∧ ∀ doc, allMatch doc ds = false) ∧
    levelIndex.validate = .ok () ∧
    MatchAlike (.ok cs)
      ((Predicate.or (equals low) (.or (equals .null) (equals one))).compile r) := by
  intro r isIn equals low one cs
  have hcs : (isIn [low, .null, one]).compile r = .ok cs := by rfl
  obtain ⟨hpieces, hmembers, hempty, hequalities⟩ := membership_is_union levelIndex "Level"
  have hvalid : levelIndex.validate = .ok () := by rfl
  obtain ⟨hforms, hlike⟩ := hequalities _ rfl (by decide)
  have hsame (x : Value) : x ∈ [low, .null, one] ↔ x ∈ [.null, one, low, one] := by
    simp only [List.mem_cons, List.not_mem_nil, or_false]
    grind
  refine ⟨hcs, ?_, hmembers _ _ hsame cs hcs, hempty _ rfl, hvalid, ?_⟩
  · rw [← hcs]
    exact hpieces [low, .null] [one]
  · rw [← hcs]
    exact (hlike [low, .null, one] _ rfl).2 (hforms hvalid)

/-- A declaration of a number with an untokenised form, under a name that ends like one. -/
def strayIndex : IndexDeclaration where
  name := "tickets"
  fields := [("Age", .renamed (.withKeyword { type := .numeric }) "age.keyword")]

/-- Equality finds the number and a membership does not. The declaration is not valid. -/
theorem number_missed_ticket :
    let r := strayIndex.resolver
    let isIn := Predicate.membership "Age" [.unsigned 5]
    let equals := Predicate.comparison "Age" .eq (.unsigned 5)
    let doc := Json.object [("age", .int 5)]
    strayIndex.validate =
        .error (.invalidSchema (.rejectedFields ["Age (keyword on a non-text field)"])) ∧
      r.resolve "Age" = .ok ⟨"age.keyword", .numeric⟩ ∧
      (∃ cs ds, isIn.compile r = .ok cs ∧ equals.compile r = .ok ds ∧
        allMatch doc cs = false ∧ allMatch doc ds = true) ∧
      ¬MatchAlike (isIn.compile r) (equals.compile r) := by
  intro r isIn equals doc
  have hcs : isIn.compile r = .ok [.allOf [.terms "age.keyword.keyword" [.int 5]]] := by rfl
  have hds : equals.compile r =
      .ok [.allOf [.allOf [.term "age.keyword" (.int 5)]]] := by rfl
  have hmissed : allMatch doc [.allOf [.terms "age.keyword.keyword" [.int 5]]] = false := by decide
  have hfound : allMatch doc [.allOf [.allOf [.term "age.keyword" (.int 5)]]] = true := by
    decide +kernel
  refine ⟨by decide +kernel, by decide, ⟨_, _, hcs, hds, hmissed, hfound⟩, fun halike => ?_⟩
  rw [hcs, hds] at halike
  cases halike with
  | compiled hsame =>
    rw [hsame doc, hfound] at hmissed
    cases hmissed

end DocQuery
