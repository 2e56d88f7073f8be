import DocQuery.Compilation.Pass
import DocQuery.Proofs.Outcome

/-
  The clauses of a node by recursion on the node.
  `conj` gives the clauses of a node that stands in a conjunction, `disj` those of a node that
  stands in a disjunction. A pass collects exactly these clauses and keeps what it has collected
  before (`isCollected`), so the clauses of a predicate are those of its normal form (`compile_eq`).
  `conj_disj_induction` is the induction that statements about compiled clauses use.
-/

namespace DocQuery

namespace Compilation

/-- The clause of a leaf. -/
def leafClause (r : Resolver) : Predicate → Except QueryError Clause
  | .comparison property op value => comparisonClause r property op value
  | .flag property => comparisonClause r property .eq (.bool true)
  | .stringOp method property pattern => stringClause r method property pattern
  | .membership property candidates => membershipClause r property candidates
  | p => .error (.unsupported p.describe)

/-- Some clauses as one: the only one, or all of them together. -/
def group : List Clause → Clause
  | [c] => c
  | cs => .allOf cs

mutual

/-- The clauses of a node as a part of a conjunction. A negated leaf is turned round where it
compares with a truth value and negated as a clause where it does not; anything else is negated as
a group. -/
def conj (r : Resolver) : Predicate → Except QueryError (List Clause)
  | .and left right => do return (← conj r left) ++ (← conj r right)
  | .or left right => do return [.anyOf ((← disj r left) ++ (← disj r right))]
  | .not (.flag property) => do
    return [← leafClause r (.comparison property .eq (.bool false))]
  | .not (.comparison property .eq (.bool b)) => do
    return [← leafClause r (.comparison property .eq (.bool !b))]
  | .not (.comparison property .ne (.bool b)) => do
    return [← leafClause r (.comparison property .ne (.bool !b))]
  | .not (.stringOp method property pattern) => do
    return [.noneOf [← leafClause r (.stringOp method property pattern)]]
  | .not (.membership property candidates) => do
    return [.noneOf [← leafClause r (.membership property candidates)]]
  | .not operand => do return [.noneOf [group (← conj r operand)]]
  | leaf => do return [← leafClause r leaf]
termination_by p => (sizeOf p, 0)

/-- The clauses of a node as a part of a disjunction; every branch is one clause. -/
def disj (r : Resolver) : Predicate → Except QueryError (List Clause)
  | .or left right => do return (← disj r left) ++ (← disj r right)
  | p => do return [group (← conj r p)]
termination_by p => (sizeOf p, 1)

end

variable {r : Resolver}

/-! ## Leaves -/

/-- The clause of a comparison is one with null or one with a term. -/
theorem exists_of_comparisonClause {property : String} {op : Comparison} {value : Value}
    {c : Clause} (h : comparisonClause r property op value = .ok c) :
    ∃ field, r.resolve property = .ok field ∧ (nullClause property field.name op = .ok c ∨
      ∃ term, termClause? field.name field.kind.type op term = some c) := by
  unfold comparisonClause at h
  obtain ⟨field, hfield, h⟩ := bind_eq_ok.1 h
  refine ⟨field, hfield, ?_⟩
  split at h
  · exact .inl h
  · obtain ⟨term, -, h⟩ := bind_eq_ok.1 h
    split at h
    · next hterm =>
      cases pure_eq_ok.1 h
      exact .inr ⟨term, hterm⟩
    · cases h

theorem exists_of_stringClause {method : StringMethod} {property pattern : String} {c : Clause}
    (h : stringClause r method property pattern = .ok c) :
    ∃ field, r.resolve property = .ok field ∧
      (c = .present field.name ∨ c = patternClause field.name method pattern) := by
  unfold stringClause at h
  obtain ⟨field, hfield, h⟩ := bind_eq_ok.1 h
  refine ⟨field, hfield, ?_⟩
  split at h
  · split at h
    · exact .inl (pure_eq_ok.1 h).symm
    · exact .inr (pure_eq_ok.1 h).symm
  · cases h

theorem exists_of_membershipClause {property : String} {candidates : List Value} {c : Clause}
    (h : membershipClause r property candidates = .ok c) :
    ∃ field exactName terms, r.resolve property = .ok field ∧
      r.variant .exact property = .ok exactName ∧ (c = .terms exactName terms ∨
        c = .anyOf [.terms exactName terms, .noneOf [.present field.name]]) := by
  unfold membershipClause at h
  obtain ⟨field, hfield, h⟩ := bind_eq_ok.1 h
  obtain ⟨exactName, hexact, h⟩ := bind_eq_ok.1 h
  obtain ⟨terms, -, h⟩ := bind_eq_ok.1 h
  refine ⟨field, exactName, terms, hfield, hexact, ?_⟩
  split at h
  · exact .inr (pure_eq_ok.1 h).symm
  · exact .inl (pure_eq_ok.1 h).symm

/-! ## Negations -/

theorem conj_not_flipped {x : Predicate} {property : String} {op : Comparison} {value : Value}
    (h : flipped? x = some (property, op, value)) :
    conj r (.not x) = do return [← comparisonClause r property op value] := by
  unfold flipped? at h
  split at h
  · cases h; rw [conj]; rfl
  · cases h; rw [conj]; rfl
  · cases h; rw [conj]; rfl
  · cases h

/-- A negated leaf is the negation of a group of one clause. -/
theorem conj_not_group {x : Predicate} (h : flipped? x = none) :
    conj r (.not x) = do return [.noneOf [group (← conj r x)]] := by
  cases x with
  | stringOp method property pattern => simp [conj, group]
  | membership property candidates => simp [conj, group]
  | comparison property op value =>
    rw [conj]
    · simp
    · rintro _ b ⟨⟩; simp [flipped?] at h
    · rintro _ b ⟨⟩; simp [flipped?] at h
    · simp
    · simp
  | flag property => simp [flipped?] at h
  | _ => exact conj.eq_def r _

theorem disj_of_ne_or {p : Predicate} (h : ∀ left right, p ≠ .or left right) :
    disj r p = do return [group (← conj r p)] := by
  rw [disj]
  exact h

/-! ## Induction -/

/-- What the clauses of a node have in common. A statement about the clauses of conjunctions and one
about those of disjunctions hold of all nodes if they hold of leaves and every way to join clauses
keeps them. -/
theorem conj_disj_induction {C D : Predicate → List Clause → Prop}
    (leaf : ∀ p c, leafClause r p = .ok c → C p [c])
    (and : ∀ left right cs ds, C left cs → C right ds → C (.and left right) (cs ++ ds))
    (or : ∀ left right cs ds, D left cs → D right ds → C (.or left right) [.anyOf (cs ++ ds)])
    (flipped : ∀ x property op value c, flipped? x = some (property, op, value) →
      comparisonClause r property op value = .ok c → C (.not x) [c])
    (not : ∀ x cs, flipped? x = none → C x cs → C (.not x) [.noneOf [group cs]])
    (branches : ∀ left right cs ds, D left cs → D right ds → D (.or left right) (cs ++ ds))
    (branch : ∀ p cs, (∀ left right, p ≠ .or left right) → C p cs → D p [group cs])
    (p : Predicate) :
    (∀ cs, conj r p = .ok cs → C p cs) ∧ (∀ cs, disj r p = .ok cs → D p cs) := by
  -- the branch of anything but a disjunction is its conjunction as a group
  have single : ∀ p : Predicate, (∀ left right, p ≠ .or left right) →
      (∀ cs, conj r p = .ok cs → C p cs) →
      (∀ cs, conj r p = .ok cs → C p cs) ∧ (∀ cs, disj r p = .ok cs → D p cs) := by
    intro p hp hc
    refine ⟨hc, fun ds h => ?_⟩
    simp only [disj_of_ne_or hp, bind_eq_ok, pure_eq_ok] at h
    obtain ⟨cs, h, rfl⟩ := h
    exact branch p cs hp (hc cs h)
  have ofLeaf : ∀ p : Predicate, (conj r p = do return [← leafClause r p]) →
      ∀ cs, conj r p = .ok cs → C p cs := by
    intro p e cs h
    simp only [e, bind_eq_ok, pure_eq_ok] at h
    obtain ⟨c, h, rfl⟩ := h
    exact leaf p c h
  induction p with
  | and left right ihl ihr =>
    refine single _ (by simp) fun es h => ?_
    simp only [conj, bind_eq_ok, pure_eq_ok] at h
    obtain ⟨cs, hl, ds, hr, rfl⟩ := h
    exact and left right cs ds (ihl.1 cs hl) (ihr.1 ds hr)
  | or left right ihl ihr =>
    refine ⟨fun es h => ?_, fun es h => ?_⟩
    · simp only [conj, bind_eq_ok, pure_eq_ok] at h
      obtain ⟨cs, hl, ds, hr, rfl⟩ := h
      exact or left right cs ds (ihl.2 cs hl) (ihr.2 ds hr)
    · simp only [disj, bind_eq_ok, pure_eq_ok] at h
      obtain ⟨cs, hl, ds, hr, rfl⟩ := h
      exact branches left right cs ds (ihl.2 cs hl) (ihr.2 ds hr)
  | not x ih =>
    refine single _ (by simp) fun es h => ?_
    cases hx : flipped? x with
    | some leaf =>
      obtain ⟨property, op, value⟩ := leaf
      simp only [conj_not_flipped hx, bind_eq_ok, pure_eq_ok] at h
      obtain ⟨c, h, rfl⟩ := h
      exact flipped x property op value c hx h
    | none =>
      simp only [conj_not_group hx, bind_eq_ok, pure_eq_ok] at h
      obtain ⟨cs, h, rfl⟩ := h
      exact not x cs hx (ih.1 cs h)
  | _ => exact single _ (by simp) (ofLeaf _ (by rw [conj] <;> simp))

theorem conj_disj_ne_nil (p : Predicate) :
    (∀ cs, conj r p = .ok cs → cs ≠ []) ∧ (∀ cs, disj r p = .ok cs → cs ≠ []) := by
  refine conj_disj_induction (C := fun _ cs => cs ≠ []) (D := fun _ cs => cs ≠ [])
    ?_ ?_ ?_ ?_ ?_ ?_ ?_ p <;> simp +contextual

/-! ## The pass -/

namespace Pass

/-- Collects some clauses in the conjunction. -/
def collect (s : Pass) (cs : List Clause) : Pass :=
  { s with pending := s.pending ++ cs }

/-- Collects some clauses in the disjunction. -/
def spread (s : Pass) (cs : List Clause) : Pass :=
  { s with should := s.should ++ cs }

theorem push_eq_collect {s : Pass} (hs : s.negated = false) (c : Clause) :
    s.push c = s.collect [c] := by
  simp [push, collect, hs]

theorem group?_eq_some {cs : List Clause} (h : cs ≠ []) : group? cs = some (group cs) := by
  match cs with
  | [] => exact absurd rfl h
  | [_] => rfl
  | _ :: _ :: _ => rfl

theorem closeBranch_collect {s : Pass} (hs : s.pending = []) {cs : List Clause} (h : cs ≠ []) :
    (s.collect cs).closeBranch = s.spread [group cs] := by
  simp [closeBranch, collect, spread, hs, group?_eq_some h]

end Pass

attribute [local simp] visit

/-- Visiting anything but a disjunction as a branch is visiting it as a part and closing the
branch. -/
theorem visit_branch {p : Predicate} (hp : ∀ left right, p ≠ .or left right) (s : Pass) :
    visit r p .branch s = do return (← visit r p .part s).closeBranch := by
  cases p with
  | or left right => exact absurd rfl (hp left right)
  | not x =>
    cases h : flipped? x with
    | some leaf => simp [h, Role.close]
    | none => simp only [visit, h]; split <;> simp [Role.close]
  | _ => simp [Role.close]

/-- A pass collects the clauses that recursion gives for a node, those of a part in the conjunction
and those of a branch in the disjunction. Nothing else changes: the state may hold clauses of the
nodes around, as long as no negation is asked for and a branch starts with an empty conjunction. -/
def IsCollected (r : Resolver) (p : Predicate) : Prop :=
  (∀ s : Pass, s.negated = false →
    visit r p .part s = do return s.collect (← conj r p)) ∧
  (∀ s : Pass, s.negated = false → s.pending = [] →
    visit r p .branch s = do return s.spread (← disj r p))

theorem isCollected_of_part {p : Predicate} (hp : ∀ left right, p ≠ .or left right)
    (hc : ∀ s : Pass, s.negated = false →
      visit r p .part s = do return s.collect (← conj r p)) : IsCollected r p := by
  refine ⟨hc, fun s hs hpending => ?_⟩
  rw [visit_branch hp, hc s hs, disj_of_ne_or hp]
  cases h : conj r p with
  | error cause => rfl
  | ok cs =>
    simp only [ok_bind, pure_bind]
    rw [Pass.closeBranch_collect hpending ((conj_disj_ne_nil p).1 cs h)]

theorem isCollected_leaf {p : Predicate} (hp : ∀ left right, p ≠ .or left right)
    (hv : ∀ s, visit r p .part s = pushLeaf (leafClause r p) s)
    (hc : conj r p = do return [← leafClause r p]) : IsCollected r p := by
  refine isCollected_of_part hp fun s hs => ?_
  rw [hv, hc, pushLeaf]
  simp [Pass.push_eq_collect hs]

theorem isCollected_and {left right : Predicate} (hl : IsCollected r left)
    (hr : IsCollected r right) : IsCollected r (.and left right) := by
  refine isCollected_of_part (by simp) fun s hs => ?_
  simp only [visit, conj, hl.1 s hs, Role.close]
  cases conj r left with
  | error cause => rfl
  | ok cs =>
    simp only [ok_bind, pure_bind]
    rw [hr.1 (s.collect cs) hs]
    cases conj r right with
    | error cause => rfl
    | ok ds => simp [Pass.collect]

theorem isCollected_or {left right : Predicate} (hl : IsCollected r left)
    (hr : IsCollected r right) : IsCollected r (.or left right) := by
  refine ⟨fun s hs => ?_, fun s hs hpending => ?_⟩
  · simp only [visit, conj, hl.2 { s with pending := [], should := [] } hs rfl]
    cases h : disj r left with
    | error cause => rfl
    | ok cs =>
      simp only [ok_bind, pure_bind]
      rw [hr.2 (Pass.spread { s with pending := [], should := [] } cs) hs rfl]
      cases disj r right with
      | error cause => rfl
      | ok ds =>
        have hcs := (conj_disj_ne_nil left).2 cs h
        simp [Pass.spread, Pass.collect, Pass.push, hs, hcs]
  · simp only [visit, disj, hl.2 s hs hpending]
    cases disj r left with
    | error cause => rfl
    | ok cs =>
      simp only [ok_bind, pure_bind]
      rw [hr.2 (s.spread cs) hs hpending]
      cases disj r right with
      | error cause => rfl
      | ok ds => simp [Pass.spread]

theorem isCollected_not_inPlace {x : Predicate} (hx : isNegatedInPlace x = true) :
    IsCollected r (.not x) := by
  refine isCollected_of_part (by simp) fun s hs => ?_
  -- the clause of the leaf is pushed while a negation is asked for, which takes the request back
  have push (c : Clause) : Pass.push { s with negated := true } c = s.collect [.noneOf [c]] := by
    simp [Pass.push, Pass.collect, hs]
  cases x with
  | stringOp method property pattern =>
    simp [flipped?, isNegatedInPlace, Role.close, pushLeaf, conj, leafClause, push]
  | membership property candidates =>
    simp [flipped?, isNegatedInPlace, Role.close, pushLeaf, conj, leafClause, push]
  | _ => simp [isNegatedInPlace] at hx

theorem isCollected_not {x : Predicate} (hx : IsCollected r x) : IsCollected r (.not x) := by
  cases hplace : isNegatedInPlace x with
  | true => exact isCollected_not_inPlace hplace
  | false =>
    refine isCollected_of_part (by simp) fun s hs => ?_
    cases h : flipped? x with
    | some leaf =>
      obtain ⟨property, op, value⟩ := leaf
      rw [conj_not_flipped h]
      simp [h, Role.close, pushLeaf, Pass.push_eq_collect hs]
    | none =>
      rw [conj_not_group h]
      simp only [visit, h, hplace, hx.1 { s with pending := [] } hs]
      cases hc : conj r x with
      | error cause => rfl
      | ok cs =>
        have hgroup := Pass.group?_eq_some ((conj_disj_ne_nil x).1 cs hc)
        simp only [ok_bind, pure_bind]
        simp [Pass.collect, hgroup, Role.close, Pass.push, hs]

theorem isCollected (p : Predicate) : IsCollected r p := by
  induction p with
  | and left right hl hr => exact isCollected_and hl hr
  | or left right hl hr => exact isCollected_or hl hr
  | not x hx => exact isCollected_not hx
  | constant _ | boolComparison _ _ _ _ | call _ _ _ =>
    exact isCollected_leaf (by simp) (fun _ => by rw [visit]; rfl) (by rw [conj] <;> simp)
  | _ =>
    exact isCollected_leaf (by simp) (fun _ => by simp [leafClause, Role.close])
      (by rw [conj] <;> simp)

end Compilation

/-! ## Compiled predicates -/

/-- The clauses of a folded predicate. -/
def Folded.clauses (r : Resolver) : Folded → Except QueryError (List Clause)
  | always => .ok []
  | never => .ok [.matchNone]
  | condition q => do return [.allOf (← Compilation.conj r q)]

theorem Predicate.compile_eq (p : Predicate) (r : Resolver) :
    p.compile r = p.normalize >>= Folded.clauses r := by
  unfold Predicate.compile
  cases p.normalize with
  | error cause => rfl
  | ok folded =>
    cases folded with
    | always => rfl
    | never => rfl
    | condition q =>
      simp only [ok_bind, Folded.clauses, (Compilation.isCollected q).1 {} rfl]
      cases h : Compilation.conj r q with
      | error cause => rfl
      | ok cs =>
        have hcs := (Compilation.conj_disj_ne_nil q).1 cs h
        simp only [ok_bind, pure_bind]
        simp [Compilation.Pass.collect, Compilation.Pass.closeTerm, hcs]

open Compilation in
/-- A visit adds the clauses that recursion gives to those of the conjunction around the node, and
leaves all other clauses alone. A predicate that does not fold away compiles to one group of the
clauses of its normal form. -/
theorem visit_appends_conj (r : Resolver) (p : Predicate) :
    (∀ s : Pass, s.negated = false →
      visit r p .part s = do
        return {
          negated := false
          pending := s.pending ++ (← conj r p)
          should := s.should
          finalized := s.finalized }) ∧
    ∀ q, p.normalize = .ok (.condition q) → p.compile r = do return [.allOf (← conj r q)] := by
  refine ⟨fun s hs => ?_, fun q hq => ?_⟩
  · rw [(isCollected p).1 s hs]
    simp only [Pass.collect, hs]
  · rw [p.compile_eq, hq]
    rfl

/-- An index of tickets that are done or not and urgent or not. -/
def ticketIndex : IndexDeclaration where
  name := "tickets"
  fields := [("Done", { type := .boolean }), ("Urgent", { type := .boolean })]

example : ticketIndex.fieldName "Done" = "done" := by rfl

/-- An index of tickets that are done or not and have an author with a team. -/
def teamIndex : IndexDeclaration where
  name := "tickets"
  fields := [("Done", { type := .boolean }),
    ("Team", .renamed (.withKeyword { type := .text }) "by.team")]

open Compilation in
theorem visit_appends_conj_ticket :
    let p := Predicate.or (.flag "Done") (.not (.and (.flag "Urgent") (.flag "Done")))
    let clause := Clause.anyOf [.allOf [.term "done" (.bool true)],
      .noneOf [.allOf [.allOf [.term "urgent" (.bool true)], .allOf [.term "done" (.bool true)]]]]
    visit ticketIndex.resolver p .part ⟨false, [.matchAll], [.matchNone], [.matchAll]⟩ =
        .ok ⟨false, [.matchAll, clause], [.matchNone], [.matchAll]⟩ ∧
      p.normalize = .ok (.condition p) ∧
      p.compile ticketIndex.resolver = .ok [.allOf [clause]] := by
  intro p clause
  have hconj : conj ticketIndex.resolver p = .ok [clause] := by
    simp only [p, conj, disj, leafClause]
    rfl
  have h := visit_appends_conj ticketIndex.resolver p
  refine ⟨?_, rfl, ?_⟩
  · rw [h.1 _ rfl, hconj]
    rfl
  · rw [h.2 p rfl, hconj]
    rfl

end DocQuery
