import DocQuery.Proofs.Compilation.Conjunction
import DocQuery.Proofs.Predicate.Fault
import DocQuery.Proofs.Predicate.Normal

/-
  Nodes that a pass never meets.
  `visit` refuses constants, comparisons with truth values and calls. A normal form holds none of
  them at any depth, so it does not matter how a pass answers them (`compileWith_eq`): a compilation
  never comes to the place where it would.
-/

namespace DocQuery

namespace Predicate

/-- Whether a predicate is one that a pass refuses: a form that normalising removes. -/
def isRefused : Predicate → Bool
  | constant _ => true
  | boolComparison _ _ _ => true
  | call _ _ _ => true
  | _ => false

theorem mem_nodes_self (p : Predicate) : p ∈ p.nodes := by
  cases p <;> exact List.mem_cons_self

/-- All parts of a normal form are normal forms. -/
theorem isNormal_of_mem_nodes {p x : Predicate} (hp : p.isNormal = true) (hx : x ∈ p.nodes) :
    x.isNormal = true := by
  induction p with
  | and left right ihl ihr =>
    obtain ⟨hl, hr⟩ := Bool.and_eq_true_iff.1 hp
    rcases List.mem_cons.1 hx with rfl | hx
    · exact hp
    · exact (List.mem_append.1 hx).elim (ihl hl) (ihr hr)
  | or left right ihl ihr =>
    obtain ⟨hl, hr⟩ := Bool.and_eq_true_iff.1 hp
    rcases List.mem_cons.1 hx with rfl | hx
    · exact hp
    · exact (List.mem_append.1 hx).elim (ihl hl) (ihr hr)
  | not operand ih =>
    rcases List.mem_cons.1 hx with rfl | hx
    · exact hp
    · exact ih (Bool.and_eq_true_iff.1 hp).1 hx
  | constant _ | boolComparison _ _ _ _ | call _ _ _ => cases hp
  | _ =>
    cases List.mem_singleton.1 hx
    exact hp

theorem isRefused_of_isNormal {p : Predicate} (hp : p.isNormal = true) : p.isRefused = false := by
  cases p with
  | constant _ | boolComparison _ _ _ | call _ _ _ => cases hp
  | _ => rfl

theorem ne_double_negation {p : Predicate} (hp : p.isNormal = true) (x : Predicate) :
    p ≠ .not (.not x) := by
  rintro rfl
  cases (Bool.and_eq_true_iff.1 hp).2

end Predicate

namespace Compilation

/-- The visit of a node, with an answer of one's own to the nodes that a pass refuses. An answer
that is an error ends the whole pass, so it would show in the result. -/
def visitWith (refuse : Predicate → Except QueryError Pass) (r : Resolver) :
    Predicate → Role → Pass → Except QueryError Pass
  | .and left right, role, s => do
    let s ← visitWith refuse r left .part s
    let s ← visitWith refuse r right .part s
    return role.close s
  | .or left right, .branch, s => do
    let s ← visitWith refuse r left .branch s
    visitWith refuse r right .branch s
  | .or left right, .part, s => do
    let t ← visitWith refuse r left .branch { s with pending := [], should := [] }
    let t ← visitWith refuse r right .branch t
    let back := { t with pending := s.pending, should := s.should }
    return if t.should.isEmpty then back else back.push (.anyOf t.should)
  | .not operand, role, s =>
    match flipped? operand with
    | some (property, op, value) => do
      return role.close (← pushLeaf (comparisonClause r property op value) s)
    | none =>
      if isNegatedInPlace operand then do
        return role.close (← visitWith refuse r operand .part { s with negated := true })
      else do
        let t ← visitWith refuse r operand .part { s with pending := [] }
        let back := { t with pending := s.pending }
        return role.close <| match Pass.group? t.pending with
          | none => back
          | some inner => back.push (.noneOf [inner])
  | .comparison property op value, role, s => do
    return role.close (← pushLeaf (comparisonClause r property op value) s)
  | .flag property, role, s => do
    return role.close (← pushLeaf (comparisonClause r property .eq (.bool true)) s)
  | .stringOp method property pattern, role, s => do
    return role.close (← pushLeaf (stringClause r method property pattern) s)
  | .membership property candidates, role, s => do
    return role.close (← pushLeaf (membershipClause r property candidates) s)
  | p@(.constant _), _, _ => refuse p
  | p@(.boolComparison _ _ _), _, _ => refuse p
  | p@(.call _ _ _), _, _ => refuse p

variable {refuse : Predicate → Except QueryError Pass} {r : Resolver}

attribute [local simp] visit visitWith

/-- Only the answers to refused nodes make a difference. -/
theorem visitWith_eq {p : Predicate}
    (h : ∀ x ∈ p.nodes, x.isRefused = true → refuse x = .error (.unsupported x.describe))
    (role : Role) (s : Pass) : visitWith refuse r p role s = visit r p role s := by
  induction p generalizing role s with
  | and left right ihl ihr =>
    have hl := ihl fun x hx => h x (List.mem_cons_of_mem _ (List.mem_append_left _ hx))
    have hr := ihr fun x hx => h x (List.mem_cons_of_mem _ (List.mem_append_right _ hx))
    simp only [visitWith, visit, hl, hr]
  | or left right ihl ihr =>
    have hl := ihl fun x hx => h x (List.mem_cons_of_mem _ (List.mem_append_left _ hx))
    have hr := ihr fun x hx => h x (List.mem_cons_of_mem _ (List.mem_append_right _ hx))
    cases role <;> simp only [visitWith, visit, hl, hr]
  | not operand ih =>
    have hoperand : visitWith refuse r operand = visit r operand := by
      funext role s
      exact ih (fun x hx => h x (List.mem_cons_of_mem _ hx)) role s
    rw [visitWith, hoperand]
    rfl
  | constant _ | boolComparison _ _ _ _ | call _ _ _ =>
    simpa using h _ (Predicate.mem_nodes_self _) rfl
  | _ => simp only [visitWith, visit]

/-- With the answers that a pass gives, the visit is that of the pass. -/
theorem visitWith_refusing (p : Predicate) (role : Role) (s : Pass) :
    visitWith (fun x => .error (.unsupported x.describe)) r p role s = visit r p role s :=
  visitWith_eq (fun _ _ _ => rfl) role s

theorem visitWith_of_isNormal {p : Predicate} (hp : p.isNormal = true) (role : Role) (s : Pass) :
    visitWith refuse r p role s = visit r p role s := by
  refine visitWith_eq (fun x hx hrefused => ?_) role s
  rw [Predicate.isRefused_of_isNormal (Predicate.isNormal_of_mem_nodes hp hx)] at hrefused
  cases hrefused

end Compilation

open Compilation

/-- The clauses of a predicate, with an answer of one's own to the nodes that a pass refuses. -/
def Predicate.compileWith (refuse : Predicate → Except QueryError Pass) (p : Predicate)
    (r : Resolver) : Except QueryError (List Clause) := do
  match ← p.normalize with
  | .always => return []
  | .never => return [.matchNone]
  | .condition q =>
    let s ← visitWith refuse r q .part {}
    return s.closeTerm.finalized

theorem Predicate.compileWith_eq (refuse : Predicate → Except QueryError Pass) (p : Predicate)
    (r : Resolver) : p.compileWith refuse r = p.compile r := by
  unfold compileWith compile
  cases hf : p.normalize with
  | error cause => rfl
  | ok f =>
    cases f with
    | always => rfl
    | never => rfl
    | condition q =>
      simp only [ok_bind, visitWith_of_isNormal (isNormal_normalize hf)]

/-- What is left of a predicate holds no constant, no comparison with a truth value, no call and no
double negation at any depth, and normalising it again leaves it as it is. So a compilation never
comes to a node that a pass refuses: a visit that answers such nodes as a pass does is the visit of
the pass, and whatever it answers instead, the result of the compilation is the same. -/
theorem normalize_is_final (p : Predicate) (r : Resolver) :
    (∀ e, p.normalize = .ok (.condition e) →
      (∀ x ∈ e.nodes, x.isRefused = false ∧ ∀ y, x ≠ .not (.not y)) ∧
      e.normalize = .ok (.condition e)) ∧
    (∀ q role s,
      visitWith (fun x => .error (.unsupported x.describe)) r q role s = visit r q role s) ∧
    ∀ refuse, p.compileWith refuse r = p.compile r := by
  refine ⟨fun e he => ?_, visitWith_refusing, fun refuse => p.compileWith_eq refuse r⟩
  have hnormal : e.isNormal = true := Predicate.isNormal_normalize he
  refine ⟨fun x hx => ?_, Predicate.normalize_of_isNormal hnormal⟩
  have hx := Predicate.isNormal_of_mem_nodes hnormal hx
  exact ⟨Predicate.isRefused_of_isNormal hx, Predicate.ne_double_negation hx⟩

/-- A negation that is compared to a truth value, a constant and a call fold away, so that nothing
is left which a pass refuses. -/
theorem normalize_is_final_ticket :
    let p := Predicate.or (.boolComparison (.not (.flag "Done")) .eq false)
      (.and (.constant (.bool true)) (.call "startswith" "Team" [.text "a"]))
    let e := Predicate.or (.flag "Done") (.stringOp .startsWith "Team" "a")
    p.normalize = .ok (.condition e) ∧ (∀ x ∈ e.nodes, x.isRefused = false) ∧
      e.normalize = .ok (.condition e) ∧
      p.compileWith (fun _ => .ok {}) teamIndex.resolver = .ok [.allOf
        [.anyOf [.allOf [.term "done" (.bool true)], .queryString ["by.team"] "a*"]]] := by
  intro p e
  have hp : p.normalize = .ok (.condition e) := by rfl
  obtain ⟨hfinal, -, hcompile⟩ := normalize_is_final p teamIndex.resolver
  obtain ⟨hnodes, he⟩ := hfinal e hp
  refine ⟨hp, fun x hx => (hnodes x hx).1, he, ?_⟩
  rw [hcompile]
  rfl

end DocQuery
