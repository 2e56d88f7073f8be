import DocQuery.Proofs.Compilation.Conjunction

/-
  The shape of compiled clauses.
  Apart from the two results of folding, a predicate compiles to one group. Inside it nothing is
  empty or superfluous at any depth: a boolean clause uses one of its three lists only, negates one
  clause, or has at least two alternatives (`compile_shape`).
-/

namespace DocQuery

namespace Clause

mutual

/-- A clause and all clauses inside it. -/
def nodes : Clause → List Clause
  | bool must mustNot should =>
    bool must mustNot should :: (nodesAll must ++ nodesAll mustNot ++ nodesAll should)
  | c => [c]

/-- Some clauses and all clauses inside them. -/
def nodesAll : List Clause → List Clause
  | [] => []
  | c :: rest => nodes c ++ nodesAll rest

end

/-- Whether a clause is one that a group may contain: no constant, and if it is boolean, then some
clauses that must all match, or one negated clause, or at least two alternatives. -/
def isTidy : Clause → Bool
  | matchAll => false
  | matchNone => false
  | bool (_ :: _) [] [] => true
  | bool [] [_] [] => true
  | bool [] [] (_ :: _ :: _) => true
  | bool _ _ _ => false
  | _ => true

attribute [local simp] nodes nodesAll isTidy

/-- A clause that is tidy at every depth. -/
def IsTidyTree (c : Clause) : Prop := ∀ d ∈ c.nodes, d.isTidy = true

theorem mem_nodesAll {d : Clause} {cs : List Clause} :
    d ∈ nodesAll cs ↔ ∃ c ∈ cs, d ∈ c.nodes := by
  induction cs with
  | nil => simp
  | cons c cs ih => simp [ih]

theorem isTidyTree_bool {must mustNot should : List Clause} :
    (bool must mustNot should).IsTidyTree ↔ (bool must mustNot should).isTidy = true ∧
      (∀ c ∈ must, c.IsTidyTree) ∧ (∀ c ∈ mustNot, c.IsTidyTree) ∧
      ∀ c ∈ should, c.IsTidyTree := by
  simp only [IsTidyTree, nodes, List.mem_cons, List.mem_append, mem_nodesAll]
  constructor
  · intro h
    refine ⟨h _ (Or.inl rfl), ?_, ?_, ?_⟩
    · exact fun c hc d hd => h d (Or.inr (Or.inl (Or.inl ⟨c, hc, hd⟩)))
    · exact fun c hc d hd => h d (Or.inr (Or.inl (Or.inr ⟨c, hc, hd⟩)))
    · exact fun c hc d hd => h d (Or.inr (Or.inr ⟨c, hc, hd⟩))
  · rintro ⟨h, hmust, hmustNot, hshould⟩ d (rfl | (⟨c, hc, hd⟩ | ⟨c, hc, hd⟩) | ⟨c, hc, hd⟩)
    · exact h
    · exact hmust c hc d hd
    · exact hmustNot c hc d hd
    · exact hshould c hc d hd

theorem isTidyTree_allOf {cs : List Clause} (hne : cs ≠ []) (h : ∀ c ∈ cs, c.IsTidyTree) :
    (allOf cs).IsTidyTree := by
  match cs with
  | [] => exact absurd rfl hne
  | _ :: _ => exact isTidyTree_bool.2 ⟨rfl, h, by simp, by simp⟩

theorem isTidyTree_noneOf {c : Clause} (h : c.IsTidyTree) : (noneOf [c]).IsTidyTree :=
  isTidyTree_bool.2 ⟨rfl, by simp, by simpa using h, by simp⟩

theorem isTidyTree_anyOf {cs : List Clause} (hlength : 2 ≤ cs.length)
    (h : ∀ c ∈ cs, c.IsTidyTree) : (anyOf cs).IsTidyTree := by
  match cs with
  | [] => simp at hlength
  | [_] => simp at hlength
  | _ :: _ :: _ => exact isTidyTree_bool.2 ⟨rfl, by simp, by simp, h⟩

end Clause

namespace Compilation

open Clause

variable {r : Resolver}

/-! ## Leaves -/

theorem nullClause_isTidyTree {property field : String} {op : Comparison} {c : Clause}
    (h : nullClause property field op = .ok c) : c.IsTidyTree := by
  cases op with
  | eq =>
    cases h
    exact isTidyTree_noneOf (by simp [IsTidyTree, nodes, isTidy])
  | ne =>
    cases h
    simp [IsTidyTree, nodes, isTidy]
  | _ => cases h

theorem termClause?_isTidyTree {field : String} {kind : FieldType} {op : Comparison} {term : Json}
    {c : Clause} (h : termClause? field kind op term = some c) : c.IsTidyTree := by
  unfold termClause? at h
  split at h <;> cases h <;>
    simp [IsTidyTree, Clause.allOf, Clause.noneOf, nodes, nodesAll, isTidy]

theorem comparisonClause_isTidyTree {property : String} {op : Comparison} {value : Value}
    {c : Clause} (h : comparisonClause r property op value = .ok c) : c.IsTidyTree := by
  obtain ⟨field, -, h | ⟨term, h⟩⟩ := exists_of_comparisonClause h
  · exact nullClause_isTidyTree h
  · exact termClause?_isTidyTree h

theorem patternClause_isTidyTree (field : String) (method : StringMethod) (pattern : String) :
    (patternClause field method pattern).IsTidyTree := by
  unfold patternClause
  split
  · split <;> simp [IsTidyTree, nodes, isTidy]
  · simp [IsTidyTree, nodes, isTidy]
  · simp [IsTidyTree, nodes, isTidy]

theorem stringClause_isTidyTree {method : StringMethod} {property pattern : String} {c : Clause}
    (h : stringClause r method property pattern = .ok c) : c.IsTidyTree := by
  obtain ⟨field, -, rfl | rfl⟩ := exists_of_stringClause h
  · simp [IsTidyTree, nodes, isTidy]
  · exact patternClause_isTidyTree _ _ _

theorem membershipClause_isTidyTree {property : String} {candidates : List Value} {c : Clause}
    (h : membershipClause r property candidates = .ok c) : c.IsTidyTree := by
  obtain ⟨field, exactName, terms, -, -, rfl | rfl⟩ := exists_of_membershipClause h
  · simp [IsTidyTree, nodes, isTidy]
  · simp [IsTidyTree, Clause.anyOf, Clause.noneOf, nodes, nodesAll, isTidy]

theorem leafClause_isTidyTree {p : Predicate} {c : Clause} (h : leafClause r p = .ok c) :
    c.IsTidyTree := by
  unfold leafClause at h
  split at h
  · exact comparisonClause_isTidyTree h
  · exact comparisonClause_isTidyTree h
  · exact stringClause_isTidyTree h
  · exact membershipClause_isTidyTree h
  · cases h

/-! ## Nodes -/

theorem group_isTidyTree {cs : List Clause} (hne : cs ≠ []) (h : ∀ c ∈ cs, c.IsTidyTree) :
    (group cs).IsTidyTree := by
  match cs with
  | [] => exact absurd rfl hne
  | [c] => exact h c (by simp)
  | _ :: _ :: _ => exact isTidyTree_allOf (by simp) h

/-- Some clauses, all of them tidy at every depth. -/
def AreTidy (cs : List Clause) : Prop := cs ≠ [] ∧ ∀ c ∈ cs, c.IsTidyTree

theorem areTidy_append {cs ds : List Clause} (hc : AreTidy cs) (hd : AreTidy ds) :
    AreTidy (cs ++ ds) := by
  refine ⟨by simp [hc.1], fun c h => ?_⟩
  rcases List.mem_append.1 h with h | h
  · exact hc.2 c h
  · exact hd.2 c h

theorem areTidy_singleton {c : Clause} (h : c.IsTidyTree) : AreTidy [c] :=
  ⟨by simp, by simpa using h⟩

theorem conj_disj_areTidy (p : Predicate) :
    (∀ cs, conj r p = .ok cs → AreTidy cs) ∧ (∀ cs, disj r p = .ok cs → AreTidy cs) := by
  refine conj_disj_induction (C := fun _ => AreTidy) (D := fun _ => AreTidy)
    ?leaf ?and ?or ?flipped ?not ?branches ?branch p
  case leaf => exact fun _ _ h => areTidy_singleton (leafClause_isTidyTree h)
  case and => exact fun _ _ _ _ => areTidy_append
  case or =>
    intro left right cs ds hc hd
    -- every disjunction has a clause on either side
    have hlength : 2 ≤ (cs ++ ds).length := by
      have := List.length_pos_iff.2 hc.1
      have := List.length_pos_iff.2 hd.1
      rw [List.length_append]
      omega
    exact areTidy_singleton (isTidyTree_anyOf hlength (areTidy_append hc hd).2)
  case flipped => exact fun _ _ _ _ _ _ h => areTidy_singleton (comparisonClause_isTidyTree h)
  case not =>
    exact fun _ _ _ h => areTidy_singleton (isTidyTree_noneOf (group_isTidyTree h.1 h.2))
  case branches => exact fun _ _ _ _ => areTidy_append
  case branch => exact fun _ _ _ h => areTidy_singleton (group_isTidyTree h.1 h.2)

end Compilation

/-- A predicate compiles to nothing, to the clause that nothing matches, or to one group that is
tidy at every depth. -/
theorem compile_shape {r : Resolver} {p : Predicate} {cs : List Clause}
    (h : p.compile r = .ok cs) :
    cs = [] ∨ cs = [.matchNone] ∨ ∃ must, must ≠ [] ∧ cs = [.bool must [] []] ∧
      ∀ d ∈ (Clause.bool must [] []).nodes, d.isTidy = true := by
  rw [p.compile_eq] at h
  obtain ⟨folded, -, h⟩ := bind_eq_ok.1 h
  cases folded with
  | always =>
    cases h
    exact Or.inl rfl
  | never =>
    cases h
    exact Or.inr (Or.inl rfl)
  | condition q =>
    obtain ⟨must, hconj, h⟩ := bind_eq_ok.1 h
    cases pure_eq_ok.1 h
    have hmust := (Compilation.conj_disj_areTidy q).1 must hconj
    exact Or.inr (Or.inr ⟨must, hmust.1, rfl, Clause.isTidyTree_allOf hmust.1 hmust.2⟩)

theorem compile_shape_ticket :
    let p := Predicate.not (.or (.membership "Done" [.null, .bool true]) (.flag "Urgent"))
    let must : List Clause := [.noneOf [.anyOf [
      .anyOf [.terms "done" [.bool true], .noneOf [.present "done"]],
      .allOf [.term "urgent" (.bool true)]]]]
    p.compile ticketIndex.resolver = .ok [.bool must [] []] ∧
      ∀ d ∈ (Clause.bool must [] []).nodes, d.isTidy = true := by
  intro p must
  have hp : p.compile ticketIndex.resolver = .ok [.bool must [] []] := by rfl
  refine ⟨hp, ?_⟩
  rcases compile_shape hp with h | h | ⟨_, -, h, htidy⟩
  · cases h
  · cases h
  · cases h
    exact htidy

end DocQuery
