import DocQuery.Proofs.Compilation.Wrapping

/-
  Nesting of chains.
  A chain of conjunctions or of disjunctions compiles to the same clauses however it is nested, at
  whatever places of a predicate it stands (`compile_reassociated`). Folding may shorten a chain,
  but it removes the same operands under every nesting, so the normal forms differ in the nesting of
  their chains only (`normalize_reassociated`), and collecting clauses flattens what is left.
-/

namespace DocQuery

/-- Predicates that differ in the nesting of chains of conjunctions and of disjunctions only; the
operands of every chain keep their order. -/
inductive Predicate.Reassociated : Predicate → Predicate → Prop where
  | refl (p : Predicate) : Reassociated p p
  | symm {p q : Predicate} (h : Reassociated p q) : Reassociated q p
  | trans {p q s : Predicate} (h : Reassociated p q) (h' : Reassociated q s) : Reassociated p s
  | andChain (a b c : Predicate) : Reassociated (.and (.and a b) c) (.and a (.and b c))
  | orChain (a b c : Predicate) : Reassociated (.or (.or a b) c) (.or a (.or b c))
  | and {p q p' q' : Predicate} (hl : Reassociated p q) (hr : Reassociated p' q') :
    Reassociated (.and p p') (.and q q')
  | or {p q p' q' : Predicate} (hl : Reassociated p q) (hr : Reassociated p' q') :
    Reassociated (.or p p') (.or q q')
  | not {p q : Predicate} (h : Reassociated p q) : Reassociated (.not p) (.not q)
  | boolComparison {p q : Predicate} (h : Reassociated p q) (op : Comparison) (value : Bool) :
    Reassociated (.boolComparison p op value) (.boolComparison q op value)

/-! ## Folding -/

namespace Folded

/-- Folded predicates that differ in the nesting of chains only. -/
inductive Reassociated : Folded → Folded → Prop where
  | always : Reassociated .always .always
  | never : Reassociated .never .never
  | condition {p q : Predicate} (h : p.Reassociated q) : Reassociated (.condition p) (.condition q)

namespace Reassociated

theorem refl (f : Folded) : f.Reassociated f := by
  cases f with
  | always => exact .always
  | never => exact .never
  | condition p => exact .condition (.refl p)

theorem symm {f g : Folded} (h : f.Reassociated g) : g.Reassociated f := by
  cases h with
  | always => exact .always
  | never => exact .never
  | condition h => exact .condition (.symm h)

theorem trans {f g h : Folded} (hfg : f.Reassociated g) (hgh : g.Reassociated h) :
    f.Reassociated h := by
  cases hfg with
  | always => exact hgh
  | never => exact hgh
  | condition hpq =>
    cases hgh with
    | condition hqs => exact .condition (.trans hpq hqs)

theorem negate {f g : Folded} (h : f.Reassociated g) : f.negate.Reassociated g.negate := by
  cases h with
  | always => exact .never
  | never => exact .always
  | condition h =>
    induction h with
    | refl p => exact refl _
    | symm _ ih => exact ih.symm
    | trans _ _ ih ih' => exact ih.trans ih'
    | not h _ => exact .condition h
    | andChain a b c => exact .condition (.not (.andChain a b c))
    | orChain a b c => exact .condition (.not (.orChain a b c))
    | and hl hr _ _ => exact .condition (.not (.and hl hr))
    | or hl hr _ _ => exact .condition (.not (.or hl hr))
    | boolComparison h op value _ => exact .condition (.not (.boolComparison h op value))

theorem both {f f' g g' : Folded} (hf : f.Reassociated f') (hg : g.Reassociated g') :
    (f.both g).Reassociated (f'.both g') := by
  cases hf with
  | never => exact .never
  | always =>
    rw [always_both, always_both]
    exact hg
  | condition hp =>
    cases hg with
    | always => exact .condition hp
    | never => exact .never
    | condition hq => exact .condition (.and hp hq)

theorem either {f f' g g' : Folded} (hf : f.Reassociated f') (hg : g.Reassociated g') :
    (f.either g).Reassociated (f'.either g') := by
  cases hf with
  | always => exact .always
  | never =>
    rw [never_either, never_either]
    exact hg
  | condition hp =>
    cases hg with
    | always => exact .always
    | never => exact .condition hp
    | condition hq => exact .condition (.or hp hq)

end Reassociated

/-- Whatever constants do to a conjunction, its nesting makes no difference to it. -/
theorem both_both (f g h : Folded) : ((f.both g).both h).Reassociated (f.both (g.both h)) := by
  cases f with
  | never => exact .never
  | always =>
    rw [always_both, always_both]
    exact .refl _
  | condition p =>
    cases g with
    | never => exact .never
    | always =>
      rw [always_both, both_always]
      exact .refl _
    | condition q =>
      cases h with
      | never => exact .never
      | always => exact .refl _
      | condition s => exact .condition (.andChain p q s)

theorem either_either (f g h : Folded) :
    ((f.either g).either h).Reassociated (f.either (g.either h)) := by
  cases f with
  | always => exact .always
  | never =>
    rw [never_either, never_either]
    exact .refl _
  | condition p =>
    cases g with
    | always => exact .always
    | never =>
      rw [never_either, either_never]
      exact .refl _
    | condition q =>
      cases h with
      | always => exact .always
      | never => exact .refl _
      | condition s => exact .condition (.orChain p q s)

end Folded

/-- Two results of normalising that are both errors, or differ in the nesting of chains only. The
errors may show a predicate, and with it its nesting. -/
inductive FoldAlike : Except QueryError Folded → Except QueryError Folded → Prop where
  | failed (cause cause' : QueryError) : FoldAlike (.error cause) (.error cause')
  | folded {f g : Folded} (h : f.Reassociated g) : FoldAlike (.ok f) (.ok g)

namespace FoldAlike

variable {x y x' y' : Except QueryError Folded}

theorem refl (x : Except QueryError Folded) : FoldAlike x x := by
  cases x with
  | error cause => exact .failed cause cause
  | ok f => exact .folded (.refl f)

theorem symm (h : FoldAlike x y) : FoldAlike y x := by
  cases h with
  | failed cause cause' => exact .failed cause' cause
  | folded h => exact .folded h.symm

theorem trans {z : Except QueryError Folded} (hxy : FoldAlike x y) (hyz : FoldAlike y z) :
    FoldAlike x z := by
  cases hxy with
  | failed cause _ =>
    cases hyz with
    | failed _ cause' => exact .failed cause cause'
  | folded hfg =>
    cases hyz with
    | folded hgh => exact .folded (hfg.trans hgh)

theorem map {op : Folded → Folded} (hop : ∀ {f g}, f.Reassociated g → (op f).Reassociated (op g))
    (h : FoldAlike x y) : FoldAlike (do return op (← x)) (do return op (← y)) := by
  cases h with
  | failed cause cause' => exact .failed cause cause'
  | folded h => exact .folded (hop h)

theorem map₂ {op : Folded → Folded → Folded}
    (hop : ∀ {f f' g g'}, f.Reassociated f' → g.Reassociated g' → (op f g).Reassociated (op f' g'))
    (hx : FoldAlike x y) (hy : FoldAlike x' y') :
    FoldAlike (do return op (← x) (← x')) (do return op (← y) (← y')) := by
  cases hx with
  | failed cause cause' => exact .failed cause cause'
  | folded hf =>
    cases hy with
    | failed cause cause' => exact .failed cause cause'
    | folded hg => exact .folded (hop hf hg)

/-- An operation whose nesting makes no difference to folded predicates makes none to results of
normalising. -/
theorem nested {op : Folded → Folded → Folded}
    (hop : ∀ f g h, (op (op f g) h).Reassociated (op f (op g h)))
    (x y z : Except QueryError Folded) :
    FoldAlike (do return op (← (do return op (← x) (← y))) (← z))
      (do return op (← x) (← (do return op (← y) (← z)))) := by
  cases x with
  | error cause => exact .failed cause cause
  | ok f =>
    cases y with
    | error cause => exact .failed cause cause
    | ok g =>
      cases z with
      | error cause => exact .failed cause cause
      | ok h => exact .folded (hop f g h)

end FoldAlike

namespace Predicate

/-- Normal forms differ in the nesting of chains only if the predicates do. -/
theorem normalize_reassociated {p q : Predicate} (h : p.Reassociated q) :
    FoldAlike p.normalize q.normalize := by
  induction h with
  | refl p => exact .refl _
  | symm _ ih => exact ih.symm
  | trans _ _ ih ih' => exact ih.trans ih'
  | andChain a b c =>
    simp only [normalize]
    exact .nested Folded.both_both _ _ _
  | orChain a b c =>
    simp only [normalize]
    exact .nested Folded.either_either _ _ _
  | and _ _ ihl ihr =>
    simp only [normalize]
    exact .map₂ .both ihl ihr
  | or _ _ ihl ihr =>
    simp only [normalize]
    exact .map₂ .either ihl ihr
  | not _ ih =>
    simp only [normalize]
    exact .map .negate ih
  | boolComparison _ op value ih =>
    simp only [normalize]
    cases keeps? op value with
    | none => exact .failed _ _
    | some keep =>
      cases keep with
      | true => exact @FoldAlike.map _ _ id id ih
      | false => exact .map .negate ih

end Predicate

/-! ## Collecting -/

namespace Compilation

variable {r : Resolver} {p q : Predicate}

/-- Two nodes that have the same clauses as a part of a conjunction and as a part of a disjunction,
or have none both. -/
def SameClauses (r : Resolver) (p q : Predicate) : Prop :=
  (∀ cs, conj r p = .ok cs ↔ conj r q = .ok cs) ∧ ∀ cs, disj r p = .ok cs ↔ disj r q = .ok cs

/-- Nodes that are no disjunctions have the same branches if they have the same clauses. -/
theorem sameClauses_of_conj (hp : ∀ left right, p ≠ .or left right)
    (hq : ∀ left right, q ≠ .or left right)
    (h : ∀ cs, conj r p = .ok cs ↔ conj r q = .ok cs) : SameClauses r p q := by
  refine ⟨h, fun cs => ?_⟩
  rw [disj_of_ne_or hp, disj_of_ne_or hq]
  simp only [bind_eq_ok, h]

theorem sameClauses_and {p' q' : Predicate} (hl : SameClauses r p q)
    (hr : SameClauses r p' q') : SameClauses r (.and p p') (.and q q') := by
  refine sameClauses_of_conj (by simp) (by simp) fun cs => ?_
  simp only [conj, bind_eq_ok, hl.1, hr.1]

theorem sameClauses_or {p' q' : Predicate} (hl : SameClauses r p q)
    (hr : SameClauses r p' q') : SameClauses r (.or p p') (.or q q') := by
  constructor
  · intro cs
    simp only [conj, bind_eq_ok, hl.2, hr.2]
  · intro cs
    simp only [disj, bind_eq_ok, hl.2, hr.2]

theorem sameClauses_not (hflipped : flipped? p = flipped? q) (h : SameClauses r p q) :
    SameClauses r (.not p) (.not q) := by
  refine sameClauses_of_conj (by simp) (by simp) fun cs => ?_
  cases hp : flipped? p with
  | some leaf =>
    rw [conj_not_flipped hp, conj_not_flipped (hflipped ▸ hp)]
  | none =>
    rw [conj_not_group hp, conj_not_group (hflipped ▸ hp)]
    simp only [bind_eq_ok, h.1]

/-- Collecting the clauses of three nodes puts them in one list, and fails for the first node that
does. -/
theorem append_nested (x y z : Except QueryError (List Clause)) :
    (do return (← (do return (← x) ++ (← y))) ++ (← z)) =
      (do return (← x) ++ (← (do return (← y) ++ (← z)))) := by
  cases x with
  | error cause => rfl
  | ok cs =>
    cases y with
    | error cause => rfl
    | ok ds =>
      cases z with
      | error cause => rfl
      | ok es => simp

theorem sameClauses_andChain (r : Resolver) (a b c : Predicate) :
    SameClauses r (.and (.and a b) c) (.and a (.and b c)) := by
  refine sameClauses_of_conj (by simp) (by simp) fun cs => ?_
  simp only [conj]
  rw [append_nested]

theorem conj_or (r : Resolver) (left right : Predicate) :
    conj r (.or left right) = do return [.anyOf (← disj r (.or left right))] := by
  simp [conj, disj]

theorem sameClauses_orChain (r : Resolver) (a b c : Predicate) :
    SameClauses r (.or (.or a b) c) (.or a (.or b c)) := by
  have hdisj : disj r (.or (.or a b) c) = disj r (.or a (.or b c)) := by
    simp only [disj]
    rw [append_nested]
  constructor
  · intro cs
    rw [conj_or, conj_or, hdisj]
  · intro cs
    rw [hdisj]

/-- Chains have at least two operands, so no leaf that can be turned round is one. -/
theorem flipped?_reassociated (h : p.Reassociated q) : flipped? p = flipped? q := by
  induction h with
  | symm _ ih => exact ih.symm
  | trans _ _ ih ih' => exact ih.trans ih'
  | _ => rfl

theorem sameClauses_reassociated (r : Resolver) (h : p.Reassociated q) : SameClauses r p q := by
  induction h with
  | refl p => exact ⟨fun _ => Iff.rfl, fun _ => Iff.rfl⟩
  | symm _ ih => exact ⟨fun cs => (ih.1 cs).symm, fun cs => (ih.2 cs).symm⟩
  | trans _ _ ih ih' =>
    exact ⟨fun cs => (ih.1 cs).trans (ih'.1 cs), fun cs => (ih.2 cs).trans (ih'.2 cs)⟩
  | andChain a b c => exact sameClauses_andChain r a b c
  | orChain a b c => exact sameClauses_orChain r a b c
  | and _ _ ihl ihr => exact sameClauses_and ihl ihr
  | or _ _ ihl ihr => exact sameClauses_or ihl ihr
  | not h ih => exact sameClauses_not (flipped?_reassociated h) ih
  | boolComparison _ op value _ =>
    refine sameClauses_of_conj (by simp) (by simp) fun cs => ?_
    simp [conj, leafClause]

end Compilation

/-! ## Main theorem -/

/-- Predicates that differ in the nesting of chains only compile to the same clauses, or neither of
them compiles. Their operands may be constants, negations and comparisons with truth values, and
the chains may stand anywhere. -/
theorem compile_reassociated {p q : Predicate} (h : p.Reassociated q) (r : Resolver)
    (cs : List Clause) : p.compile r = .ok cs ↔ q.compile r = .ok cs := by
  rw [p.compile_eq, q.compile_eq]
  have hfold := Predicate.normalize_reassociated h
  generalize p.normalize = x at hfold ⊢
  generalize q.normalize = y at hfold ⊢
  cases hfold with
  | failed cause cause' => simp
  | folded hfg =>
    simp only [ok_bind]
    cases hfg with
    | always => exact Iff.rfl
    | never => exact Iff.rfl
    | condition h =>
      have hconj := (Compilation.sameClauses_reassociated r h).1
      simp only [Folded.clauses, bind_eq_ok, hconj]

/-- A constant shortens one of the chains, and a negated comparison with a truth value holds another
one. -/
theorem compile_reassociated_ticket :
    let r := ticketIndex.resolver
    let done := Predicate.flag "Done"
    let urgent := Predicate.flag "Urgent"
    let inner := Predicate.boolComparison (.or done (.or (.constant (.bool false)) urgent)) .ne true
    let inner' :=
      Predicate.boolComparison (.or (.or done (.constant (.bool false))) urgent) .ne true
    let p := Predicate.and done (.and inner urgent)
    let q := Predicate.and (.and done inner') urgent
    let cs : List Clause := [.allOf [.allOf [.term "done" (.bool true)],
      .noneOf [.anyOf [.allOf [.term "done" (.bool true)], .allOf [.term "urgent" (.bool true)]]],
      .allOf [.term "urgent" (.bool true)]]]
    p.Reassociated q ∧ p.compile r = .ok cs ∧ q.compile r = .ok cs := by
  intro r done urgent inner inner' p q cs
  have hinner : inner.Reassociated inner' := .boolComparison (.symm (.orChain _ _ _)) _ _
  have hp : p.Reassociated q :=
    .trans (.symm (.andChain _ _ _)) (.and (.and (.refl done) hinner) (.refl urgent))
  have hq : q.compile r = .ok cs := by rfl
  exact ⟨hp, (compile_reassociated hp r cs).2 hq, hq⟩

end DocQuery
