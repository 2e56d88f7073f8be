import DocQuery.Proofs.Compilation.Leaf
import DocQuery.Proofs.Execution.Answer
import DocQuery.Proofs.Predicate.Normal

/-
  Filters one after the other.
  Filtering by some predicates in turn gives the same answers as filtering by their conjunction, in
  whatever order the filters come and however the conjunction is nested
  (`filters_eq_conjunction`). The two differ only where a conjunction folds to nothing and hides a
  filter that does not compile.
-/

namespace DocQuery

open Document

variable {r : Resolver}

/-! ## Clauses of a conjunction -/

namespace Folded

theorem clauses_both {f g : Folded} {cs ds : List Clause} (hf : f.clauses r = .ok cs)
    (hg : g.clauses r = .ok ds) :
    ∃ es, (f.both g).clauses r = .ok es ∧
      ∀ doc, allMatch doc es = (allMatch doc cs && allMatch doc ds) := by
  cases f with
  | never =>
    cases hf
    exact ⟨_, rfl, by simp⟩
  | always =>
    cases hf
    refine ⟨ds, ?_, by simp⟩
    cases g <;> exact hg
  | condition p =>
    cases g with
    | never =>
      cases hg
      exact ⟨_, rfl, by simp⟩
    | always =>
      cases hg
      exact ⟨cs, hf, by simp⟩
    | condition q =>
      obtain ⟨xs, hxs, hf⟩ := bind_eq_ok.1 hf
      obtain ⟨ys, hys, hg⟩ := bind_eq_ok.1 hg
      cases pure_eq_ok.1 hf
      cases pure_eq_ok.1 hg
      refine ⟨[.allOf (xs ++ ys)], ?_, by simp⟩
      simp only [both, clauses, Compilation.conj, hxs, hys, ok_bind]
      rfl

/-- Only a constant that never holds can hide the other side of a conjunction. -/
theorem clauses_of_both {f g : Folded} {es : List Clause} (h : (f.both g).clauses r = .ok es)
    (hf : f ≠ .never) (hg : g ≠ .never) :
    (∃ cs, f.clauses r = .ok cs) ∧ ∃ ds, g.clauses r = .ok ds := by
  cases f with
  | never => exact absurd rfl hf
  | always =>
    refine ⟨⟨_, rfl⟩, es, ?_⟩
    cases g <;> exact h
  | condition p =>
    cases g with
    | never => exact absurd rfl hg
    | always => exact ⟨⟨es, h⟩, _, rfl⟩
    | condition q =>
      obtain ⟨zs, hzs, -⟩ := bind_eq_ok.1 h
      simp only [Compilation.conj, bind_eq_ok] at hzs
      obtain ⟨xs, hxs, ys, hys, -⟩ := hzs
      exact ⟨⟨[.allOf xs], by simp [clauses, hxs]⟩, [.allOf ys], by simp [clauses, hys]⟩

theorem both_eq_never {f g : Folded} : f.both g = .never ↔ f = .never ∨ g = .never := by
  cases f <;> cases g <;> simp [both]

end Folded

namespace Predicate

/-- Whether a predicate compiles and all its clauses match a document. -/
def selects (r : Resolver) (doc : Json) (p : Predicate) : Bool :=
  match p.compile r with
  | .ok cs => allMatch doc cs
  | .error _ => false

theorem selects_of_compile {p : Predicate} {cs : List Clause} (h : p.compile r = .ok cs)
    (doc : Json) : p.selects r doc = allMatch doc cs := by
  simp [selects, h]

theorem compile_and {p q : Predicate} {cs ds : List Clause} (hp : p.compile r = .ok cs)
    (hq : q.compile r = .ok ds) :
    ∃ es, (and p q).compile r = .ok es ∧
      ∀ doc, allMatch doc es = (allMatch doc cs && allMatch doc ds) := by
  rw [compile_eq] at hp hq
  obtain ⟨f, hf, hp⟩ := bind_eq_ok.1 hp
  obtain ⟨g, hg, hq⟩ := bind_eq_ok.1 hq
  obtain ⟨es, hes, hmatch⟩ := Folded.clauses_both hp hq
  refine ⟨es, ?_, hmatch⟩
  rw [compile_eq]
  simpa [normalize, hf, hg, pure, Except.pure] using hes

theorem compile_of_and {p q : Predicate} {es : List Clause} (h : (and p q).compile r = .ok es)
    (hp : p.normalize ≠ .ok .never) (hq : q.normalize ≠ .ok .never) :
    (∃ cs, p.compile r = .ok cs) ∧ ∃ ds, q.compile r = .ok ds := by
  rw [compile_eq] at h
  obtain ⟨_, hpq, h⟩ := bind_eq_ok.1 h
  obtain ⟨f, g, hf, hg, rfl⟩ := normalize_and hpq
  rw [hf] at hp
  rw [hg] at hq
  have hfg := Folded.clauses_of_both h (fun e => hp (e ▸ rfl)) (fun e => hq (e ▸ rfl))
  rw [compile_eq, compile_eq, hf, hg]
  exact hfg

/-- A conjunction of some predicates in their order, nested in any way. -/
inductive IsConjunction : List Predicate → Predicate → Prop where
  | single (p : Predicate) : IsConjunction [p] p
  | and {ps qs : List Predicate} {p q : Predicate} :
    IsConjunction ps p → IsConjunction qs q → IsConjunction (ps ++ qs) (.and p q)

theorem IsConjunction.compile {ps : List Predicate} {p : Predicate} (hp : IsConjunction ps p)
    (h : ∀ q ∈ ps, ∃ cs, q.compile r = .ok cs) :
    ∃ cs, p.compile r = .ok cs ∧ ∀ doc, allMatch doc cs = ps.all (selects r doc) := by
  induction hp with
  | single p =>
    obtain ⟨cs, hcs⟩ := h p (by simp)
    exact ⟨cs, hcs, fun doc => by simp [selects_of_compile hcs]⟩
  | and _ _ ihp ihq =>
    obtain ⟨cs, hcs, hp⟩ := ihp fun q hq => h q (List.mem_append_left _ hq)
    obtain ⟨ds, hds, hq⟩ := ihq fun q hq => h q (List.mem_append_right _ hq)
    obtain ⟨es, hes, hmatch⟩ := compile_and hcs hds
    exact ⟨es, hes, fun doc => by rw [hmatch, hp, hq, List.all_append]⟩

theorem IsConjunction.exists_never {ps : List Predicate} {p : Predicate}
    (hp : IsConjunction ps p) (h : p.normalize = .ok .never) :
    ∃ q ∈ ps, q.normalize = .ok .never := by
  induction hp with
  | single p => exact ⟨p, by simp, h⟩
  | and _ _ ihp ihq =>
    obtain ⟨f, g, hf, hg, hnever⟩ := normalize_and h
    rcases Folded.both_eq_never.1 hnever.symm with rfl | rfl
    · obtain ⟨q, hq, hnever⟩ := ihp hf
      exact ⟨q, List.mem_append_left _ hq, hnever⟩
    · obtain ⟨q, hq, hnever⟩ := ihq hg
      exact ⟨q, List.mem_append_right _ hq, hnever⟩

/-- The predicates of a conjunction that compiles do so themselves, unless one of them never
holds. -/
theorem IsConjunction.compile_each {ps : List Predicate} {p : Predicate}
    (hp : IsConjunction ps p) {cs : List Clause} (h : p.compile r = .ok cs)
    (hnever : ∀ q ∈ ps, q.normalize ≠ .ok .never) : ∀ q ∈ ps, ∃ ds, q.compile r = .ok ds := by
  induction hp generalizing cs with
  | single p => simpa using ⟨cs, h⟩
  | and hp hq ihp ihq =>
    have hneverp := fun q hq => hnever q (List.mem_append_left _ hq)
    have hneverq := fun q hq => hnever q (List.mem_append_right _ hq)
    have hcompile := compile_of_and h
      (fun e => by obtain ⟨q, hq, e⟩ := hp.exists_never e; exact hneverp q hq e)
      (fun e => by obtain ⟨q, hq, e⟩ := hq.exists_never e; exact hneverq q hq e)
    obtain ⟨⟨xs, hxs⟩, ys, hys⟩ := hcompile
    intro q hq
    rcases List.mem_append.1 hq with hq | hq
    · exact ihp hxs hneverp q hq
    · exact ihq hys hneverq q hq

end Predicate

/-! ## Filters of a query -/

namespace Query

theorem filter_eq_ok {a b : Query} {p : Predicate} :
    a.filter r p = .ok b ↔
      ∃ cs, p.compile r = .ok cs ∧ b = { a with clauses := a.clauses ++ cs } := by
  have hmerge : ∀ cs, a.merge cs {} = { a with clauses := a.clauses ++ cs } := by
    intro cs
    simp [merge]
  simp only [filter, bind_eq_ok, pure_eq_ok, hmerge]
  constructor
  · rintro ⟨cs, hcs, rfl⟩
    exact ⟨cs, hcs, rfl⟩
  · rintro ⟨cs, hcs, rfl⟩
    exact ⟨cs, hcs, rfl⟩

theorem filter_filter (a : Query) (p q : Predicate) :
    (a.filter r p >>= fun b => b.filter r q) = a.filterAll r [p, q] := by
  simp only [filterAll]
  cases a.filter r p with
  | error cause => rfl
  | ok b => cases h : b.filter r q <;> simp [h]

/-- Filters that all compile add clauses that match what all filters select. -/
theorem filterAll_of_compile (a : Query) {ps : List Predicate}
    (h : ∀ p ∈ ps, ∃ cs, p.compile r = .ok cs) :
    ∃ cs, a.filterAll r ps = .ok { a with clauses := a.clauses ++ cs } ∧
      ∀ doc, allMatch doc cs = ps.all (Predicate.selects r doc) := by
  induction ps generalizing a with
  | nil => exact ⟨[], by simp [filterAll], by simp⟩
  | cons p ps ih =>
    obtain ⟨cs, hcs⟩ := h p (by simp)
    have hp := filter_eq_ok.2 ⟨cs, hcs, (rfl : _ = { a with clauses := a.clauses ++ cs })⟩
    obtain ⟨ds, hds, hmatch⟩ := ih { a with clauses := a.clauses ++ cs }
      fun q hq => h q (List.mem_cons_of_mem _ hq)
    refine ⟨cs ++ ds, ?_, fun doc => ?_⟩
    · rw [filterAll, hp, ok_bind, hds, List.append_assoc]
    · rw [allMatch_append, hmatch, List.all_cons, Predicate.selects_of_compile hcs]

theorem compile_of_filterAll {a b : Query} {ps : List Predicate}
    (h : a.filterAll r ps = .ok b) : ∀ p ∈ ps, ∃ cs, p.compile r = .ok cs := by
  induction ps generalizing a with
  | nil => simp
  | cons p ps ih =>
    simp only [filterAll, bind_eq_ok] at h
    obtain ⟨c, hp, h⟩ := h
    obtain ⟨cs, hcs, -⟩ := filter_eq_ok.1 hp
    intro q hq
    rcases List.mem_cons.1 hq with rfl | hq
    · exact ⟨cs, hcs⟩
    · exact ih h q hq

/-- Clauses that match the same documents give the same answers when they are added to a query. -/
theorem sameAnswers_append {a : Query} {cs ds : List Clause}
    (h : ∀ doc, allMatch doc cs = allMatch doc ds) :
    SameAnswers r { a with clauses := a.clauses ++ cs } { a with clauses := a.clauses ++ ds } := by
  have hall : ∀ doc, allMatch doc (a.clauses ++ cs) = allMatch doc (a.clauses ++ ds) := by
    intro doc
    rw [allMatch_append, allMatch_append, h doc]
  exact sameAnswers_of_allMatch (q := { a with clauses := a.clauses ++ ds }) hall

theorem filterAll_eq_ok {a b : Query} {ps : List Predicate} (h : a.filterAll r ps = .ok b) :
    ∃ cs, b = { a with clauses := a.clauses ++ cs } ∧
      ∀ doc, allMatch doc cs = ps.all (Predicate.selects r doc) := by
  obtain ⟨cs, hcs, hmatch⟩ := filterAll_of_compile a (compile_of_filterAll h)
  rw [h] at hcs
  cases hcs
  exact ⟨cs, rfl, hmatch⟩

theorem filter_of_filterAll {a b : Query} {ps : List Predicate} {p : Predicate}
    (hp : Predicate.IsConjunction ps p) (h : a.filterAll r ps = .ok b) :
    ∃ c, a.filter r p = .ok c ∧ SameAnswers r b c := by
  obtain ⟨cs, rfl, hcs⟩ := filterAll_eq_ok h
  obtain ⟨ds, hcompile, hds⟩ := hp.compile (compile_of_filterAll h)
  exact ⟨_, filter_eq_ok.2 ⟨ds, hcompile, rfl⟩,
    sameAnswers_append fun doc => by rw [hcs, hds]⟩

theorem filterAll_perm {a b : Query} {ps qs : List Predicate} (hperm : qs.Perm ps)
    (h : a.filterAll r ps = .ok b) :
    ∃ c, a.filterAll r qs = .ok c ∧ SameAnswers r b c := by
  obtain ⟨cs, rfl, hcs⟩ := filterAll_eq_ok h
  obtain ⟨ds, hfilter, hds⟩ := filterAll_of_compile a
    fun q hq => compile_of_filterAll h q (hperm.mem_iff.1 hq)
  exact ⟨_, hfilter, sameAnswers_append fun doc => by rw [hcs, hds, hperm.all_eq]⟩

/-- A conjunction succeeds where its filters in turn fail only by folding to nothing. -/
theorem exists_never_of_filter {a c : Query} {ps : List Predicate} {p : Predicate}
    {cause : QueryError} (hp : Predicate.IsConjunction ps p) (h : a.filter r p = .ok c)
    (herror : a.filterAll r ps = .error cause) : ∃ q ∈ ps, q.normalize = .ok .never := by
  refine Classical.byContradiction fun hnever => ?_
  obtain ⟨cs, hcs, -⟩ := filter_eq_ok.1 h
  have heach := hp.compile_each hcs fun q hq e => hnever ⟨q, hq, e⟩
  obtain ⟨ds, hds, -⟩ := filterAll_of_compile a heach
  rw [herror] at hds
  cases hds

end Query

/-! ## Main theorem -/

/-- Filtering by two predicates in turn, in either order, answers like filtering by their
conjunction, and where only the conjunction succeeds a predicate folds to nothing. The same holds
of any number of predicates, in any order, and of every conjunction of them. -/
theorem filters_eq_conjunction (r : Resolver) (a : Query) :
    (∀ p q : Predicate,
      (∀ b, (a.filter r p >>= fun b => b.filter r q) = .ok b →
        (∃ c, a.filter r (.and p q) = .ok c ∧ SameAnswers r b c) ∧
        ∃ c, (a.filter r q >>= fun b => b.filter r p) = .ok c ∧ SameAnswers r b c) ∧
      ∀ c cause, a.filter r (.and p q) = .ok c →
        (a.filter r p >>= fun b => b.filter r q) = .error cause →
        p.normalize = .ok .never ∨ q.normalize = .ok .never) ∧
    ∀ ps p, Predicate.IsConjunction ps p →
      (∀ b, a.filterAll r ps = .ok b →
        (∃ c, a.filter r p = .ok c ∧ SameAnswers r b c) ∧
        ∀ qs, qs.Perm ps → ∃ c, a.filterAll r qs = .ok c ∧ SameAnswers r b c) ∧
      ∀ c cause, a.filter r p = .ok c → a.filterAll r ps = .error cause →
        ∃ q ∈ ps, q.normalize = .ok .never := by
  constructor
  · intro p q
    have hand : Predicate.IsConjunction [p, q] (.and p q) := .and (.single p) (.single q)
    simp only [Query.filter_filter]
    refine ⟨fun b h => ⟨Query.filter_of_filterAll hand h, ?_⟩, fun c cause h herror => ?_⟩
    · exact Query.filterAll_perm (.swap p q []) h
    · simpa using Query.exists_never_of_filter hand h herror
  · intro ps p hp
    refine ⟨fun b h => ⟨Query.filter_of_filterAll hp h, fun qs hperm => ?_⟩, fun c cause => ?_⟩
    · exact Query.filterAll_perm hperm h
    · exact Query.exists_never_of_filter hp

theorem filters_eq_conjunction_ticket :
    let r := ticketIndex.resolver
    let done := Predicate.flag "Done"
    let urgent := Predicate.flag "Urgent"
    let never := Predicate.constant (.bool false)
    let owner := Predicate.flag "Owner"
    (∃ b c d : Query, Query.filterAll {} r [done, urgent] = .ok b ∧
      Query.filter {} r (.and done urgent) = .ok c ∧
      Query.filterAll {} r [urgent, done] = .ok d ∧ SameAnswers r b c ∧ SameAnswers r b d) ∧
      (never.normalize = .ok .never ∨ owner.normalize = .ok .never) := by
  intro r done urgent never owner
  have h := filters_eq_conjunction r {}
  have hand : Predicate.IsConjunction [done, urgent] (.and done urgent) :=
    .and (.single done) (.single urgent)
  have hfilter : Query.filterAll {} r [done, urgent] = .ok {
      clauses := [.allOf [.allOf [.term "done" (.bool true)]],
        .allOf [.allOf [.term "urgent" (.bool true)]]] } := by
    rfl
  obtain ⟨⟨c, hc, hbc⟩, hperm⟩ := (h.2 _ _ hand).1 _ hfilter
  obtain ⟨d, hd, hbd⟩ := hperm _ (.swap done urgent [])
  refine ⟨⟨_, c, d, hfilter, hc, hd, hbc, hbd⟩, ?_⟩
  exact (h.1 never owner).2 { clauses := [.matchNone] } _ rfl rfl

end DocQuery
