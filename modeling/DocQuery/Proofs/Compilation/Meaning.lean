import DocQuery.Proofs.Compilation.Leaf
import DocQuery.Proofs.Predicate.Truth

/-
  The meaning of compiled predicates.
  The clauses of a predicate match a document exactly when the predicate is true of it, and a leaf
  is true of the documents that its own clauses match (`compile_denotes`).
-/

namespace DocQuery

open Document

/-- The truth values of a leaf: whether its own clauses match, or both if it has none. -/
def LeafTruth (r : Resolver) (doc : Json) (p : Predicate) (b : Bool) : Prop :=
  ∀ cs, p.compile r = .ok cs → allMatch doc cs = b

variable {r : Resolver} {doc : Json}

theorem exists_leafTruth (p : Predicate) : ∃ b, LeafTruth r doc p b := by
  cases h : p.compile r with
  | error cause => exact ⟨true, fun cs hcs => by rw [h] at hcs; cases hcs⟩
  | ok cs => exact ⟨allMatch doc cs, fun ds hds => by rw [h] at hds; cases hds; rfl⟩

/-- A call has the truth values of the predicate it means. -/
theorem leafTruth_call {method property : String} {args : List Value} {q : Predicate} {b : Bool}
    (hq : Predicate.ofCall? method property args = some q)
    (h : LeafTruth r doc (.call method property args) b) : LeafTruth r doc q b := by
  obtain ⟨op, pattern, rfl⟩ := Predicate.ofCall?_eq_some hq
  intro cs hcs
  refine h cs ?_
  rw [Predicate.compile_eq] at hcs ⊢
  simpa [Predicate.normalize, hq] using hcs

namespace Compilation

/-- The truth value of a leaf is whether its clause matches. -/
theorem isMatch_leafClause {p : Predicate} {c : Clause} (h : leafClause r p = .ok c) {b : Bool}
    (hp : p.Denotes (LeafTruth r doc) b) : isMatch doc c = b := by
  obtain ⟨hleaf, hcompile⟩ := compile_leaf h
  have := (Predicate.denotes_leaf_iff hleaf).1 hp _ hcompile
  simpa using this

/-- Some clauses that all match exactly when a predicate is true. -/
def AllMean (r : Resolver) (doc : Json) (p : Predicate) (cs : List Clause) : Prop :=
  HoldsTruthValues r doc p.properties →
    ∀ b, p.Denotes (LeafTruth r doc) b → allMatch doc cs = b

/-- Some clauses one of which matches exactly when a predicate is true. -/
def AnyMeans (r : Resolver) (doc : Json) (p : Predicate) (cs : List Clause) : Prop :=
  cs ≠ [] ∧ (HoldsTruthValues r doc p.properties →
    ∀ b, p.Denotes (LeafTruth r doc) b → anyMatch doc cs = b)

theorem allMean_and {left right : Predicate} {cs ds : List Clause} (hl : AllMean r doc left cs)
    (hr : AllMean r doc right ds) : AllMean r doc (.and left right) (cs ++ ds) := by
  intro hdoc b hb
  obtain ⟨x, y, hx, hy, rfl⟩ := Predicate.denotes_and_iff.1 hb
  have hx := hl (fun p hp => hdoc p (List.mem_append_left _ hp)) x hx
  have hy := hr (fun p hp => hdoc p (List.mem_append_right _ hp)) y hy
  rw [allMatch_append, hx, hy]

theorem anyMeans_or {left right : Predicate} {cs ds : List Clause}
    (hl : AnyMeans r doc left cs) (hr : AnyMeans r doc right ds) :
    AnyMeans r doc (.or left right) (cs ++ ds) := by
  refine ⟨by simp [hl.1], fun hdoc b hb => ?_⟩
  obtain ⟨x, y, hx, hy, rfl⟩ := Predicate.denotes_or_iff.1 hb
  have hx := hl.2 (fun p hp => hdoc p (List.mem_append_left _ hp)) x hx
  have hy := hr.2 (fun p hp => hdoc p (List.mem_append_right _ hp)) y hy
  rw [anyMatch_append, hx, hy]

theorem allMean_flipped {x : Predicate} {property : String} {op : Comparison} {value : Value}
    {c : Clause} (h : flipped? x = some (property, op, value))
    (hc : comparisonClause r property op value = .ok c) : AllMean r doc (.not x) [c] := by
  intro hdoc b hb
  obtain ⟨d, hd, hopposite⟩ := isMatch_flipped h hc hdoc
  have := isMatch_leafClause hd (Predicate.denotes_not_iff.1 hb)
  simp [hopposite, this]

/-- The clauses of a conjunction all match exactly when the node is true, and one of those of a
disjunction does. -/
theorem conj_disj_mean (p : Predicate) :
    (∀ cs, conj r p = .ok cs → AllMean r doc p cs) ∧
    (∀ cs, disj r p = .ok cs → AnyMeans r doc p cs) := by
  refine conj_disj_induction (C := AllMean r doc) (D := AnyMeans r doc)
    ?leaf ?and ?or ?flipped ?not ?branches ?branch p
  case leaf =>
    intro p c h _ b hb
    simp [isMatch_leafClause h hb]
  case and => exact fun _ _ _ _ => allMean_and
  case or =>
    intro left right cs ds hl hr hdoc b hb
    have h := anyMeans_or hl hr
    simp [isMatch_anyOf doc h.1, h.2 hdoc b hb]
  case flipped => exact fun _ _ _ _ _ h hc => allMean_flipped h hc
  case not =>
    intro x cs _ h hdoc b hb
    simp [isMatch_group, h hdoc _ (Predicate.denotes_not_iff.1 hb)]
  case branches => exact fun _ _ _ _ => anyMeans_or
  case branch =>
    intro p cs _ h
    refine ⟨by simp, fun hdoc b hb => ?_⟩
    simp [isMatch_group, h hdoc b hb]

end Compilation

/-- The clauses of a folded predicate all match exactly when it is true. -/
theorem Folded.allMatch_clauses {f : Folded} {cs : List Clause} {b : Bool}
    (h : f.clauses r = .ok cs) (hdoc : Compilation.HoldsTruthValues r doc f.properties)
    (hf : f.Denotes (LeafTruth r doc) b) : allMatch doc cs = b := by
  cases f with
  | always =>
    cases h
    cases hf
    rfl
  | never =>
    cases h
    cases hf
    simp
  | condition q =>
    obtain ⟨ds, hconj, h⟩ := bind_eq_ok.1 h
    cases pure_eq_ok.1 h
    simpa using (Compilation.conj_disj_mean q).1 ds hconj hdoc b hf

/-- A predicate is true of a document exactly when all its clauses match the document. Its truth
value is that of two-valued logic, over leaves that are true where their own clauses match; a leaf
without clauses of its own, which folding has removed, may have either value. The document has to
hold one truth value in every boolean field that the predicate mentions. -/
theorem compile_denotes {p : Predicate} {cs : List Clause} (h : p.compile r = .ok cs)
    (hdoc : Compilation.HoldsTruthValues r doc p.properties) (b : Bool) :
    p.Denotes (LeafTruth r doc) b ↔ allMatch doc cs = b := by
  rw [p.compile_eq] at h
  obtain ⟨f, hf, hclauses⟩ := bind_eq_ok.1 h
  have hdoc' : Compilation.HoldsTruthValues r doc f.properties :=
    fun property hp => hdoc property (Predicate.properties_normalize hf hp)
  have sound : ∀ b, p.Denotes (LeafTruth r doc) b → allMatch doc cs = b := by
    intro b hb
    refine Folded.allMatch_clauses hclauses hdoc' ?_
    exact Predicate.denotes_normalize (fun _ _ _ _ _ => leafTruth_call) hf hb
  constructor
  · exact sound b
  · rintro rfl
    obtain ⟨b, hb⟩ := Predicate.exists_denotes (fun q _ => exists_leafTruth q) hf
    rwa [sound b hb]

/-- A property that the index does not declare has no clause, but folding removes it here. -/
theorem compile_denotes_ticket :
    let r := ticketIndex.resolver
    let p := Predicate.not (.and (.flag "Urgent") (.boolComparison
      (.or (.and (.flag "Owner") (.constant (.bool false))) (.flag "Done")) .eq true))
    let cs : List Clause := [.allOf [.noneOf [.allOf [
      .allOf [.term "urgent" (.bool true)], .allOf [.term "done" (.bool true)]]]]]
    let doc := Json.object [("done", .bool false), ("urgent", .bool true)]
    p.compile r = .ok cs ∧ Compilation.HoldsTruthValues r doc p.properties ∧
      (p.Denotes (LeafTruth r doc) true ↔ allMatch doc cs = true) ∧ allMatch doc cs = true := by
  intro r p cs doc
  have hp : p.compile r = .ok cs := by rfl
  have hdoc : Compilation.HoldsTruthValues r doc p.properties := by
    intro property hproperty field hfield _
    have hcases : property = "Urgent" ∨ property = "Owner" ∨ property = "Done" := by
      simpa [p, Predicate.properties] using hproperty
    rcases hcases with rfl | rfl | rfl
    · cases hfield
      exact ⟨true, rfl⟩
    · cases hfield
    · cases hfield
      exact ⟨false, rfl⟩
  exact ⟨hp, hdoc, compile_denotes hp hdoc true, rfl⟩

end DocQuery
