import DocQuery.Proofs.Compilation.Ordering
import DocQuery.Proofs.Compilation.Term
import DocQuery.Proofs.Instant.Injective

/-
  Comparing instants that are held as texts.
  A field of instants holds terms, and a term is compared with another as its text is. Equality is
  that of the instants. In the years 0 to 9999 texts are read again and are in the order of the
  instants; beyond these years they are compared by their characters, which puts every instant after
  year 9999 before all others (`instants_compared`), so it is found as an earlier one
  (`later_found_ticket`).
-/

namespace DocQuery

open Document

/-- Whether a leap second in a value stands at the end of a minute. -/
def Value.IsCivil : Value → Prop
  | datetime t => t.IsCivil
  | _ => True

theorem Value.isCivil_of_toInstant {v : Value} (hv : v.IsCivil) {t : Instant}
    (h : v.toInstant = .ok t) : t.IsCivil := by
  cases v with
  | datetime u =>
    cases h
    exact hv
  | text s => exact Instant.isCivil_of_parse? (elim_eq_ok.1 h)
  | signed n => exact Instant.isCivil_of_ofSeconds? (elim_eq_ok.1 h)
  | unsigned n => exact Instant.isCivil_of_ofSeconds? (elim_eq_ok.1 h)
  | _ => cases h

namespace Compilation

variable {r : Resolver} {property : String} {field : ResolvedField} {x y : Value} {s t : Instant}

theorem toTerm_of_toInstant {kind : FieldKind} (hkind : kind = .datetime)
    (h : x.toInstant = .ok s) : x.toTerm kind = .ok (.string s.render) := by
  rw [hkind, Value.toTerm, h]
  rfl

/-- In a field of instants a text is compared with the term of a value. -/
theorem compile_instants (hfield : r.resolve property = .ok field)
    (hkind : field.kind = .datetime) (ht : y.toInstant = .ok t) :
    ∃ clauses : Comparison → List Clause,
      (∀ op, (Predicate.comparison property op y).compile r = .ok (clauses op)) ∧
      ∀ doc text, fieldValues doc field.name = [.string text] → ∀ op,
        allMatch doc (clauses op) = op.accepts (compareTexts text t.render) := by
  have horders : y.OrdersIn field.kind := by
    rw [hkind]
    exact .instant ht
  obtain ⟨clauses, hclauses, hmatch⟩ :=
    compile_ordered_of_term hfield horders (toTerm_of_toInstant hkind ht)
  refine ⟨clauses, hclauses, fun doc text hdoc => ?_⟩
  have htext : (Json.string text).OrdersIn field.kind := by
    rw [hkind]
    exact .string text
  obtain ⟨order, horder, hop⟩ := hmatch doc _ hdoc htext
  cases horder
  exact hop

end Compilation

open Compilation

/-- Comparing a field that holds the term of one instant with another instant finds the two equal
exactly if their texts show the same one, which is the instant itself unless a leap second stands in
the middle of a minute. If their years have four digits they are in order, too; otherwise their
texts are, and two instants of different eras are in order exactly if none is after year 9999. -/
theorem instants_compared {r : Resolver} {property : String} {field : ResolvedField} {x y : Value}
    {s t : Instant} (hfield : r.resolve property = .ok field) (hkind : field.kind = .datetime)
    (hs : x.toInstant = .ok s) (ht : y.toInstant = .ok t) (hx : x.IsValid) (hy : y.IsValid) :
    (x.IsCivil → s.shown = s) ∧ (y.IsCivil → t.shown = t) ∧
      ∃ term, x.toTerm field.kind = .ok term ∧ ∃ clauses : Comparison → List Clause,
        (∀ op, (Predicate.comparison property op y).compile r = .ok (clauses op)) ∧
        ∀ doc, fieldValues doc field.name = [term] → ∃ order,
          (∀ op, allMatch doc (clauses op) = op.accepts order) ∧
          (order = .eq ↔ s.shown = t.shown) ∧
          (s.era = .common → t.era = .common → order = s.shown.order t.shown) ∧
          (s.era ≠ t.era → (order = s.order t ↔ s.era ≠ .after ∧ t.era ≠ .after)) ∧
          (s.era = t.era → s.era ≠ .common → order = compare s.render t.render) := by
  have hsvalid := Value.isValid_of_toInstant hx hs
  have htvalid := Value.isValid_of_toInstant hy ht
  obtain ⟨clauses, hclauses, hmatch⟩ := compile_instants hfield hkind ht
  refine ⟨fun hcivil => Instant.shown_of_isCivil (Value.isCivil_of_toInstant hcivil hs),
    fun hcivil => Instant.shown_of_isCivil (Value.isCivil_of_toInstant hcivil ht),
    _, toTerm_of_toInstant hkind hs, clauses, hclauses, fun doc hdoc => ?_⟩
  refine ⟨_, hmatch doc _ hdoc, Instant.compareTexts_eq_iff_shown hsvalid htvalid, ?_, ?_, ?_⟩
  · intro hcommons hcommont
    exact compareTexts_render (Instant.isWritable_iff.2 ⟨hcommons, hsvalid⟩)
      (Instant.isWritable_iff.2 ⟨hcommont, htvalid⟩)
  · intro hne
    have hany : s.era ≠ .common ∨ t.era ≠ .common := by grind
    rw [compareTexts_render_of_era_ne hany]
    exact Instant.compare_render_eq_order_iff hne
  · intro _ hne
    exact compareTexts_render_of_era_ne (Or.inl hne)

/-- A leap second in another offset is before the second after it. -/
theorem instants_compared_ticket :
    let r := datedIndex.resolver
    let x := Value.text "2016-12-31T23:59:60.25+01:00"
    let y := Value.signed 1483225200
    let old := Json.object [("createdAt", .string "2016-12-31T22:59:60.250Z")]
    r.resolve "CreatedAt" = .ok ⟨"createdAt", .datetime⟩ ∧
      x.toInstant = .ok ⟨1483225199, 1250000000⟩ ∧ y.toInstant = .ok ⟨1483225200, 0⟩ ∧
      x.toTerm .datetime = .ok (.string "2016-12-31T22:59:60.250Z") ∧
      fieldValues old "createdAt" = [.string "2016-12-31T22:59:60.250Z"] ∧
      ∃ clauses : Comparison → List Clause,
        (∀ op, (Predicate.comparison "CreatedAt" op y).compile r = .ok (clauses op)) ∧
        [clauses .lt, clauses .eq, clauses .gt].map (allMatch old) = [true, false, false] := by
  intro r x y old
  have hcreated : r.resolve "CreatedAt" = .ok ⟨"createdAt", .datetime⟩ := by decide
  have hx : x.toInstant = .ok ⟨1483225199, 1250000000⟩ := Value.toInstant_text (by decide +kernel)
  have hy : y.toInstant = .ok ⟨1483225200, 0⟩ := by rfl
  have hold : fieldValues old "createdAt" = [.string "2016-12-31T22:59:60.250Z"] :=
    fieldValues_only_entry (by decide) _
  obtain ⟨hshownx, hshowny, term, hterm, clauses, hclauses, hmatch⟩ :=
    instants_compared (r := r) hcreated rfl hx hy (by trivial) (by trivial)
  have hrender : Instant.render ⟨1483225199, 1250000000⟩ = "2016-12-31T22:59:60.250Z" := by
    decide +kernel
  have hx' : x.toTerm .datetime = .ok (.string "2016-12-31T22:59:60.250Z") := by
    rw [toTerm_of_toInstant rfl hx, hrender]
  rw [hx', Except.ok.injEq] at hterm
  subst hterm
  obtain ⟨order, hop, -, hcommon, -, -⟩ := hmatch old hold
  have horder := hcommon (by decide +kernel) (by decide +kernel)
  rw [hshownx (by trivial), hshowny (by trivial)] at horder
  have hlt : order = .lt := horder.trans (by decide)
  refine ⟨hcreated, hx, hy, hx', hold, clauses, hclauses, ?_⟩
  simp [hop, hlt, Comparison.accepts]

/-- The first instant of year 10000 is found before the first one of 1970. -/
theorem later_found_ticket :
    let r := datedIndex.resolver
    let x := Value.signed 253402300800
    let y := Value.unsigned 0
    let late := Json.object [("createdAt", .string "+10000-01-01T00:00:00Z")]
    x.toInstant = .ok ⟨253402300800, 0⟩ ∧ y.toInstant = .ok ⟨0, 0⟩ ∧
      Instant.order ⟨253402300800, 0⟩ ⟨0, 0⟩ = .gt ∧
      x.toTerm .datetime = .ok (.string "+10000-01-01T00:00:00Z") ∧
      r.resolve "CreatedAt" = .ok ⟨"createdAt", .datetime⟩ ∧
      fieldValues late "createdAt" = [.string "+10000-01-01T00:00:00Z"] ∧
      ∃ lt gt, (Predicate.comparison "CreatedAt" .lt y).compile r = .ok lt ∧
        (Predicate.comparison "CreatedAt" .gt y).compile r = .ok gt ∧
        [lt, gt].map (allMatch late) = [true, false] := by
  intro r x y late
  have hcreated : r.resolve "CreatedAt" = .ok ⟨"createdAt", .datetime⟩ := by decide
  have hlate : fieldValues late "createdAt" = [.string "+10000-01-01T00:00:00Z"] :=
    fieldValues_only_entry (by decide) _
  have hx : x.toInstant = .ok ⟨253402300800, 0⟩ := by rfl
  have hy : y.toInstant = .ok ⟨0, 0⟩ := by rfl
  have hrender : Instant.render ⟨253402300800, 0⟩ = "+10000-01-01T00:00:00Z" := by decide +kernel
  have hterm : x.toTerm .datetime = .ok (.string "+10000-01-01T00:00:00Z") := by
    rw [toTerm_of_toInstant rfl hx, hrender]
  have horder : compareTexts "+10000-01-01T00:00:00Z" (Instant.render ⟨0, 0⟩) = .lt := by
    decide +kernel
  obtain ⟨clauses, hclauses, hmatch⟩ := compile_instants (r := r) hcreated rfl hy
  refine ⟨hx, hy, by decide, hterm, hcreated, hlate, _, _, hclauses .lt, hclauses .gt, ?_⟩
  simp [hmatch late _ hlate, horder, Comparison.accepts]

end DocQuery
