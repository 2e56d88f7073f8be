import DocQuery.Proofs.Compilation.Conjunction
import DocQuery.Proofs.Predicate.Normal

/-
  Wrappings that make no difference.
  A predicate that is compared to true, negated twice or joined with a neutral constant compiles to
  the same clauses wherever it stands in another predicate, and comparing it to false is negating it
  (`compile_fill_wrapping`). Normalising works from the leaves up, so predicates with the same
  normal form may stand for each other in every context (`normalizesLike_fill`).
-/

namespace DocQuery

/-! ## Contexts -/

/-- A predicate with a hole at one place. -/
inductive Context where
  | hole
  | andLeft (left : Context) (right : Predicate)
  | andRight (left : Predicate) (right : Context)
  | orLeft (left : Context) (right : Predicate)
  | orRight (left : Predicate) (right : Context)
  | not (operand : Context)
  | boolComparison (operand : Context) (op : Comparison) (value : Bool)

/-- The predicate with another one in its hole. -/
def Context.fill (p : Predicate) : Context → Predicate
  | hole => p
  | andLeft left right => .and (left.fill p) right
  | andRight left right => .and left (right.fill p)
  | orLeft left right => .or (left.fill p) right
  | orRight left right => .or left (right.fill p)
  | not operand => .not (operand.fill p)
  | boolComparison operand op value => .boolComparison (operand.fill p) op value

namespace Folded

theorem both_always (f : Folded) : f.both .always = f := by
  cases f <;> rfl

theorem always_both (f : Folded) : both .always f = f := by
  cases f <;> rfl

theorem either_never (f : Folded) : f.either .never = f := by
  cases f <;> rfl

theorem never_either (f : Folded) : either .never f = f := by
  cases f <;> rfl

end Folded

namespace Predicate

/-- Two predicates that have the same normal form, or none both. -/
def NormalizesLike (p q : Predicate) : Prop :=
  ∀ f, p.normalize = .ok f ↔ q.normalize = .ok f

variable {p q : Predicate}

theorem normalizesLike_not (h : NormalizesLike p q) : NormalizesLike (.not p) (.not q) := by
  intro f
  simp only [normalize, bind_eq_ok]
  simp only [h _]

theorem normalizesLike_and {p' q' : Predicate} (h : NormalizesLike p q)
    (h' : NormalizesLike p' q') : NormalizesLike (.and p p') (.and q q') := by
  intro f
  simp only [normalize, bind_eq_ok]
  simp only [h _, h' _]

theorem normalizesLike_or {p' q' : Predicate} (h : NormalizesLike p q)
    (h' : NormalizesLike p' q') : NormalizesLike (.or p p') (.or q q') := by
  intro f
  simp only [normalize, bind_eq_ok]
  simp only [h _, h' _]

/-- The error of a comparison may show its operand, so only the normal forms are the same. -/
theorem normalizesLike_boolComparison (h : NormalizesLike p q) (op : Comparison) (value : Bool) :
    NormalizesLike (.boolComparison p op value) (.boolComparison q op value) := by
  intro f
  simp only [normalize]
  cases keeps? op value with
  | none => simp
  | some keep =>
    simp only [bind_eq_ok]
    simp only [h _]

theorem normalizesLike_refl (p : Predicate) : NormalizesLike p p := fun _ => Iff.rfl

theorem normalizesLike_fill (h : NormalizesLike p q) (c : Context) :
    NormalizesLike (c.fill p) (c.fill q) := by
  induction c with
  | hole => exact h
  | andLeft left right ih => exact normalizesLike_and ih (normalizesLike_refl right)
  | andRight left right ih => exact normalizesLike_and (normalizesLike_refl left) ih
  | orLeft left right ih => exact normalizesLike_or ih (normalizesLike_refl right)
  | orRight left right ih => exact normalizesLike_or (normalizesLike_refl left) ih
  | not operand ih => exact normalizesLike_not ih
  | boolComparison operand op value ih => exact normalizesLike_boolComparison ih op value

/-- Only the normal form of a predicate decides on its clauses. -/
theorem compile_of_normalizesLike (h : NormalizesLike p q) (r : Resolver) (cs : List Clause) :
    p.compile r = .ok cs ↔ q.compile r = .ok cs := by
  rw [compile_eq, compile_eq, bind_eq_ok, bind_eq_ok]
  constructor
  · rintro ⟨f, hf, hcs⟩
    exact ⟨f, (h f).1 hf, hcs⟩
  · rintro ⟨f, hf, hcs⟩
    exact ⟨f, (h f).2 hf, hcs⟩

/-! ## Wrappings -/

/-- The ways to wrap a predicate that say the same again. -/
def redundantWrappings (p : Predicate) : List Predicate :=
  [p.equals true, .boolComparison p .ne false, .not (.not p),
    .and p (.constant (.bool true)), .and (.constant (.bool true)) p,
    .or p (.constant (.bool false)), .or (.constant (.bool false)) p]

/-- The ways to wrap a predicate that say the opposite. -/
def opposingWrappings (p : Predicate) : List Predicate :=
  [p.equals false, .boolComparison p .ne true]

/-- A wrapping says the same again if it gives normal forms back. -/
theorem normalizesLike_of_fold {w : Predicate} (g : Folded → Folded)
    (hw : w.normalize = do return g (← p.normalize))
    (hg : ∀ f, f.isNormal = true → g f = f) : NormalizesLike w p := by
  intro f
  rw [hw]
  cases hp : p.normalize with
  | error cause => simp
  | ok f' =>
    have hf' := hg f' (isNormal_normalize hp)
    simp [hf', pure, Except.pure]

theorem normalizesLike_redundant {w : Predicate} (hw : w ∈ p.redundantWrappings) :
    NormalizesLike w p := by
  simp only [redundantWrappings, List.mem_cons, List.not_mem_nil, or_false] at hw
  rcases hw with rfl | rfl | rfl | rfl | rfl | rfl | rfl
  · exact normalizesLike_of_fold id (by simp [equals, normalize, keeps?]) (fun _ _ => rfl)
  · exact normalizesLike_of_fold id (by simp [normalize, keeps?]) (fun _ _ => rfl)
  · exact normalizesLike_of_fold (fun f => f.negate.negate) (by simp [normalize])
      (fun _ => Folded.negate_negate)
  · exact normalizesLike_of_fold (Folded.both · .always) (by simp only [normalize]; rfl)
      (fun f _ => f.both_always)
  · exact normalizesLike_of_fold (Folded.both .always) (by simp [normalize])
      (fun f _ => f.always_both)
  · exact normalizesLike_of_fold (Folded.either · .never) (by simp only [normalize]; rfl)
      (fun f _ => f.either_never)
  · exact normalizesLike_of_fold (Folded.either .never) (by simp [normalize])
      (fun f _ => f.never_either)

theorem normalizesLike_opposing {w : Predicate} (hw : w ∈ p.opposingWrappings) :
    NormalizesLike w (.not p) := by
  simp only [opposingWrappings, List.mem_cons, List.not_mem_nil, or_false] at hw
  intro f
  rcases hw with rfl | rfl
  · simp [equals, normalize, keeps?]
  · simp [normalize, keeps?]

end Predicate

/-! ## Main theorem -/

/-- Wrapping a predicate in a way that says the same again changes nothing, wherever the predicate
stands: either way compiling fails, or it gives the same clauses. Wrapping it in a way that says the
opposite is negating it. -/
theorem compile_fill_wrapping (r : Resolver) (c : Context) (p : Predicate) :
    (∀ w ∈ p.redundantWrappings, ∀ cs,
      (c.fill w).compile r = .ok cs ↔ (c.fill p).compile r = .ok cs) ∧
    ∀ w ∈ p.opposingWrappings, ∀ cs,
      (c.fill w).compile r = .ok cs ↔ (c.fill (.not p)).compile r = .ok cs := by
  refine ⟨fun w hw cs => ?_, fun w hw cs => ?_⟩
  · have h := Predicate.normalizesLike_redundant hw
    exact Predicate.compile_of_normalizesLike (Predicate.normalizesLike_fill h c) r cs
  · have h := Predicate.normalizesLike_opposing hw
    exact Predicate.compile_of_normalizesLike (Predicate.normalizesLike_fill h c) r cs

/-- The hole stands under a negation, and what is wrapped is a negation itself. -/
theorem compile_fill_wrapping_ticket :
    let r := ticketIndex.resolver
    let c := Context.orLeft (.not (.boolComparison .hole .ne true)) (.flag "Urgent")
    let p := Predicate.not (.and (.flag "Done") (.flag "Urgent"))
    let cs : List Clause := [.allOf [.anyOf [
      .noneOf [.allOf [.allOf [.term "done" (.bool true)], .allOf [.term "urgent" (.bool true)]]],
      .allOf [.term "urgent" (.bool true)]]]]
    (c.fill p).compile r = .ok cs ∧ (c.fill (.not (.not p))).compile r = .ok cs ∧
      ((c.fill (p.equals false)).compile r = .ok cs ↔ (c.fill (.not p)).compile r = .ok cs) := by
  intro r c p cs
  have hp : (c.fill p).compile r = .ok cs := by rfl
  have h := compile_fill_wrapping r c p
  refine ⟨hp, ?_, h.2 _ (by simp [Predicate.opposingWrappings]) cs⟩
  exact (h.1 _ (by simp [Predicate.redundantWrappings]) cs).2 hp

end DocQuery
