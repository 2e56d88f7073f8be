/-
  Results of steps that can fail.
  A chain of steps succeeds exactly when every step does, and fails like the first one that does
  not.
-/

namespace DocQuery

variable {ε α β : Type}

@[simp] theorem ok_bind (a : α) (f : α → Except ε β) : (Except.ok a >>= f) = f a := rfl

@[simp] theorem error_bind (e : ε) (f : α → Except ε β) : (Except.error e >>= f) = .error e := rfl

@[simp] theorem map_ok (f : α → β) (a : α) : f <$> (Except.ok a : Except ε α) = .ok (f a) := rfl

@[simp] theorem map_error (f : α → β) (e : ε) : f <$> (Except.error e : Except ε α) = .error e :=
  rfl

theorem bind_eq_ok {x : Except ε α} {f : α → Except ε β} {b : β} :
    (x >>= f) = .ok b ↔ ∃ a, x = .ok a ∧ f a = .ok b := by
  cases x with
  | ok a => simp
  | error e => simp

theorem pure_eq_ok {a b : α} : (pure a : Except ε α) = .ok b ↔ a = b := by
  simp [pure, Except.pure]

theorem elim_eq_ok {x : Option α} {e : ε} {a : α} :
    x.elim (.error e) Except.ok = .ok a ↔ x = some a := by
  cases x with
  | none => simp
  | some b => simp

theorem mapError_ok {ε' : Type} (f : ε → ε') (a : α) :
    (Except.ok a : Except ε α).mapError f = .ok a := rfl

theorem mapError_eq_ok {ε' : Type} {x : Except ε α} {f : ε → ε'} {a : α} :
    x.mapError f = .ok a ↔ x = .ok a := by
  cases x with
  | ok b =>
    show Except.ok b = .ok a ↔ _
    rw [Except.ok.injEq, Except.ok.injEq]
  | error e => exact ⟨nofun, nofun⟩

/-! ## Errors -/

/-- The error of a result, if it is one. -/
def errorOf? : Except ε α → Option ε
  | .ok _ => none
  | .error e => some e

@[simp] theorem errorOf?_ok (a : α) : errorOf? (.ok a : Except ε α) = none := rfl

@[simp] theorem errorOf?_error (e : ε) : errorOf? (.error e : Except ε α) = some e := rfl

theorem errorOf?_eq_some {x : Except ε α} {e : ε} : errorOf? x = some e ↔ x = .error e := by
  cases x <;> simp

theorem errorOf?_eq_none {x : Except ε α} : errorOf? x = none ↔ ∃ a, x = .ok a := by
  cases x <;> simp

/-- Only the first step can fail. -/
theorem errorOf?_map (x : Except ε α) (f : α → β) :
    errorOf? (x >>= fun a => pure (f a)) = errorOf? x := by
  cases x <;> rfl

/-- Only the first two steps can fail, and the first one goes first. -/
theorem errorOf?_map₂ {γ : Type} (x : Except ε α) (y : Except ε β) (f : α → β → γ) :
    errorOf? (x >>= fun a => y >>= fun b => pure (f a b)) = (errorOf? x).or (errorOf? y) := by
  cases x with
  | error e => rfl
  | ok a => cases y <;> rfl

theorem findSome?_cons_or (f : α → Option β) (x : α) (xs : List α) :
    (x :: xs).findSome? f = (f x).or (xs.findSome? f) := by
  rw [List.findSome?_cons]
  cases f x <;> rfl

theorem findSome?_singleton (f : α → Option β) (x : α) : [x].findSome? f = f x := by
  rw [findSome?_cons_or, List.findSome?_nil, Option.or_none]

theorem findSome?_flatMap {γ : Type} (f : α → List β) (g : β → Option γ) (xs : List α) :
    (xs.flatMap f).findSome? g = xs.findSome? fun x => (f x).findSome? g := by
  induction xs with
  | nil => rfl
  | cons x xs ih => rw [List.flatMap_cons, List.findSome?_append, ih, findSome?_cons_or]

theorem findSome?_congr {f g : α → Option β} {xs : List α} (h : ∀ x ∈ xs, f x = g x) :
    xs.findSome? f = xs.findSome? g := by
  induction xs with
  | nil => rfl
  | cons x xs ih =>
    rw [findSome?_cons_or, findSome?_cons_or, h x List.mem_cons_self,
      ih fun y hy => h y (List.mem_cons_of_mem x hy)]

end DocQuery
