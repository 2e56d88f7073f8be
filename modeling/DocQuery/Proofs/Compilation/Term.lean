import DocQuery.Compilation.Term
import DocQuery.Predicate.Reader
import DocQuery.Proofs.Identifier
import DocQuery.Proofs.Instant.Reading
import DocQuery.Proofs.Outcome

/-
  Terms as normal forms.
  `Json.IsTerm` lists the terms of each kind of field, one for everything that values of several
  forms name: an identifier, an instant, a member of an enumeration. Terms are among them
  (`isTerm_of_toTerm`), and each of them, read as a value, has itself as its term
  (`toTerm_of_isTerm`). So nothing changes when a term is read and made a term again
  (`toTerm_idempotent`).
-/

namespace DocQuery

/-- Whether the identifier in a value has all its digits, and the instant in it goes no farther
beyond its second than a leap second. -/
def Value.IsValid : Value → Prop
  | identifier id => id.digits.length = 32
  | datetime t => t.IsValid
  | _ => True

/-- The values that are an integer. -/
inductive Value.IsInteger (n : Int) : Value → Prop where
  | signed : IsInteger n (.signed n)
  | unsigned {m : Nat} (h : (m : Int) = n) : IsInteger n (.unsigned m)

/-- The terms of the fields of a kind. -/
inductive Json.IsTerm : FieldKind → Json → Prop where
  | text (s : String) : IsTerm .text (.string s)
  | identifier {id : Identifier} (h : id.digits.length = 32) :
    IsTerm .identifier (.string id.render)
  | number (n : Number) : IsTerm .numeric (.number n)
  | bool (b : Bool) : IsTerm .boolean (.bool b)
  | datetime {t : Instant} (h : t.IsWritable) : IsTerm .datetime (.string t.render)
  | name {members : Members} {m : String × Int} (h : m ∈ members) :
    IsTerm (.enumeration .names members) (.string m.1)
  | integer {members : Members} {m : String × Int} (h : m ∈ members) :
    IsTerm (.enumeration .integers members) (.number (.integer m.2))

namespace Value

variable {v : Value} {kind : FieldKind} {term : Json}

/-! ## Instants and members -/

theorem isValid_of_toInstant (hv : v.IsValid) {t : Instant} (h : v.toInstant = .ok t) :
    t.IsValid := by
  cases v with
  | datetime u =>
    cases h
    exact hv
  | text s => exact Instant.isValid_of_parse? (elim_eq_ok.1 h)
  | signed n => exact Instant.isValid_of_ofSeconds? (elim_eq_ok.1 h)
  | unsigned n => exact Instant.isValid_of_ofSeconds? (elim_eq_ok.1 h)
  | _ => cases h

theorem toInstant_text {s : String} {t : Instant} (h : Instant.parse? s = some t) :
    (text s).toInstant = .ok t :=
  elim_eq_ok.2 h

theorem mem_of_toMember {members : Members} {m : String × Int} (h : v.toMember members = .ok m) :
    m ∈ members := by
  unfold toMember at h
  dsimp only at h
  split at h
  · cases h
  · cases h
  · next hfound =>
    cases h
    split at hfound
    · exact List.mem_of_find?_eq_some (Option.some.inj hfound)
    · exact List.mem_of_find?_eq_some (Option.some.inj hfound)
    · exact List.mem_of_find?_eq_some (Option.some.inj hfound)
    · exact List.mem_of_find?_eq_some (Option.some.inj hfound)
    · cases hfound

/-! ## Normal forms -/

/-- Coercion ends in a normal form, for instants if their year has four digits. -/
theorem isTerm_of_toTerm (hv : v.IsValid)
    (hyear : kind = .datetime → ∀ t, v.toInstant = .ok t → 0 ≤ t.year ∧ t.year ≤ 9999)
    (h : v.toTerm kind = .ok term) : term.IsTerm kind := by
  cases kind with
  | text => cases v <;> cases h <;> exact .text _
  | identifier =>
    cases v with
    | identifier id =>
      cases h
      exact .identifier hv
    | text s =>
      rw [toTerm] at h
      cases hread : Identifier.parse s with
      | error e =>
        rw [hread] at h
        cases h
      | ok id =>
        rw [hread] at h
        cases h
        exact .identifier (Identifier.parse_eq_ok.1 hread).1
    | _ => cases h
  | numeric =>
    cases v with
    | signed n =>
      cases h
      exact .number (.integer n)
    | unsigned n =>
      cases h
      exact .number (.integer n)
    | real x =>
      cases x with
      | finite y =>
        cases h
        exact .number (.real y)
      | _ => cases h
    | _ => cases h
  | boolean =>
    cases v with
    | bool b =>
      cases h
      exact .bool b
    | _ => cases h
  | datetime =>
    obtain ⟨t, ht, hterm⟩ := bind_eq_ok.1 h
    cases hterm
    obtain ⟨hlow, hhigh⟩ := hyear rfl t ht
    exact .datetime ⟨hlow, hhigh, isValid_of_toInstant hv ht⟩
  | enumeration representation members =>
    obtain ⟨m, hm, hterm⟩ := bind_eq_ok.1 h
    have hmem := mem_of_toMember hm
    cases representation with
    | names =>
      cases hterm
      exact .name hmem
    | integers =>
      cases hterm
      exact .integer hmem

theorem exists_find? {members : Members} {m : String × Int} (hm : m ∈ members)
    (p : String × Int → Bool) (hp : p m = true) :
    ∃ m', members.find? p = some m' ∧ p m' = true := by
  obtain ⟨m', hfound⟩ := Option.isSome_iff_exists.1 (List.find?_isSome.2 ⟨m, hm, hp⟩)
  exact ⟨m', hfound, List.find?_some hfound⟩

/-- A member is found again by its name, or another one that has this name too. -/
theorem toTerm_name {members : Members} {m : String × Int} (hm : m ∈ members) :
    (text m.1).toTerm (.enumeration .names members) = .ok (.string m.1) := by
  obtain ⟨m', hfound, hname⟩ := exists_find? hm (fun x => x.1 == m.1) (beq_self_eq_true _)
  rw [toTerm, toMember]
  simp only [hfound, ok_bind]
  rw [eq_of_beq hname]
  rfl

theorem toTerm_of_isInteger {n : Int} (hv : v.IsInteger n) : v.toTerm .numeric = .ok (.int n) := by
  cases hv with
  | signed => rfl
  | unsigned h =>
    subst h
    rfl

theorem toMember_of_isInteger {members : Members} {n : Int} {m : String × Int}
    (hv : v.IsInteger n) (hfound : members.find? (fun x => x.2 == n) = some m) :
    v.toMember members = .ok m := by
  cases hv with
  | signed => rw [toMember, hfound]
  | unsigned h => rw [toMember, h, hfound]

/-- A member is found again by its integer, or another one that has this integer too. -/
theorem toTerm_integer {members : Members} {m : String × Int} (hm : m ∈ members)
    (hv : v.IsInteger m.2) :
    v.toTerm (.enumeration .integers members) = .ok (.int m.2) := by
  obtain ⟨m', hfound, hinteger⟩ := exists_find? hm (fun x => x.2 == m.2) (beq_self_eq_true _)
  rw [toTerm, toMember_of_isInteger hv hfound, ok_bind, ← eq_of_beq hinteger]
  rfl

theorem read_integer (n : Int) : ∃ w, read (.ofJson (.int n)) = some w ∧ w.IsInteger n := by
  by_cases hn : 0 ≤ n
  · exact ⟨_, congrArg some (if_pos hn), .unsigned (Int.toNat_of_nonneg hn)⟩
  · exact ⟨_, congrArg some (if_neg hn), .signed⟩

/-- A normal form is the term of what it is read as. -/
theorem toTerm_of_isTerm (h : term.IsTerm kind) :
    ∃ w, read (.ofJson term) = some w ∧ w.toTerm kind = .ok term := by
  cases h with
  | text s => exact ⟨.text s, rfl, rfl⟩
  | @identifier id hid =>
    refine ⟨.text id.render, rfl, ?_⟩
    rw [toTerm, Identifier.parse_render hid]
  | number n =>
    cases n with
    | integer n =>
      obtain ⟨w, hread, hw⟩ := read_integer n
      exact ⟨w, hread, toTerm_of_isInteger hw⟩
    | real x => exact ⟨.real (.finite x), rfl, rfl⟩
  | bool b => exact ⟨.bool b, rfl, rfl⟩
  | @datetime t ht =>
    refine ⟨.text t.render, rfl, ?_⟩
    rw [toTerm, toInstant_text (Instant.parse?_render ht), ok_bind, Instant.render_shown ht.2.2]
    rfl
  | name hm => exact ⟨_, rfl, toTerm_name hm⟩
  | integer hm =>
    obtain ⟨w, hread, hw⟩ := read_integer _
    exact ⟨w, hread, toTerm_integer hm hw⟩

end Value

/-! ## Main theorem -/

/-- A term is read as a value whose term it is, for instants if their year has four digits. -/
theorem toTerm_idempotent {v : Value} {kind : FieldKind} {term : Json} (hv : v.IsValid)
    (hyear : kind = .datetime → ∀ t, v.toInstant = .ok t → 0 ≤ t.year ∧ t.year ≤ 9999)
    (h : v.toTerm kind = .ok term) :
    ∃ w, Value.read (.ofJson term) = some w ∧ w.toTerm kind = .ok term :=
  Value.toTerm_of_isTerm (Value.isTerm_of_toTerm hv hyear h)

/-- A leap second with an offset, and a member whose name is not the first with its integer. -/
theorem toTerm_idempotent_visit :
    let seen := Value.text "2016-12-31T23:59:60.25+01:00"
    let term := Json.string "2016-12-31T22:59:60.250Z"
    let kind := FieldKind.enumeration .integers [("closed", -2), ("done", -2), ("open", 1)]
    (seen.toTerm .datetime = .ok term ∧ seen.toInstant = .ok ⟨1483225199, 1250000000⟩ ∧
      ∃ w, Value.read (.ofJson term) = some w ∧ w.toTerm .datetime = .ok term) ∧
    (Value.text "done").toTerm kind = .ok (.int (-2)) ∧
      ∃ w, Value.read (.ofJson (.int (-2))) = some w ∧ w.toTerm kind = .ok (.int (-2)) := by
  intro seen term kind
  have hread : Instant.parse? "2016-12-31T23:59:60.25+01:00" = some ⟨1483225199, 1250000000⟩ := by
    decide +kernel
  have hinstant : seen.toInstant = .ok ⟨1483225199, 1250000000⟩ := Value.toInstant_text hread
  have hseen : seen.toTerm .datetime = .ok term := by
    rw [Value.toTerm, hinstant]
    rfl
  have hyear : ∀ t, seen.toInstant = .ok t → 0 ≤ t.year ∧ t.year ≤ 9999 := by
    intro t ht
    rw [hinstant] at ht
    cases ht
    decide +kernel
  have hdone : (Value.text "done").toTerm kind = .ok (.int (-2)) := by rfl
  exact ⟨⟨hseen, hinstant, toTerm_idempotent (by trivial) (fun _ => hyear) hseen⟩, hdone,
    toTerm_idempotent (by trivial) nofun hdone⟩

end DocQuery
