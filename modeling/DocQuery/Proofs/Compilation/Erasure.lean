import DocQuery.Proofs.Compilation.Substitution
import DocQuery.Proofs.Compilation.Term

/-
  Values with types and values without.
  JSON has no identifiers, instants and members of enumerations; what is read in their places are
  texts, and integers that are not negative are read as unsigned ones (`read_draft`). Terms do not
  depend on the difference, so a predicate compiles to the same clauses when its values have been
  through JSON (`compile_erase`).
-/

namespace DocQuery

/-- Whether a floating-point number is finite. -/
def Real64.IsFinite (x : Real64) : Prop :=
  ∃ y, x = finite y

instance (x : Real64) : Decidable x.IsFinite :=
  match x with
  | .finite y => isTrue ⟨y, rfl⟩
  | .infinite _ | .undefined => isFalse (by rintro ⟨_, ⟨⟩⟩)

namespace Value

/-- A value as it is after it has been written as JSON and read again. -/
def erase : Value → Value
  | signed n => if 0 ≤ n then unsigned n.toNat else signed n
  | identifier id => text id.render
  | datetime t => text t.render
  | member name => text name
  | v => v

/-- A value as JSON; what JSON has no form for is written as a text, and numbers that are not finite
as null. -/
def draft : Value → Draft
  | null => .null
  | bool b => .bool b
  | signed n => .number (.integer n)
  | unsigned n => .number (.integer n)
  | real (.finite x) => .number (.real x)
  | real _ => .null
  | v => .string v.plain

/-- Whether a value has a form that can be read again: floating-point numbers are finite,
identifiers have all their digits, and years have four. -/
def IsWritable : Value → Prop
  | real x => x.IsFinite
  | identifier id => id.digits.length = 32
  | datetime t => t.IsWritable
  | _ => True

instance (v : Value) : Decidable v.IsWritable :=
  match v with
  | real x => inferInstanceAs (Decidable x.IsFinite)
  | identifier id => inferInstanceAs (Decidable (id.digits.length = 32))
  | datetime t => inferInstanceAs (Decidable t.IsWritable)
  | null | bool _ | signed _ | unsigned _ | text _ | member _ => isTrue trivial

/-- An integer is signed and stays so only if it is negative. -/
theorem erase_signed (n : Int) :
    (∃ m : Nat, n = m ∧ (signed n).erase = unsigned m) ∨ (signed n).erase = signed n := by
  rw [erase]
  split
  case isTrue hn => exact Or.inl ⟨n.toNat, (Int.toNat_of_nonneg hn).symm, rfl⟩
  case isFalse => exact Or.inr rfl

theorem read_draft {v : Value} (hv : v.IsWritable) : Value.read v.draft = some v.erase := by
  cases v with
  | real x =>
    obtain ⟨y, rfl⟩ := hv
    rfl
  | unsigned n => exact congrArg some (if_pos (Int.natCast_nonneg n))
  | _ => rfl

/-! ## Terms -/

variable {kind : FieldKind} {term : Json}

/-- Both forms of an integer have one term; where there is none, they differ in the reason. -/
theorem toTerm_unsigned {n : Nat} (h : (signed n).toTerm kind = .ok term) :
    (unsigned n).toTerm kind = .ok term := by
  cases kind with
  | datetime =>
    obtain ⟨t, ht, hterm⟩ := bind_eq_ok.1 h
    have ht' : (unsigned n).toInstant = .ok t := elim_eq_ok.2 (elim_eq_ok.1 ht)
    rw [toTerm, ht', ok_bind]
    exact hterm
  | _ => exact h

theorem toTerm_identifier {id : Identifier} (hid : id.digits.length = 32)
    (h : (identifier id).toTerm kind = .ok term) : (text id.render).toTerm kind = .ok term := by
  cases kind with
  | text => exact h
  | identifier =>
    rw [toTerm, Identifier.parse_render hid]
    exact h
  | _ => cases h

/-- A leap second that a text does not show has the same text once it is read. -/
theorem toTerm_datetime {t : Instant} (ht : t.IsWritable)
    (h : (datetime t).toTerm kind = .ok term) : (text t.render).toTerm kind = .ok term := by
  cases kind with
  | text => exact h
  | datetime =>
    rw [toTerm, toInstant_text (Instant.parse?_render ht), ok_bind, Instant.render_shown ht.2.2]
    exact h
  | _ => cases h

theorem toTerm_member {name : String} (h : (member name).toTerm kind = .ok term) :
    (text name).toTerm kind = .ok term := by
  cases kind with
  | text => exact h
  | enumeration representation members =>
    obtain ⟨m, hm, hterm⟩ := bind_eq_ok.1 h
    have hm' : (text name).toMember members = .ok m := by
      simp only [toMember] at hm ⊢
      cases hfound : members.find? fun m => m.1 == name with
      | none =>
        rw [hfound] at hm
        cases hm
      | some found =>
        rw [hfound] at hm
        exact hm
    rw [toTerm, hm', ok_bind]
    exact hterm
  | _ => cases h

theorem toTerm_erase {v : Value} (hv : v.IsWritable) (h : v.toTerm kind = .ok term) :
    v.erase.toTerm kind = .ok term := by
  cases v with
  | signed n =>
    rcases erase_signed n with ⟨m, rfl, herase⟩ | herase
    · rw [herase]
      exact toTerm_unsigned h
    · rw [herase]
      exact h
  | identifier id => exact toTerm_identifier hv h
  | datetime t => exact toTerm_datetime hv h
  | member name => exact toTerm_member h
  | _ => exact h

/-- A value that has been through JSON stands for the value itself. -/
theorem erase_standsFor {v : Value} (hv : v.IsWritable) : v.erase.StandsFor v where
  isNull := by
    cases v with
    | signed n =>
      rcases erase_signed n with ⟨m, -, herase⟩ | herase
      · rw [herase]
        rfl
      · rw [herase]
    | _ => rfl
  toTerm _ _ := toTerm_erase hv
  bool b := by
    cases v with
    | signed n =>
      rcases erase_signed n with ⟨m, -, herase⟩ | herase
      · simp [herase]
      · simp [herase]
    | _ => simp [erase]
  text s h := by
    rw [h]
    rfl

end Value

/-! ## Main theorem -/

/-- A predicate that compiles has the same clauses once the values it carries have been through
JSON. -/
theorem compile_erase {r : Resolver} {p : Predicate} {cs : List Clause}
    (hp : ∀ v ∈ p.values, v.IsWritable) (h : p.compile r = .ok cs) :
    (∀ v ∈ p.values, Value.read v.draft = some v.erase) ∧
      (p.mapValues Value.erase).compile r = .ok cs :=
  ⟨fun v hv => Value.read_draft (hp v hv),
    Predicate.compile_mapValues (fun v hv => Value.erase_standsFor (hp v hv)) h⟩

/-- Two instants with one text are one term, also as texts. -/
theorem compile_erase_visit :
    let index : IndexDeclaration := {
      name := "visits"
      fields := [("Seen", { type := .datetime }), ("Guest", { type := .identifier }),
        ("Stage", { type := .enumeration, members := [("done", 2), ("open", 1)] }),
        ("Note", { type := .text })] }
    let id : Identifier := ⟨List.replicate 32 10⟩
    let p := Predicate.and
      (.membership "Seen" [.datetime ⟨1700000000, 1500000000⟩, .null,
        .datetime ⟨1700000001, 500000000⟩])
      (.or (.comparison "Guest" .ne (.identifier id))
        (.not (.and (.comparison "Stage" .eq (.member "open"))
          (.comparison "Note" .eq (.signed 7)))))
    let q := Predicate.and
      (.membership "Seen" [.text "2023-11-14T22:13:21.500Z", .null,
        .text "2023-11-14T22:13:21.500Z"])
      (.or (.comparison "Guest" .ne (.text "aaaaaaaa-aaaa-aaaa-aaaa-aaaaaaaaaaaa"))
        (.not (.and (.comparison "Stage" .eq (.text "open"))
          (.comparison "Note" .eq (.unsigned 7)))))
    let cs := [Clause.allOf [
      .anyOf [.terms "seen" [.string "2023-11-14T22:13:21.500Z"], .noneOf [.present "seen"]],
      .anyOf [.noneOf [.matchPhrase "guest" "aaaaaaaa-aaaa-aaaa-aaaa-aaaaaaaaaaaa"],
        .noneOf [.allOf [.term "stage" (.number (.integer 1)), .matchPhrase "note" "7"]]]]]
    p.mapValues Value.erase = q ∧ p.compile index.resolver = .ok cs ∧
      q.compile index.resolver = .ok cs := by
  intro index id p q cs
  have herase : p.mapValues Value.erase = q := by decide +kernel
  have hp : ∀ v ∈ p.values, v.IsWritable := by decide +kernel
  have h : p.compile index.resolver = .ok cs := by rfl
  exact ⟨herase, h, herase ▸ (compile_erase hp h).2⟩

end DocQuery
