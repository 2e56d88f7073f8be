import DocQuery.Proofs.Compilation.Ordering
import DocQuery.Proofs.Compilation.Term
import DocQuery.Proofs.Entries
import DocQuery.Proofs.Number.Rounding
import DocQuery.Schema.Reader
import Mathlib.Data.List.Nodup

/-
  Looking for members of an enumeration by their integers.
  An integer stands for one member, the first one by name that has it, and equality looks for what
  the index stores for this member (`members_found_by_integer`). Stored integers are compared like
  numbers, so two of them that rounding makes the same are found together, and of several names with
  one integer only the first is sure to be found (`member_missed_ticket`).
-/

namespace DocQuery

open Document

/-- Whether members stand in ascending order of their names, each name once. -/
def Members.IsOrdered (members : Members) : Prop :=
  members.Pairwise fun m n => m.1 < n.1

/-- Whether no member with the integer of a given one has a smaller name. -/
def Members.IsFirst (members : Members) (m : String × Int) : Prop :=
  ∀ n ∈ members, n.2 = m.2 → m.1 ≤ n.1

/-- What an index stores for a member. -/
def Representation.stored : Representation → String × Int → Json
  | names, m => .string m.1
  | integers, m => .int m.2

namespace Members

variable {members : Members} {m n : String × Int}

/-- The members a declaration is read with are in order. -/
theorem isOrdered_of_read {d : Draft} (h : readMembers d = some members) : members.IsOrdered := by
  obtain ⟨entries, -, hmembers⟩ := Option.bind_eq_some_iff.1 h
  cases hmembers
  exact Entries.pairwise_ofList entries

theorem IsOrdered.eq_of_name_eq (h : members.IsOrdered) (hm : m ∈ members) (hn : n ∈ members)
    (hname : m.1 = n.1) : m = n := by
  have hnames : (members.map Prod.fst).Nodup :=
    List.pairwise_map.2 (h.imp fun hlt => ne_of_lt hlt)
  exact List.inj_on_of_nodup_map hnames hm hn hname

/-- Looking for an integer ends at the first member by name that has it. -/
theorem IsOrdered.find?_eq_some (h : members.IsOrdered) (hm : m ∈ members)
    (hfirst : members.IsFirst m) : members.find? (fun x => x.2 == m.2) = some m := by
  obtain ⟨n, hfound, hinteger⟩ := Value.exists_find? hm (fun x => x.2 == m.2) (beq_self_eq_true _)
  obtain ⟨-, before, behind, hmembers, hbefore⟩ := List.find?_eq_some_iff_append.1 hfound
  have hle : m.1 ≤ n.1 := hfirst n (List.mem_of_find?_eq_some hfound) (eq_of_beq hinteger)
  have hmem : m ∈ n :: behind := by
    rw [hmembers] at hm
    refine (List.mem_append.1 hm).resolve_left fun hpassed => ?_
    simpa using hbefore m hpassed
  rcases List.mem_cons.1 hmem with rfl | hbehind
  · exact hfound
  · rw [Members.IsOrdered, hmembers] at h
    have hlt := (List.pairwise_cons.1 (List.pairwise_append.1 h).2.1).1 m hbehind
    exact absurd hlt (not_lt.2 hle)

end Members

namespace Number

/-- Integers that are told apart have the same value only if they are the same. -/
theorem value_eq_iff_of_areToldApart {a b : Int} (h : AreToldApart a b) :
    value (.integer a) = value (.integer b) ↔ a = b := by
  rw [← Std.compare_eq_iff_eq, compare_value_of_areToldApart h, Std.compare_eq_iff_eq]

end Number

namespace Compilation

variable {r : Resolver} {property : String} {field : ResolvedField} {x : Value}
  {representation : Representation} {members : Members} {m : String × Int}

/-- Equality with the integer of a member looks for what is stored for the first member in the list
that has this integer. -/
theorem finds_member (hfield : r.resolve property = .ok field)
    (hkind : field.kind = .enumeration representation members) (hm : m ∈ members)
    (hx : x.IsInteger m.2) :
    ∃ n cs, members.find? (fun e => e.2 == m.2) = some n ∧ n.2 = m.2 ∧
      (Predicate.comparison property .eq x).compile r = .ok cs ∧
      ∀ doc, allMatch doc cs = true ↔
        ∃ v ∈ fieldValues doc field.name, valuesEqual v (representation.stored n) = true := by
  obtain ⟨n, hfound, hinteger⟩ := Value.exists_find? hm (fun e => e.2 == m.2) (beq_self_eq_true _)
  have hterm : x.toTerm field.kind = .ok (representation.stored n) := by
    rw [hkind, Value.toTerm, Value.toMember_of_isInteger hx hfound]
    cases representation <;> rfl
  have hclause : termClause? field.name field.kind.type .eq (representation.stored n) =
      some (.term field.name (representation.stored n)) := by
    rw [hkind]
    rfl
  refine ⟨n, _, hfound, eq_of_beq hinteger, compile_comparison_of_term hfield hterm hclause,
    fun doc => ?_⟩
  simp [isMatch, someValue]

end Compilation

open Compilation

/-- Equality with the integer of a member compiles. Where an index stores integers, it finds the
documents that hold an integer of the same value after rounding: all that hold this integer, and
none whose integers are told apart from it. Where an index stores names, it finds the documents that
hold the first name with this integer, and none whose members all have other integers. -/
theorem members_found_by_integer {r : Resolver} {property : String} {field : ResolvedField}
    (hfield : r.resolve property = .ok field) {representation : Representation} {members : Members}
    (hkind : field.kind = .enumeration representation members) (hordered : members.IsOrdered)
    {m : String × Int} (hm : m ∈ members) {x : Value} (hx : x.IsInteger m.2) :
    let equals := Predicate.comparison property .eq x
    (∃ cs, equals.compile r = .ok cs) ∧
      ∀ doc (held : Members), (∀ n ∈ held, n ∈ members) →
        fieldValues doc field.name = held.map representation.stored →
        (representation = .integers →
          (equals.Finds r doc ↔
            ∃ n ∈ held, (Number.integer n.2).value = (Number.integer m.2).value) ∧
          ((∃ n ∈ held, n.2 = m.2) → equals.Finds r doc) ∧
          ((∀ n ∈ held, n.2 ≠ m.2 ∧ AreToldApart n.2 m.2) → ¬equals.Finds r doc)) ∧
        (representation = .names →
          ((∃ n ∈ held, n.2 = m.2 ∧ members.IsFirst n) → equals.Finds r doc) ∧
          ((∀ n ∈ held, n.2 ≠ m.2) → ¬equals.Finds r doc)) := by
  intro equals
  obtain ⟨first, cs, hfound, hinteger, hcs, hmatch⟩ := finds_member hfield hkind hm hx
  have hfirst := List.mem_of_find?_eq_some hfound
  refine ⟨⟨cs, hcs⟩, fun doc held hheld hdoc => ⟨?_, ?_⟩⟩
  · rintro rfl
    have hfinds : equals.Finds r doc ↔
        ∃ n ∈ held, (Number.integer n.2).value = (Number.integer m.2).value := by
      rw [Predicate.finds_iff hcs, hmatch doc, hdoc]
      simp [Representation.stored, Json.int, valuesEqual, hinteger]
    refine ⟨hfinds, ?_, ?_⟩
    · rintro ⟨n, hn, heq⟩
      exact hfinds.2 ⟨n, hn, by rw [heq]⟩
    · intro hother hfind
      obtain ⟨n, hn, hvalue⟩ := hfinds.1 hfind
      obtain ⟨hne, happart⟩ := hother n hn
      exact hne ((Number.value_eq_iff_of_areToldApart happart).1 hvalue)
  · rintro rfl
    have hfinds : equals.Finds r doc ↔ first ∈ held := by
      rw [Predicate.finds_iff hcs, hmatch doc, hdoc]
      constructor
      · rintro ⟨v, hv, heq⟩
        obtain ⟨n, hn, rfl⟩ := List.mem_map.1 hv
        have hname : n.1 = first.1 := Json.string.inj (valuesEqual_string.1 heq)
        rwa [← hordered.eq_of_name_eq (hheld n hn) hfirst hname]
      · intro hn
        exact ⟨_, List.mem_map_of_mem hn, valuesEqual_string.2 rfl⟩
    refine ⟨?_, ?_⟩
    · rintro ⟨n, hn, heq, hleast⟩
      have hsome := hordered.find?_eq_some (hheld n hn) hleast
      rw [heq, hfound, Option.some.injEq] at hsome
      rwa [hfinds, hsome]
    · intro hother hfind
      exact hother first (hfinds.1 hfind) hinteger

/-- An index of tickets with a state that is stored in one of the two ways. -/
def stateIndex (representation : Representation) (members : Members) : IndexDeclaration where
  name := "tickets"
  fields := [("State", { type := .enumeration, representation, members })]

/-- A negative integer that two states share, looked for among names and among integers. -/
theorem members_found_by_integer_ticket :
    let members : Members := [("closed", -2), ("done", -2), ("open", 1)]
    let named := (stateIndex .names members).resolver
    let numbered := (stateIndex .integers members).resolver
    let doc (v : Json) := Json.object [("state", v)]
    let equals := Predicate.comparison "State" .eq (.signed (-2))
    named.resolve "State" = .ok ⟨"state", .enumeration .names members⟩ ∧
      numbered.resolve "State" = .ok ⟨"state", .enumeration .integers members⟩ ∧
      members.IsOrdered ∧ ("done", -2) ∈ members ∧
      equals.Finds named (doc (.string "closed")) ∧ ¬equals.Finds named (doc (.string "open")) ∧
      equals.Finds numbered (doc (.int (-2))) ∧ ¬equals.Finds numbered (doc (.int 1)) := by
  intro members named numbered doc equals
  have hnamed : named.resolve "State" = .ok ⟨"state", .enumeration .names members⟩ := by decide
  have hnumbered : numbered.resolve "State" = .ok ⟨"state", .enumeration .integers members⟩ := by
    decide
  have hordered : members.IsOrdered := by unfold Members.IsOrdered; decide
  have hdone : ("done", -2) ∈ members := by decide
  have hfirst : members.IsFirst ("closed", -2) := by unfold Members.IsFirst; decide
  obtain ⟨-, hnames⟩ := members_found_by_integer hnamed rfl hordered hdone .signed
  obtain ⟨-, hintegers⟩ := members_found_by_integer hnumbered rfl hordered hdone .signed
  have hname (s : String) : fieldValues (doc (.string s)) "state" = [.string s] :=
    fieldValues_only_entry (by decide) s
  have hinteger (n : Int) : fieldValues (doc (.int n)) "state" = [.int n] := by rfl
  have hclosed := (hnames _ [("closed", -2)] (by decide) (hname "closed")).2 rfl
  have hopen := (hnames _ [("open", 1)] (by decide) (hname "open")).2 rfl
  have hheld := (hintegers _ [("closed", -2)] (by decide) (hinteger (-2))).1 rfl
  have hother := (hintegers _ [("open", 1)] (by decide) (hinteger 1)).1 rfl
  refine ⟨hnamed, hnumbered, hordered, hdone, ?_, ?_, ?_, ?_⟩
  · exact hclosed.1 ⟨_, List.mem_singleton_self _, rfl, hfirst⟩
  · exact hopen.2 (List.forall_mem_singleton.2 (by decide))
  · exact hheld.2.1 ⟨_, List.mem_singleton_self _, rfl⟩
  · exact hother.2.2 (List.forall_mem_singleton.2 ⟨by decide, Or.inr (Or.inl (by decide))⟩)

/-- A state is missed because another name has its integer, and another state is found because the
two integers are the same once they are rounded. Both declarations are valid. -/
theorem member_missed_ticket :
    let members : Members := [("closed", 1), ("done", 1)]
    let levels : Members := [("high", 9007199254740992), ("higher", 9007199254740993)]
    let named := stateIndex .names members
    let numbered := stateIndex .integers levels
    let done := Json.object [("state", .string "done")]
    let high := Json.object [("state", .int 9007199254740992)]
    named.validate = .ok () ∧ numbered.validate = .ok () ∧
      members.IsOrdered ∧ levels.IsOrdered ∧
      ¬(Predicate.comparison "State" .eq (.unsigned 1)).Finds named.resolver done ∧
      (Predicate.comparison "State" .eq (.unsigned 9007199254740993)).Finds numbered.resolver
        high := by
  intro members levels named numbered done high
  have hnamed : named.resolver.resolve "State" = .ok ⟨"state", .enumeration .names members⟩ := by
    decide
  have hnumbered : numbered.resolver.resolve "State" =
      .ok ⟨"state", .enumeration .integers levels⟩ := by decide
  have hdone : fieldValues done "state" = [.string "done"] := fieldValues_only_entry (by decide) _
  have hhigh : fieldValues high "state" = [.int 9007199254740992] := by rfl
  have hvalue : (Number.integer 9007199254740992).value = (Number.integer 9007199254740993).value :=
    by decide +kernel
  obtain ⟨closed, cs, hclosed, -, hcs, hmatch⟩ := finds_member (m := ("done", 1)) hnamed rfl
    (by decide) (.unsigned (m := 1) rfl)
  obtain ⟨higher, ds, hhigher, -, hds, hmatch'⟩ := finds_member (m := ("higher", 9007199254740993))
    hnumbered rfl (by decide) (.unsigned (m := 9007199254740993) rfl)
  cases hclosed
  cases hhigher
  refine ⟨by decide, by decide, by unfold Members.IsOrdered; decide,
    by unfold Members.IsOrdered; decide, ?_, ?_⟩
  · rw [Predicate.finds_iff hcs, hmatch, hdone]
    simp [Representation.stored, valuesEqual_string]
  · rw [Predicate.finds_iff hds, hmatch', hhigh]
    simp [Representation.stored, Json.int, valuesEqual, hvalue]

end DocQuery
