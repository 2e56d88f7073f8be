import DocQuery.Clause.Reader
import DocQuery.Proofs.Json.Equality

/-
  The rendered form of clauses.
  What is missing in a clause is left out of its rendered form. Nothing is lost by that: reading a
  rendered clause gives the clause back (`parse?_render`), and two rendered clauses are equal as
  JSON exactly if the clauses are equal (`same_render`).
-/

namespace DocQuery

/-! ## Objects with entries that may be missing -/

namespace Json

/-- The entries of some fields, without the fields that have no value. -/
def fields (fs : List (String × Option Json)) : List (String × Json) :=
  fs.filterMap fun f => f.2.map fun value => (f.1, value)

theorem fields_none (key : String) (fs : List (String × Option Json)) :
    fields ((key, none) :: fs) = fields fs := rfl

theorem fields_some (key : String) (value : Json) (fs : List (String × Option Json)) :
    fields ((key, some value) :: fs) = (key, value) :: fields fs := rfl

theorem key_mem_of_mem_fields {e : String × Json} {fs : List (String × Option Json)}
    (h : e ∈ fields fs) : e.1 ∈ fs.map Prod.fst := by
  obtain ⟨f, hf, he⟩ := List.mem_filterMap.1 h
  obtain ⟨value, -, rfl⟩ := Option.map_eq_some_iff.1 he
  exact List.mem_map_of_mem hf

theorem sameEntries_cons_of_not_mem {key : String} {value : Json} {es fs : List (String × Json)}
    (h : ∀ e ∈ es, e.1 ≠ key) : sameEntries es ((key, value) :: fs) = false := by
  cases es with
  | nil => rfl
  | cons e es =>
    rw [sameEntries, beq_false_of_ne (h e List.mem_cons_self)]
    rfl

/-- Objects that leave entries of the same fields out are equal if they leave out the same ones and
have equal values in the others. -/
theorem sameEntries_fields {fs gs : List (String × Option Json)}
    (hkeys : fs.map Prod.fst = gs.map Prod.fst) (hnodup : (fs.map Prod.fst).Nodup) :
    sameEntries (fields fs) (fields gs) =
      (fs.zip gs).all fun e => RangeBounds.sameBound e.1.2 e.2.2 := by
  induction fs generalizing gs with
  | nil =>
    cases gs with
    | nil => rfl
    | cons g gs => cases hkeys
  | cons f fs ih =>
    cases gs with
    | nil => cases hkeys
    | cons g gs =>
      obtain ⟨key, a⟩ := f
      obtain ⟨key', b⟩ := g
      obtain ⟨rfl, hrest⟩ := List.cons.inj hkeys
      obtain ⟨hkey, hnodup⟩ := List.nodup_cons.1 hnodup
      have hf : ∀ e ∈ fields fs, e.1 ≠ key := by
        intro e he heq
        exact hkey (heq ▸ key_mem_of_mem_fields he)
      have hg : ∀ e ∈ fields gs, e.1 ≠ key := by
        intro e he heq
        rw [hrest] at hkey
        exact hkey (heq ▸ key_mem_of_mem_fields he)
      rw [List.zip_cons_cons, List.all_cons, ← ih hrest hnodup]
      cases a with
      | none =>
        cases b with
        | none => rfl
        | some y =>
          rw [fields_none, fields_some, sameEntries_cons_of_not_mem hf]
          rfl
      | some x =>
        cases b with
        | none =>
          rw [fields_none, fields_some, sameEntries_comm, sameEntries_cons_of_not_mem hg]
          rfl
        | some y =>
          rw [fields_some, fields_some, sameEntries, beq_self_eq_true, Bool.true_and]
          rfl

theorem same_entry (key key' : String) (a b : Json) :
    (entry key a).same (entry key' b) = (key == key' && a.same b) := by
  simp only [entry, same, sameEntries, Bool.and_true]

theorem sameItems_map {α : Type} {f : α → Json} (h : ∀ a b, (f a).same (f b) = true ↔ a = b)
    (as bs : List α) : sameItems (as.map f) (bs.map f) = true ↔ as = bs := by
  induction as generalizing bs with
  | nil => cases bs <;> simp [sameItems]
  | cons a as ih =>
    cases bs with
    | nil => simp [sameItems]
    | cons b bs => simp [sameItems, h, ih]

theorem same_strings (ss ts : List String) : (strings ss).same (strings ts) = (ss == ts) := by
  rw [Bool.eq_iff_iff, beq_iff_eq]
  exact sameItems_map (fun s t => by rw [same, beq_iff_eq]) ss ts

theorem same_array (xs ys : List Json) : (array xs).same (array ys) = sameItems xs ys := rfl

theorem same_size (m n : Nat) : (int m).same (int n) = true ↔ m = n := by
  have hsame : (int m).same (int n) = ((m : Int) == n) := rfl
  rw [hsame, beq_iff_eq, Int.ofNat_inj]

theorem isEmpty_of_sameItems {xs ys : List Json} (h : sameItems xs ys = true) :
    xs.isEmpty = ys.isEmpty := by
  cases xs <;> cases ys <;> simp [sameItems] at h ⊢

theorem sameBound_some (a b : Json) : RangeBounds.sameBound (some a) (some b) = a.same b := rfl

theorem sameBound_map {α : Type} {f : α → Json} (h : ∀ a b, (f a).same (f b) = true ↔ a = b)
    (a b : Option α) : RangeBounds.sameBound (a.map f) (b.map f) = true ↔ a = b := by
  cases a <;> cases b <;> simp [RangeBounds.sameBound, h]

theorem sameBound_size (m n : Option Nat) :
    RangeBounds.sameBound (m.map fun k : Nat => int k) (n.map fun k : Nat => int k) = true ↔
      m = n :=
  sameBound_map same_size m n

/-- A list of values that is left out if it is empty. -/
def listed (items : List Json) : Option Json :=
  if items.isEmpty then none else some (.array items)

theorem sameBound_listed (xs ys : List Json) :
    RangeBounds.sameBound (listed xs) (listed ys) = sameItems xs ys := by
  cases xs <;> cases ys <;> simp [listed, RangeBounds.sameBound, same, sameItems]

end Json

theorem RangeBounds.same_render (a b : RangeBounds) : a.render.same b.render = a.same b := by
  have hfields : ∀ c : RangeBounds, c.render =
      .object (Json.fields [("gt", c.gt), ("gte", c.gte), ("lt", c.lt), ("lte", c.lte)]) := by
    rintro ⟨gt, gte, lt, lte⟩
    cases gt <;> cases gte <;> cases lt <;> cases lte <;> rfl
  rw [hfields, hfields, Json.same, Json.sameEntries_fields]
  · simp [RangeBounds.same, Bool.and_assoc]
  · rfl
  · simp

namespace Clause

theorem renderBool_eq (must mustNot should : List Json) :
    renderBool must mustNot should = .object (Json.fields [
      ("minimum_should_match",
        if !should.isEmpty && (!must.isEmpty || !mustNot.isEmpty) then some (.int 1) else none),
      ("must", Json.listed must), ("must_not", Json.listed mustNot),
      ("should", Json.listed should)]) := by
  cases must <;> cases mustNot <;> cases should <;> rfl

/-- The minimum of a boolean clause follows from its lists. -/
theorem same_renderBool (a b c d e f : List Json) :
    (renderBool a b c).same (renderBool d e f) =
      (Json.sameItems a d && (Json.sameItems b e && Json.sameItems c f)) := by
  rw [renderBool_eq, renderBool_eq, Json.same, Json.sameEntries_fields]
  · simp only [List.zip_cons_cons, List.zip_nil_left, List.all_cons, List.all_nil,
      Json.sameBound_listed, Bool.and_true]
    rw [Bool.and_eq_right_iff_imp]
    intro h
    simp only [Bool.and_eq_true] at h
    rw [Json.isEmpty_of_sameItems h.1, Json.isEmpty_of_sameItems h.2.1,
      Json.isEmpty_of_sameItems h.2.2]
    split <;> rfl
  · rfl
  · simp

theorem render_phraseStart (fields : List String) (query : String) (limit : Option Nat) :
    (phraseStart fields query limit).render = .entry "multi_match" (.object (Json.fields [
      ("fields", some (.strings fields)), ("max_expansions", limit.map fun n : Nat => .int n),
      ("query", some (.string query)), ("type", some (.string "phrase_prefix"))])) := by
  cases limit <;> rfl

attribute [local simp] render same sameAll Json.same_entry Json.same RangeBounds.same_render
  Json.same_strings Json.sameEntries

mutual

/-- Rendered clauses are equal exactly if the clauses are. -/
theorem same_render : ∀ c d : Clause, c.render.same d.render = c.same d
  | .matchAll, d => by cases d <;> simp
  | .matchNone, d => by cases d <;> simp
  | .term _ _, d => by cases d <;> simp
  | .terms _ _, d => by cases d <;> simp
  | .range _ _, d => by cases d <;> simp
  | .matchPhrase _ _, d => by cases d <;> simp
  | .queryString _ _, d => by cases d <;> simp
  | .phraseStart fs query limit, d => by
    cases d with
    | phraseStart gs query' limit' =>
      rw [render_phraseStart, render_phraseStart, Json.same_entry, Json.same,
        Json.sameEntries_fields]
      · rw [Bool.eq_iff_iff]
        simp [Json.sameBound_some, Json.sameBound_size, and_assoc, and_comm, and_left_comm]
      · rfl
      · simp
    | _ => simp
  | .present _, d => by cases d <;> simp
  | .bool must mustNot should, d => by
    cases d with
    | bool must' mustNot' should' =>
      rw [render, render, Json.same_entry, same_renderBool, same_renderAll must must',
        same_renderAll mustNot mustNot', same_renderAll should should', same, beq_self_eq_true,
        Bool.true_and, Bool.and_assoc]
    | _ => simp

theorem same_renderAll : ∀ cs ds : List Clause,
    Json.sameItems (renderAll cs) (renderAll ds) = sameAll cs ds
  | [], ds => by cases ds <;> rfl
  | c :: cs, [] => rfl
  | c :: cs, d :: ds => by
    rw [renderAll, renderAll, Json.sameItems, sameAll, same_render c d, same_renderAll cs ds]

end

/-! ## Reading what is rendered -/

theorem texts?_strings (ss : List String) : texts? (.strings ss) = some ss := by
  rw [Json.strings, texts?]
  induction ss with
  | nil => rfl
  | cons s ss ih =>
    rw [List.map_cons, List.mapM_cons, ih]
    rfl

/-- Some clauses under the name of their list, unless there are none. -/
def named (name : String) (cs : List Clause) : List (String × List Clause) :=
  if cs.isEmpty then [] else [(name, cs)]

theorem parseLists_renderList (name : String) {items : List Json} {cs : List Clause}
    {rest : List (String × Json)} {lists : List (String × List Clause)}
    (hitems : parseAll items = some cs) (hrest : parseLists rest = some lists) :
    parseLists (renderList name items ++ rest) = some (named name cs ++ lists) := by
  cases items with
  | nil =>
    cases hitems
    exact hrest
  | cons j js =>
    have hcs : named name cs = [(name, cs)] := by
      rw [parseAll] at hitems
      obtain ⟨d, -, hd⟩ := Option.bind_eq_some_iff.1 hitems
      obtain ⟨ds, -, hds⟩ := Option.bind_eq_some_iff.1 hd
      cases hds
      rfl
    show parseLists ((name, .array (j :: js)) :: rest) = _
    rw [parseLists, hitems, hrest, hcs]
    rfl

theorem parse?_renderBool {must mustNot should : List Json} {a b c : List Clause}
    (ha : parseAll must = some a) (hb : parseAll mustNot = some b)
    (hc : parseAll should = some c) :
    parse? (.entry "bool" (renderBool must mustNot should)) = some (.bool a b c) := by
  have hminimum : parse? (.entry "bool" (renderBool must mustNot should)) = (do
      let lists ← parseLists (renderList "must" must ++ (renderList "must_not" mustNot ++
        (renderList "should" should ++ [])))
      return bool ((lists.lookup "must").getD []) ((lists.lookup "must_not").getD [])
        ((lists.lookup "should").getD [])) := by
    rw [renderBool, List.append_nil, ← List.append_assoc]
    split <;> rfl
  have hnil : parseLists [] = some [] := rfl
  have hlists := parseLists_renderList "must" ha
    (parseLists_renderList "must_not" hb (parseLists_renderList "should" hc hnil))
  rw [hminimum, hlists]
  cases a <;> cases b <;> cases c <;> rfl

mutual

/-- A rendered clause reads as the clause. -/
theorem parse?_render : ∀ c : Clause, parse? c.render = some c
  | .matchAll => rfl
  | .matchNone => rfl
  | .term _ _ => rfl
  | .terms _ _ => rfl
  | .range _ ⟨gt, gte, lt, lte⟩ => by
    cases gt <;> cases gte <;> cases lt <;> cases lte <;> rfl
  | .matchPhrase _ _ => rfl
  | .queryString fields query => by
    show (do return queryString (← texts? (.strings fields)) query) = _
    rw [texts?_strings]
    rfl
  | .phraseStart fields query limit => by
    have hfields : parse? (render (.phraseStart fields query limit)) =
        (do return phraseStart (← texts? (.strings fields)) query limit) := by
      cases limit <;> rfl
    rw [hfields, texts?_strings]
    rfl
  | .present _ => rfl
  | .bool must mustNot should => by
    rw [render]
    exact parse?_renderBool (parseAll_renderAll must) (parseAll_renderAll mustNot)
      (parseAll_renderAll should)

theorem parseAll_renderAll : ∀ cs : List Clause, parseAll (renderAll cs) = some cs
  | [] => rfl
  | c :: cs => by
    rw [renderAll, parseAll, parse?_render c, parseAll_renderAll cs]
    rfl

end

theorem render_inj {c d : Clause} : c.render = d.render ↔ c = d := by
  constructor
  · intro h
    have hparse : some c = some d := by
      rw [← parse?_render c, ← parse?_render d, h]
    exact Option.some.inj hparse
  · intro h
    rw [h]

end Clause

end DocQuery
