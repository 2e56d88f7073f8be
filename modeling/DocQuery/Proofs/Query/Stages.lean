import Mathlib.Data.List.Induction
import DocQuery.Proofs.Compilation.Conjunction
import DocQuery.Query.Payload

/-
  Building a query call by call.
  Every call gives parts to some components of a query: to its filter, its offset, its limit, its
  sort keys, its group keys, its projection. A query is settled by the parts that each component
  gets, whatever the order between components (`build_eq_extend`), so calls in any order that keeps
  the parts of every component build the same query, and so does a payload (`build_by_component`).
-/

namespace DocQuery

/-! ## Calls -/

/-- A call that adds to a query. -/
inductive Stage where
  | merge (clauses : List Clause) (directives : Directives)
  | filter (p : Predicate)
  | skip (n : Nat)
  | take (n : Nat)
  | orderBy (key : SortKey)
  | thenBy (key : SortKey)
  | groupBy (property : String)
  | select (property : String)

namespace Query

/-- The query after a call. -/
def add (q : Query) (r : Resolver) : Stage → Except QueryError Query
  | .merge clauses d => .ok (q.merge clauses d)
  | .filter p => q.filter r p
  | .skip n => .ok (q.skip n)
  | .take n => .ok (q.take n)
  | .orderBy key => .ok (q.orderBy key)
  | .thenBy key => .ok (q.thenBy key)
  | .groupBy property => .ok (q.groupBy property)
  | .select property => .ok (q.select property)

/-- The query after some calls, one after the other. -/
def build (q : Query) (r : Resolver) : List Stage → Except QueryError Query
  | [] => .ok q
  | s :: rest => do build (← q.add r s) r rest

end Query

/-! ## Parts by component -/

/-- A part of a filter: a compiled clause, or a predicate that is still to be compiled. -/
inductive FilterPart where
  | clause (c : Clause)
  | predicate (p : Predicate)

namespace FilterPart

/-- The clauses of a part of a filter. -/
def clauses (r : Resolver) : FilterPart → Except QueryError (List Clause)
  | clause c => .ok [c]
  | predicate p => p.compile r

/-- The clauses of some parts of a filter, one part after the other. -/
def clausesOf (r : Resolver) : List FilterPart → Except QueryError (List Clause)
  | [] => .ok []
  | part :: rest => do return (← part.clauses r) ++ (← clausesOf r rest)

variable {r : Resolver}

theorem clausesOf_append (parts rest : List FilterPart) :
    clausesOf r (parts ++ rest) = do return (← clausesOf r parts) ++ (← clausesOf r rest) := by
  induction parts with
  | nil => simp [clausesOf]
  | cons part parts ih =>
    rw [List.cons_append, clausesOf, clausesOf, ih]
    simp only [bind_assoc, pure_bind, List.append_assoc]

theorem clausesOf_map_clause (cs : List Clause) : clausesOf r (cs.map clause) = .ok cs := by
  induction cs with
  | nil => rfl
  | cons c cs ih =>
    rw [List.map_cons, clausesOf, ih]
    rfl

theorem clausesOf_predicate (p : Predicate) : clausesOf r [predicate p] = p.compile r := by
  rw [clausesOf, clausesOf, clauses]
  cases p.compile r <;> simp

/-- Parts of a filter fail like the first one that does. -/
theorem errorOf?_clausesOf (parts : List FilterPart) :
    errorOf? (clausesOf r parts) = parts.findSome? fun part => errorOf? (part.clauses r) := by
  induction parts with
  | nil => rfl
  | cons part parts ih =>
    rw [clausesOf, errorOf?_map₂, findSome?_cons_or, ih]

theorem clausesOf_eq_ok {parts : List FilterPart}
    (h : ∀ p, predicate p ∈ parts → ∃ cs, p.compile r = .ok cs) :
    ∃ cs, clausesOf r parts = .ok cs := by
  rw [← errorOf?_eq_none, errorOf?_clausesOf, List.findSome?_eq_none_iff]
  intro part hpart
  cases part with
  | clause c => rfl
  | predicate p => exact errorOf?_eq_none.2 (h p hpart)

end FilterPart

/-- A change of sort keys. -/
inductive SortEdit where
  /-- Other keys take their place. -/
  | replace (keys : List SortKey)
  | add (key : SortKey)

namespace SortEdit

/-- The sort keys after a change. -/
def apply (keys : List SortKey) : SortEdit → List SortKey
  | replace others => others
  | add key => keys ++ [key]

/-- The sort keys that changes leave behind where there were none: those that last took the place of
others, and then all that were added since. -/
inductive Leave : List SortEdit → List SortKey → Prop where
  | added (keys : List SortKey) : Leave (keys.map add) keys
  | replaced (before : List SortEdit) (keys more : List SortKey) :
    Leave (before ++ replace keys :: more.map add) (keys ++ more)

theorem leave_foldl (edits : List SortEdit) : Leave edits (edits.foldl apply []) := by
  -- by induction from the end: the last change decides between the two forms
  induction edits using List.reverseRecOn with
  | nil => exact .added []
  | append_singleton edits e ih =>
    rw [List.foldl_append]
    generalize edits.foldl apply [] = keys at ih
    cases e with
    | replace others => simpa [apply] using Leave.replaced edits others []
    | add key =>
      cases ih with
      | added => simpa [apply] using Leave.added (keys ++ [key])
      | replaced before keys more => simpa [apply] using Leave.replaced before keys (more ++ [key])

theorem foldl_add (keys more : List SortKey) : (more.map add).foldl apply keys = keys ++ more := by
  induction more generalizing keys with
  | nil => simp
  | cons key more ih => simp [ih, apply]

end SortEdit

/-- What calls give to the components of a query, every component in call order. -/
structure Parts where
  filters : List FilterPart := []
  offsets : List Nat := []
  limits : List Nat := []
  sorts : List SortEdit := []
  groupKeys : List String := []
  projections : List String := []

/-- What a call gives to the components of a query. -/
def Stage.parts : Stage → Parts
  | merge clauses d => {
      filters := clauses.map .clause
      offsets := d.skip.toList
      limits := d.take.toList
      sorts := (d.orderBy.map .replace).toList
      groupKeys := d.groupBy }
  | filter p => { filters := [.predicate p] }
  | skip n => { offsets := [n] }
  | take n => { limits := [n] }
  | orderBy key => { sorts := [.replace [key]] }
  | thenBy key => { sorts := [.add key] }
  | groupBy property => { groupKeys := [property] }
  | select property => { projections := [property] }

namespace Parts

instance : Append Parts where
  append a b := {
    filters := a.filters ++ b.filters
    offsets := a.offsets ++ b.offsets
    limits := a.limits ++ b.limits
    sorts := a.sorts ++ b.sorts
    groupKeys := a.groupKeys ++ b.groupKeys
    projections := a.projections ++ b.projections }

/-- What some calls give to the components of a query. -/
def ofStages : List Stage → Parts
  | [] => {}
  | s :: rest => s.parts ++ ofStages rest

theorem append_def (a b : Parts) :
    a ++ b = ⟨a.filters ++ b.filters, a.offsets ++ b.offsets, a.limits ++ b.limits,
      a.sorts ++ b.sorts, a.groupKeys ++ b.groupKeys, a.projections ++ b.projections⟩ := rfl

theorem ofStages_append (stages rest : List Stage) :
    ofStages (stages ++ rest) = ofStages stages ++ ofStages rest := by
  induction stages with
  | nil => simp [ofStages, append_def]
  | cons s stages ih => simp [ofStages, append_def, ih]

/-- Calls of one kind, with what they give to the components. -/
theorem ofStages_map {α : Type} (call : α → Stage) (gives : List α → Parts)
    (hnil : gives [] = {}) (hcons : ∀ a as, (call a).parts ++ gives as = gives (a :: as))
    (as : List α) : ofStages (as.map call) = gives as := by
  induction as with
  | nil => exact hnil.symm
  | cons a as ih => rw [List.map_cons, ofStages, ih, hcons]

theorem ofStages_filter (ps : List Predicate) :
    ofStages (ps.map .filter) = { filters := ps.map .predicate } :=
  ofStages_map .filter (fun ps => { filters := ps.map .predicate }) rfl (fun _ _ => rfl) ps

theorem ofStages_skip (ns : List Nat) : ofStages (ns.map .skip) = { offsets := ns } :=
  ofStages_map .skip (fun ns => { offsets := ns }) rfl (fun _ _ => rfl) ns

theorem ofStages_take (ns : List Nat) : ofStages (ns.map .take) = { limits := ns } :=
  ofStages_map .take (fun ns => { limits := ns }) rfl (fun _ _ => rfl) ns

theorem ofStages_thenBy (keys : List SortKey) :
    ofStages (keys.map .thenBy) = { sorts := keys.map .add } :=
  ofStages_map .thenBy (fun keys => { sorts := keys.map .add }) rfl (fun _ _ => rfl) keys

theorem ofStages_groupBy (properties : List String) :
    ofStages (properties.map .groupBy) = { groupKeys := properties } :=
  ofStages_map .groupBy (fun names => { groupKeys := names }) rfl (fun _ _ => rfl) properties

theorem ofStages_select (properties : List String) :
    ofStages (properties.map .select) = { projections := properties } :=
  ofStages_map .select (fun names => { projections := names }) rfl (fun _ _ => rfl) properties

theorem predicate_mem_ofStages {p : Predicate} {stages : List Stage}
    (h : .predicate p ∈ (ofStages stages).filters) : .filter p ∈ stages := by
  induction stages with
  | nil => cases h
  | cons s stages ih =>
    rcases List.mem_append.1 h with h | h
    · cases s <;> simp [Stage.parts] at h
      simp [h]
    · exact List.mem_cons_of_mem s (ih h)

end Parts

/-! ## The query of some parts -/

namespace Query

/-- A query with parts of its components added, those of the filter as clauses. -/
def extend (q : Query) (parts : Parts) (clauses : List Clause) : Query where
  clauses := q.clauses ++ clauses
  offset := parts.offsets.getLast?.or q.offset
  limit := parts.limits.getLast?.or q.limit
  sortKeys := parts.sorts.foldl SortEdit.apply q.sortKeys
  groupKeys := q.groupKeys ++ parts.groupKeys
  projection := parts.projections.getLast?.or q.projection

variable {r : Resolver}

theorem extend_nil (q : Query) : q.extend {} [] = q := by
  simp [extend]

theorem extend_extend (q : Query) (a b : Parts) (cs ds : List Clause) :
    (q.extend a cs).extend b ds = q.extend (a ++ b) (cs ++ ds) := by
  simp [extend, Parts.append_def, List.getLast?_append, Option.or_assoc]

theorem merge_eq_extend (q : Query) (clauses : List Clause) (d : Directives) :
    q.merge clauses d = q.extend (Stage.merge clauses d).parts clauses := by
  obtain ⟨skip, take, orderBy, groupBy⟩ := d
  cases skip <;> cases take <;> cases orderBy <;> rfl

/-- A call adds its parts to the query. -/
theorem add_eq_extend (q : Query) (s : Stage) :
    q.add r s = do return q.extend s.parts (← FilterPart.clausesOf r s.parts.filters) := by
  cases s with
  | merge clauses d =>
    rw [add, merge_eq_extend, Stage.parts, FilterPart.clausesOf_map_clause]
    rfl
  | filter p =>
    rw [add, filter, Stage.parts, FilterPart.clausesOf_predicate]
    simp only [merge_eq_extend]
    rfl
  | _ => simp [add, skip, take, orderBy, thenBy, groupBy, select, extend, Stage.parts,
      FilterPart.clausesOf, SortEdit.apply]

/-- Calls one after the other add the parts that they give to the components. -/
theorem build_eq_extend (q : Query) (stages : List Stage) :
    q.build r stages = do
      return q.extend (Parts.ofStages stages)
        (← FilterPart.clausesOf r (Parts.ofStages stages).filters) := by
  induction stages generalizing q with
  | nil => exact congrArg Except.ok q.extend_nil.symm
  | cons s stages ih =>
    have hfilters : (Parts.ofStages (s :: stages)).filters =
        s.parts.filters ++ (Parts.ofStages stages).filters := rfl
    rw [build, add_eq_extend, hfilters, FilterPart.clausesOf_append]
    simp only [bind_assoc, pure_bind, ih, extend_extend, Parts.ofStages]

theorem errorOf?_build (q : Query) (stages : List Stage) :
    errorOf? (q.build r stages) =
      (Parts.ofStages stages).filters.findSome? fun part => errorOf? (part.clauses r) := by
  rw [build_eq_extend, errorOf?_map, FilterPart.errorOf?_clausesOf]

theorem filterAll_eq_build (q : Query) (ps : List Predicate) :
    q.filterAll r ps = q.build r (ps.map .filter) := by
  induction ps generalizing q with
  | nil => rfl
  | cons p ps ih => simp only [filterAll, List.map_cons, build, add, ih]

end Query

/-! ## Payloads -/

namespace Payload

/-- The calls that sort by some keys. -/
def sortStages : List SortKey → List Stage
  | [] => []
  | key :: more => .orderBy key :: more.map .thenBy

/-- The calls that build the query of a payload. -/
def stages (p : Payload) : List Stage :=
  p.filters.map .filter ++ p.skip.toList.map .skip ++ p.take.toList.map .take ++
    sortStages p.orderBy ++ p.groupBy.map .groupBy ++ p.select.toList.map .select

theorem ofStages_sortStages (keys : List SortKey) :
    ∃ edits, Parts.ofStages (sortStages keys) = { sorts := edits } ∧
      edits.foldl SortEdit.apply [] = keys := by
  cases keys with
  | nil => exact ⟨[], rfl, rfl⟩
  | cons key more =>
    refine ⟨.replace [key] :: more.map .add, ?_, ?_⟩
    · rw [sortStages, Parts.ofStages, Parts.ofStages_thenBy]
      rfl
    · rw [List.foldl_cons, SortEdit.apply, SortEdit.foldl_add]
      rfl

theorem ofStages_stages (p : Payload) :
    ∃ edits, edits.foldl SortEdit.apply [] = p.orderBy ∧
      Parts.ofStages p.stages = {
        filters := p.filters.map .predicate, offsets := p.skip.toList, limits := p.take.toList
        sorts := edits, groupKeys := p.groupBy, projections := p.select.toList } := by
  obtain ⟨edits, hparts, hkeys⟩ := ofStages_sortStages p.orderBy
  refine ⟨edits, hkeys, ?_⟩
  simp only [stages, Parts.ofStages_append, Parts.ofStages_filter, Parts.ofStages_skip,
    Parts.ofStages_take, hparts, Parts.ofStages_groupBy, Parts.ofStages_select]
  simp [Parts.append_def]

/-- A payload builds the query that its calls build. -/
theorem toQuery_eq_build {p : Payload} (h : p.validate = .ok ()) (r : Resolver) :
    p.toQuery r = Query.build {} r p.stages := by
  obtain ⟨edits, hkeys, hparts⟩ := p.ofStages_stages
  rw [toQuery, h, Query.filterAll_eq_build, Query.build_eq_extend, Query.build_eq_extend,
    Parts.ofStages_filter, hparts]
  cases FilterPart.clausesOf r (p.filters.map .predicate) with
  | error cause => rfl
  | ok cs =>
    refine congrArg Except.ok ?_
    rw [← hkeys]
    cases p.skip <;> cases p.take <;> cases p.select <;>
      simp [Query.merge, Query.extend, Query.select]

theorem errorOf?_toQuery {p : Payload} (h : p.validate = .ok ()) (r : Resolver) :
    errorOf? (p.toQuery r) = p.filters.findSome? fun q => errorOf? (q.compile r) := by
  obtain ⟨edits, -, hparts⟩ := p.ofStages_stages
  rw [toQuery_eq_build h, Query.errorOf?_build, hparts, List.findSome?_map]
  rfl

end Payload

/-! ## Main theorem -/

/-- Calls on a new query whose filters all compile build one whose components each come from their
own parts: the filter has the clauses of all of its parts, offset, limit and projection are the last
ones given, the sort keys are those that last took the place of others with the ones added since,
and the group keys are all of them. So calls that give every component the same parts build the
same query, or fail with the same error. A payload that is valid builds what its calls in any such
order build, and fails like the first of its filters that does not compile. -/
theorem build_by_component (r : Resolver) :
    (∀ stages : List Stage, (∀ p, .filter p ∈ stages → ∃ cs, p.compile r = .ok cs) →
      ∃ q, Query.build {} r stages = .ok q ∧
        FilterPart.clausesOf r (Parts.ofStages stages).filters = .ok q.clauses ∧
        q.offset = (Parts.ofStages stages).offsets.getLast? ∧
        q.limit = (Parts.ofStages stages).limits.getLast? ∧
        SortEdit.Leave (Parts.ofStages stages).sorts q.sortKeys ∧
        q.groupKeys = (Parts.ofStages stages).groupKeys ∧
        q.projection = (Parts.ofStages stages).projections.getLast?) ∧
    (∀ a b : List Stage, Parts.ofStages a = Parts.ofStages b →
      Query.build {} r a = Query.build {} r b) ∧
    ∀ payload : Payload, payload.validate = .ok () →
      (errorOf? (payload.toQuery r) =
        payload.filters.findSome? fun p => errorOf? (p.compile r)) ∧
      ∀ stages, Parts.ofStages stages = Parts.ofStages payload.stages →
        payload.toQuery r = Query.build {} r stages := by
  have hcongr : ∀ a b : List Stage, Parts.ofStages a = Parts.ofStages b →
      Query.build {} r a = Query.build {} r b := by
    intro a b h
    rw [Query.build_eq_extend, Query.build_eq_extend, h]
  refine ⟨fun stages h => ?_, hcongr, fun payload hvalid => ⟨?_, fun stages h => ?_⟩⟩
  · obtain ⟨cs, hcs⟩ := FilterPart.clausesOf_eq_ok fun p hp =>
      h p (Parts.predicate_mem_ofStages hp)
    refine ⟨Query.extend {} (Parts.ofStages stages) cs, ?_, hcs, ?_⟩
    · rw [Query.build_eq_extend, hcs]
      rfl
    · have hsorts := SortEdit.leave_foldl (Parts.ofStages stages).sorts
      exact ⟨Option.or_none, Option.or_none, hsorts, rfl, Option.or_none⟩
  · exact Payload.errorOf?_toQuery hvalid r
  · rw [Payload.toQuery_eq_build hvalid, hcongr _ _ h]

/-- A later limit and later sort keys count, also where the calls for other components stand
elsewhere. The payload has calls in an order of its own; where it filters by a property that is not
declared, it fails. -/
theorem build_by_component_ticket :
    let r := ticketIndex.resolver
    let done := Predicate.flag "Done"
    let keys := [SortKey.mk "Urgent" .desc]
    let stages : List Stage := [.skip 5, .take 10, .orderBy ⟨"Done", .asc⟩,
      .merge [.matchAll] { take := some 2, orderBy := some keys, groupBy := ["Done"] },
      .filter done, .groupBy "Urgent", .thenBy ⟨"Done", .asc⟩]
    let others : List Stage := [.orderBy ⟨"Done", .asc⟩, .groupBy "Done", .take 10,
      .merge [.matchAll] { orderBy := some keys }, .groupBy "Urgent", .thenBy ⟨"Done", .asc⟩,
      .filter done, .take 2, .skip 5]
    let payload (filters : List Predicate) : Payload := {
      filters, skip := some 5, take := some 2, orderBy := keys ++ [⟨"Done", .asc⟩]
      groupBy := ["Done", "Urgent"], shape := .grouped }
    (∃ q, Query.build {} r stages = .ok q ∧ q.limit = some 2 ∧ q.groupKeys = ["Done", "Urgent"] ∧
      Query.build {} r others = .ok q) ∧
      (payload [done]).toQuery r = Query.build {} r [.groupBy "Done", .orderBy ⟨"Urgent", .desc⟩,
        .take 2, .filter done, .thenBy ⟨"Done", .asc⟩, .groupBy "Urgent", .skip 5] ∧
      errorOf? ((payload [done, .flag "Owner"]).toQuery r) = some (.unknownProperty "Owner") := by
  intro r done keys stages others payload
  obtain ⟨hbuild, hcongr, hpayload⟩ := build_by_component r
  have hdone : done.compile r = .ok [.allOf [.allOf [.term "done" (.bool true)]]] := by rfl
  have hfilters : ∀ p, Stage.filter p ∈ stages → ∃ cs, p.compile r = .ok cs := by
    intro p hp
    simp only [stages, List.mem_cons, List.not_mem_nil, Stage.filter.injEq, reduceCtorEq, false_or,
      or_false] at hp
    exact ⟨_, hp ▸ hdone⟩
  obtain ⟨q, hq, -, -, hlimit, -, hgroup, -⟩ := hbuild stages hfilters
  refine ⟨⟨q, hq, hlimit, hgroup, ?_⟩, ?_, ?_⟩
  · rw [← hcongr stages others rfl]
    exact hq
  · exact (hpayload (payload [done]) rfl).2 _ rfl
  · rw [(hpayload (payload [done, .flag "Owner"]) rfl).1]
    rfl

end DocQuery
