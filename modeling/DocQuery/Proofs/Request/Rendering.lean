import DocQuery.Proofs.Clause.Rendering
import DocQuery.Request.Basic

/-
  The bodies of requests.
  Requests whose bodies are equal agree in everything but the index (`rendering_injective`): a part
  that is missing is told from every part that is there.
-/

namespace DocQuery

open Json

theorem SortField.same_render (a b : SortField) : a.render.same b.render = true ↔ a = b := by
  obtain ⟨field, order⟩ := a
  obtain ⟨field', order'⟩ := b
  cases order <;> cases order' <;>
    simp [SortField.render, same_entry, Json.same, SortOrder.name]

theorem CompositeSource.same_render (a b : CompositeSource) :
    a.render.same b.render = true ↔ a = b := by
  obtain ⟨name, field⟩ := a
  obtain ⟨name', field'⟩ := b
  simp [CompositeSource.render, same_entry, Json.same]

theorem sameBound_sort (as bs : List SortField) :
    RangeBounds.sameBound (listed (as.map SortField.render)) (listed (bs.map SortField.render)) =
      true ↔ as = bs := by
  rw [sameBound_listed]
  exact sameItems_map SortField.same_render as bs

namespace CompositeAggregation

theorem render_eq (a : CompositeAggregation) :
    a.render = .object (fields [
      ("aggregations", some (.entry "data_composite" (.entry "top_hits" (.object (fields [
        ("size", a.hitsSize.map fun n : Nat => .int n),
        ("sort", listed (a.sort.map SortField.render))]))))),
      ("composite", some (.object (fields [
        ("size", a.size.map fun n : Nat => .int n),
        ("sources", some (.array (a.sources.map CompositeSource.render)))])))]) := by
  obtain ⟨sources, size, hitsSize, sort⟩ := a
  cases size <;> cases hitsSize <;> cases sort <;> rfl

/-- An object of a size that may be missing and one more field. -/
theorem same_sized {key : String} (hkey : key ≠ "size") (m n : Option Nat) (x y : Option Json) :
    (Json.object (fields [("size", m.map fun k : Nat => .int k), (key, x)])).same
      (.object (fields [("size", n.map fun k : Nat => .int k), (key, y)])) = true ↔
        m = n ∧ RangeBounds.sameBound x y = true := by
  rw [Json.same, sameEntries_fields]
  · simp [sameBound_size]
  · rfl
  · simp [hkey.symm]

theorem same_render (a b : CompositeAggregation) : a.render.same b.render = true ↔ a = b := by
  rw [render_eq, render_eq, Json.same, sameEntries_fields]
  · obtain ⟨sources, size, hitsSize, sort⟩ := a
    obtain ⟨sources', size', hitsSize', sort'⟩ := b
    have hsources := sameItems_map CompositeSource.same_render sources sources'
    simp [sameBound_some, same_entry, same_sized, sameBound_sort, same_array, hsources, and_assoc,
      and_comm, and_left_comm]
  · rfl
  · simp

end CompositeAggregation

namespace SearchRequest

theorem body_eq (r : SearchRequest) :
    r.body = .object (fields [
      ("_source", r.source.map fun fs => .entry "includes" (.strings fs)),
      ("aggregations", r.aggregation.map fun a => .entry "composite" a.render),
      ("from", r.start.map fun n : Nat => .int n), ("query", some r.query.render),
      ("size", some (.int r.size)), ("sort", listed (r.sort.map SortField.render))]) := by
  obtain ⟨index, query, start, size, sort, source, aggregation⟩ := r
  cases start <;> cases sort <;> cases source <;> cases aggregation <;> rfl

/-- Bodies are equal if the requests agree in everything but the index. -/
theorem same_body (a b : SearchRequest) :
    a.body.same b.body = true ↔
      a.source = b.source ∧ a.aggregation = b.aggregation ∧ a.start = b.start ∧
        a.query.same b.query = true ∧ a.size = b.size ∧ a.sort = b.sort := by
  have hsource := sameBound_map (f := fun fs : List String => .entry "includes" (.strings fs))
    fun fs gs => by simp [same_entry, same_strings]
  have haggregation := sameBound_map
    (f := fun a : CompositeAggregation => .entry "composite" a.render)
    fun a b => by simp [same_entry, CompositeAggregation.same_render]
  rw [body_eq, body_eq, Json.same, sameEntries_fields]
  · simp [sameBound_some, sameBound_size, sameBound_sort, same_size, hsource, haggregation,
      Clause.same_render]
  · rfl
  · simp

theorem body_inj (a b : SearchRequest) : a.body = b.body ↔ { a with index := b.index } = b := by
  constructor
  · intro h
    have hsame : a.body.same b.body = true := by
      rw [h]
      exact Json.same_refl _
    obtain ⟨hsource, haggregation, hstart, -, hsize, hsort⟩ := (same_body a b).1 hsame
    -- the parts before the query and behind it are the same, so what is between them is
    have hquery : a.query.render = b.query.render := by
      simpa [body, hsource, haggregation, hstart, hsize, hsort] using h
    have hquery := Clause.render_inj.1 hquery
    obtain ⟨index, query, start, size, sort, source, aggregation⟩ := a
    subst hsource haggregation hstart hsize hsort hquery
    rfl
  · intro h
    rw [← h]
    rfl

end SearchRequest

/-! ## Main theorem -/

/-- Rendered clauses are equal exactly if the clauses are, in the sense in which `0.0` equals `-0.0`
as well as in the strict one. The bodies of two requests for documents are equal exactly if the
requests have equal queries and the same start, size, sort keys, source and grouping, and the bodies
of two requests for a number exactly if the queries are equal. -/
theorem rendering_injective :
    (∀ c d : Clause, c.render.same d.render = c.same d ∧ (c.render = d.render ↔ c = d)) ∧
    (∀ a b : SearchRequest,
      (a.body.same b.body = true ↔
        a.source = b.source ∧ a.aggregation = b.aggregation ∧ a.start = b.start ∧
          a.query.same b.query = true ∧ a.size = b.size ∧ a.sort = b.sort) ∧
      (a.body = b.body ↔ { a with index := b.index } = b)) ∧
    ∀ a b : CountRequest, a.body.same b.body = a.query.same b.query ∧
      (a.body = b.body ↔ { a with index := b.index } = b) := by
  refine ⟨fun c d => ⟨Clause.same_render c d, Clause.render_inj⟩,
    fun a b => ⟨SearchRequest.same_body a b, SearchRequest.body_inj a b⟩, fun a b => ⟨?_, ?_⟩⟩
  · rw [CountRequest.body, CountRequest.body, same_entry, Clause.same_render]
    rfl
  · obtain ⟨index, query⟩ := a
    obtain ⟨index', query'⟩ := b
    simp [CountRequest.body, Json.entry, Clause.render_inj]

end DocQuery
