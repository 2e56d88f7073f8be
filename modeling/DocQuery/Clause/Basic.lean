import DocQuery.Json.Basic

/-
  The clauses of the search backend's query language.
  `Clause.render` is the form in which the backend takes a clause; `Clause.parse?` reads that form
  back.
-/

namespace DocQuery

/-- The bounds of a range; every one may be missing. -/
structure RangeBounds where
  gt : Option Json := none
  gte : Option Json := none
  lt : Option Json := none
  lte : Option Json := none

/-- A fragment of a query. -/
inductive Clause where
  /-- Every document matches. -/
  | matchAll
  /-- No document matches. -/
  | matchNone
  /-- A field has a value. -/
  | term (field : String) (value : Json)
  /-- A field has one of some values. -/
  | terms (field : String) (values : List Json)
  /-- A field has a value between bounds. -/
  | range (field : String) (bounds : RangeBounds)
  /-- The words of a phrase stand in a field side by side. -/
  | matchPhrase (field query : String)
  /-- A pattern in the syntax of query strings matches one of some fields. -/
  | queryString (fields : List String) (query : String)
  /-- The words of a phrase stand in one of some fields, the last one cut short. -/
  | phraseStart (fields : List String) (query : String) (maxExpansions : Option Nat)
  /-- A field has a value that is not null. -/
  | present (field : String)
  /-- All of some clauses match, none of others, and one of a third list unless it is empty. -/
  | bool (must mustNot should : List Clause)

namespace RangeBounds

/-- The bounds that only one value meets. -/
def exactly (value : Json) : RangeBounds :=
  { gte := some value, lte := some value }

/-- A bound as an entry, if it is there. -/
def renderBound (name : String) : Option Json → List (String × Json)
  | none => []
  | some value => [(name, value)]

/-- The bounds as the backend takes them. -/
def render (b : RangeBounds) : Json :=
  .object (renderBound "gt" b.gt ++ renderBound "gte" b.gte ++ renderBound "lt" b.lt ++
    renderBound "lte" b.lte)

/-- Whether two bounds are equal or both missing. -/
def sameBound : Option Json → Option Json → Bool
  | none, none => true
  | some a, some b => a.same b
  | _, _ => false

/-- Whether two pairs of bounds are equal. -/
def same (a b : RangeBounds) : Bool :=
  sameBound a.gt b.gt && sameBound a.gte b.gte && sameBound a.lt b.lt && sameBound a.lte b.lte

end RangeBounds

namespace Clause

/-- All of some clauses match. -/
def allOf (clauses : List Clause) : Clause := .bool clauses [] []

/-- None of some clauses matches. -/
def noneOf (clauses : List Clause) : Clause := .bool [] clauses []

/-- One of some clauses matches. -/
def anyOf (clauses : List Clause) : Clause := .bool [] [] clauses

/-- A list of rendered clauses as an entry, unless it is empty. -/
def renderList (name : String) (clauses : List Json) : List (String × Json) :=
  if clauses.isEmpty then [] else [(name, .array clauses)]

/-- The lists of a boolean clause as entries. Beside other lists the backend takes the last one as
optional, so its minimum has to be given. -/
def renderBool (must mustNot should : List Json) : Json :=
  let minimum := if !should.isEmpty && (!must.isEmpty || !mustNot.isEmpty) then
    [("minimum_should_match", Json.int 1)] else []
  .object (minimum ++ renderList "must" must ++ renderList "must_not" mustNot ++
    renderList "should" should)

mutual

/-- A clause as the backend takes it. -/
def render : Clause → Json
  | matchAll => .entry "match_all" (.object [])
  | matchNone => .entry "match_none" (.object [])
  | term field value => .entry "term" (.entry field (.entry "value" value))
  | terms field values => .entry "terms" (.entry field (.array values))
  | range field bounds => .entry "range" (.entry field bounds.render)
  | matchPhrase field query =>
    .entry "match_phrase" (.entry field (.entry "query" (.string query)))
  | queryString fields query =>
    .entry "query_string" (.object [("fields", .strings fields), ("query", .string query)])
  | phraseStart fields query maxExpansions =>
    let limit := match maxExpansions with
      | none => []
      | some n => [("max_expansions", Json.int n)]
    .entry "multi_match" (.object ([("fields", Json.strings fields)] ++ limit ++
      [("query", .string query), ("type", .string "phrase_prefix")]))
  | present field => .entry "exists" (.entry "field" (.string field))
  | bool must mustNot should =>
    .entry "bool" (renderBool (renderAll must) (renderAll mustNot) (renderAll should))

/-- Some clauses as the backend takes them. -/
def renderAll : List Clause → List Json
  | [] => []
  | c :: rest => c.render :: renderAll rest

end

mutual

/-- Whether two clauses are equal. -/
def same : Clause → Clause → Bool
  | matchAll, matchAll => true
  | matchNone, matchNone => true
  | term f v, term g w => f == g && v.same w
  | terms f vs, terms g ws => f == g && Json.sameItems vs ws
  | range f b, range g c => f == g && b.same c
  | matchPhrase f q, matchPhrase g r => f == g && q == r
  | queryString fs q, queryString gs r => fs == gs && q == r
  | phraseStart fs q m, phraseStart gs r n => fs == gs && q == r && m == n
  | present f, present g => f == g
  | bool a b c, bool d e f => sameAll a d && sameAll b e && sameAll c f
  | _, _ => false

/-- Whether two lists of clauses are equal. -/
def sameAll : List Clause → List Clause → Bool
  | [], [] => true
  | c :: cs, d :: ds => c.same d && sameAll cs ds
  | _, _ => false

end

end Clause

end DocQuery
