import DocQuery.Clause.Basic

/-
  Reading clauses in the form in which the backend takes them.
-/

namespace DocQuery.Clause

/-- The text of a string. -/
def text? : Json → Option String
  | .string s => some s
  | _ => none

/-- The texts of a list of strings. -/
def texts? : Json → Option (List String)
  | .array items => items.mapM text?
  | _ => none

/-- The field and the value of an object with one entry. -/
def single? : Json → Option (String × Json)
  | .object [e] => some e
  | _ => none

/-- A clause without clauses inside, by its kind. -/
def parseLeaf (kind : String) (body : Json) : Option Clause := do
  let entries ← body.entries?
  match kind with
  | "match_all" => return matchAll
  | "match_none" => return matchNone
  | "term" =>
    let (field, inner) ← single? body
    return term field (← (← inner.entries?).lookup "value")
  | "terms" =>
    match ← single? body with
    | (field, .array values) => return terms field values
    | _ => none
  | "range" =>
    let (field, inner) ← single? body
    let bounds ← inner.entries?
    return range field ⟨bounds.lookup "gt", bounds.lookup "gte", bounds.lookup "lt",
      bounds.lookup "lte"⟩
  | "match_phrase" =>
    let (field, inner) ← single? body
    return matchPhrase field (← text? (← (← inner.entries?).lookup "query"))
  | "query_string" =>
    return queryString (← texts? (← entries.lookup "fields")) (← text? (← entries.lookup "query"))
  | "multi_match" =>
    let limit ← match entries.lookup "max_expansions" with
      | none => some none
      | some .null => some none
      | some (.number (.integer n)) => if 0 ≤ n then some (some n.toNat) else none
      | some _ => none
    return phraseStart (← texts? (← entries.lookup "fields"))
      (← text? (← entries.lookup "query")) limit
  | "exists" => return present (← text? (← entries.lookup "field"))
  | _ => none

mutual

/-- The clause that a value renders. -/
def parse? : Json → Option Clause
  | .object [(kind, body)] =>
    match kind, body with
    | "bool", .object entries => do
      let lists ← parseLists entries
      return bool ((lists.lookup "must").getD []) ((lists.lookup "must_not").getD [])
        ((lists.lookup "should").getD [])
    | kind, body => parseLeaf kind body
  | _ => none

/-- The clauses that some values render. -/
def parseAll : List Json → Option (List Clause)
  | [] => some []
  | j :: rest => do return (← parse? j) :: (← parseAll rest)

/-- The lists of clauses among the entries of a boolean clause. -/
def parseLists : List (String × Json) → Option (List (String × List Clause))
  | [] => some []
  | (key, .array items) :: rest => do return (key, ← parseAll items) :: (← parseLists rest)
  | _ :: rest => parseLists rest

end

end DocQuery.Clause
