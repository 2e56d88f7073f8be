import DocQuery.Clause.Basic
import DocQuery.Predicate.Basic
import DocQuery.QueryString
import DocQuery.Schema.Declaration
import DocQuery.Compilation.Term

/-
  The clauses of the leaves of a predicate.
  Which clause a comparison becomes depends on the type of the field; the comparisons a type does
  not have are errors.
-/

namespace DocQuery.Compilation

/-- How many words the cut word of a phrase may stand for. -/
def phraseExpansions : Nat := 200

/-- The bounds of an ordering comparison; the other comparisons have none. -/
def orderingBounds (op : Comparison) (term : Json) : RangeBounds :=
  match op with
  | .gt => { gt := some term }
  | .ge => { gte := some term }
  | .lt => { lt := some term }
  | .le => { lte := some term }
  | .eq => {}
  | .ne => {}

/-- The comparison of a field with null: whether it has no value or has one. -/
def nullClause (property field : String) (op : Comparison) : Except QueryError Clause :=
  match op with
  | .eq => .ok (.noneOf [.present field])
  | .ne => .ok (.present field)
  | op => .error (.unsupported (property ++ " " ++ op.sign ++ " null"))

/-- The text of a term of a text or identifier field. -/
def termText : Json → String
  | .string s => s
  | _ => ""

/-- The comparison of a field with a term. Nothing when its type does not have the comparison. -/
def termClause? (field : String) (kind : FieldType) (op : Comparison) (term : Json) :
    Option Clause :=
  match kind, op with
  | .text, .eq => some (.matchPhrase field (termText term))
  | .text, .ne => some (.noneOf [.matchPhrase field (termText term)])
  | .text, _ => none
  | .identifier, .eq => some (.matchPhrase field (termText term))
  | .identifier, .ne => some (.noneOf [.matchPhrase field (termText term)])
  | .identifier, _ => none
  | .numeric, .eq => some (.allOf [.term field term])
  | .numeric, .ne => some (.noneOf [.term field term])
  | .numeric, op => some (.allOf [.range field (orderingBounds op term)])
  | .boolean, .eq => some (.allOf [.term field (.bool (isTrue term))])
  | .boolean, .ne => some (.allOf [.term field (.bool !(isTrue term))])
  | .boolean, _ => none
  | .datetime, .eq => some (.range field (.exactly term))
  | .datetime, .ne => some (.noneOf [.range field (.exactly term)])
  | .datetime, op => some (.range field (orderingBounds op term))
  | .enumeration, .eq => some (.term field term)
  | .enumeration, .ne => some (.noneOf [.term field term])
  | .enumeration, _ => none
where
  /-- Whether a term is the truth value true. -/
  isTrue : Json → Bool
    | .bool b => b
    | _ => false

/-- A coerced value, or the error that names the property. -/
def coerce (property : String) (kind : FieldKind) (value : Value) : Except QueryError Json :=
  match value.toTerm kind with
  | .ok term => .ok term
  | .error reason => .error (.invalidValue property reason)

/-- The clause of a comparison. -/
def comparisonClause (r : Resolver) (property : String) (op : Comparison) (value : Value) :
    Except QueryError Clause := do
  let field ← r.resolve property
  if value.isNull then nullClause property field.name op
  else
    let term ← coerce property field.kind value
    match termClause? field.name field.kind.type op term with
    | some clause => return clause
    | none =>
      throw (.unsupported (property ++ " " ++ op.sign ++ " " ++ value.describe ++ " (on a " ++
        field.kind.name ++ " field)"))

/-- The clause that matches a text with a pattern that is not blank. -/
def patternClause (field : String) (method : StringMethod) (pattern : String) : Clause :=
  match method with
  | .contains =>
    match Text.words pattern with
    | [word] => .queryString [field] ("*" ++ QueryString.escape word ++ "*")
    | words => .phraseStart [field] (" ".intercalate words) (some phraseExpansions)
  | .startsWith => .queryString [field] (QueryString.escape pattern ++ "*")
  | .endsWith => .queryString [field] ("*" ++ QueryString.escape pattern)

/-- The clause of a string method. A blank pattern matches every value. -/
def stringClause (r : Resolver) (method : StringMethod) (property pattern : String) :
    Except QueryError Clause := do
  let field ← r.resolve property
  if field.kind.type = .text ∨ field.kind.type = .identifier then
    if Text.isBlankText pattern then return .present field.name
    else return patternClause field.name method pattern
  else
    throw (.unsupported (property ++ "." ++ method.name ++ "(" ++ Text.quote pattern ++
      ") on a " ++ field.kind.name ++ " field"))

/-- The terms of some values, every term once, in the order of their first occurrences; values that
are null have none. -/
def distinctTerms (property : String) (kind : FieldKind) :
    List Json → List Value → Except QueryError (List Json)
  | seen, [] => .ok seen
  | seen, value :: rest =>
    if value.isNull then distinctTerms property kind seen rest
    else do
      let term ← coerce property kind value
      distinctTerms property kind (if seen.any (fun t => t.same term) then seen else seen ++ [term])
        rest

/-- The clause of a membership: the field has one of the terms, or no value if null is among the
candidates. -/
def membershipClause (r : Resolver) (property : String) (candidates : List Value) :
    Except QueryError Clause := do
  let field ← r.resolve property
  let exactName ← r.variant .exact property
  let terms ← distinctTerms property field.kind [] candidates
  if candidates.any Value.isNull then
    return .anyOf [.terms exactName terms, .noneOf [.present field.name]]
  else return .terms exactName terms

end DocQuery.Compilation
