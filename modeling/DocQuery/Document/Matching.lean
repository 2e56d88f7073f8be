import DocQuery.Clause.Basic
import DocQuery.Document.Order
import DocQuery.Json.Printer
import DocQuery.QueryString

/-
  Which documents a clause matches.
  Text is compared by its tokens, and whole values by equality. A value that is no text counts as
  its JSON text.
-/

namespace DocQuery.Document

/-- Whether a value meets one bound. -/
def meets (value : Json) (accept : Ordering → Bool) : Option Json → Bool
  | none => true
  | some bound =>
    match compareValues value bound with
    | none => false
    | some order => accept order

/-- Whether a value lies between bounds. -/
def withinBounds (value : Json) (bounds : RangeBounds) : Bool :=
  meets value (· == .gt) bounds.gt && meets value (· != .lt) bounds.gte &&
    meets value (· == .lt) bounds.lt && meets value (· != .gt) bounds.lte

/-- A value as text. -/
def asText : Json → List Char
  | .string s => s.toList
  | j => j.compact.toList

/-- Whether tokens start with some words; the last word may be the start of its token if it is cut
short. -/
def startsWithWords (cutShort : Bool) : List (List Char) → List (List Char) → Bool
  | [], _ => true
  | _ :: _, [] => false
  | [word], token :: _ => if cutShort then word.isPrefixOf token else token == word
  | word :: words, token :: tokens => token == word && startsWithWords cutShort words tokens

/-- Whether some words stand in a list of tokens side by side. -/
def containsWords (cutShort : Bool) (words tokens : List (List Char)) : Bool :=
  !words.isEmpty && (QueryString.suffixes tokens).any (startsWithWords cutShort words)

/-- Whether a value of a field passes a test. -/
def someValue (doc : Json) (field : String) (test : Json → Bool) : Bool :=
  (fieldValues doc field).any test

mutual

/-- Whether a clause matches a document. -/
def isMatch (doc : Json) : Clause → Bool
  | .matchAll => true
  | .matchNone => false
  | .term field value => someValue doc field fun v => valuesEqual v value
  | .terms field values => someValue doc field fun v => values.any fun term => valuesEqual v term
  | .range field bounds => someValue doc field fun v => withinBounds v bounds
  | .matchPhrase field query =>
    let words := Text.tokens query.toList
    someValue doc field fun v => containsWords false words (Text.tokens (asText v))
  | .queryString fields query =>
    let parts := QueryString.parse query.toList
    fields.any fun field => someValue doc field fun v => QueryString.matchesText parts (asText v)
  | .phraseStart fields query _ =>
    let words := Text.tokens query.toList
    fields.any fun field =>
      someValue doc field fun v => containsWords true words (Text.tokens (asText v))
  | .present field => !(fieldValues doc field).isEmpty
  | .bool must mustNot should =>
    allMatch doc must && !anyMatch doc mustNot && (should.isEmpty || anyMatch doc should)

/-- Whether all of some clauses match a document. -/
def allMatch (doc : Json) : List Clause → Bool
  | [] => true
  | c :: rest => isMatch doc c && allMatch doc rest

/-- Whether one of some clauses matches a document. -/
def anyMatch (doc : Json) : List Clause → Bool
  | [] => false
  | c :: rest => isMatch doc c || anyMatch doc rest

end

end DocQuery.Document
