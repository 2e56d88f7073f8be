import DocQuery.Json.Basic
import DocQuery.Schema.Declaration

/-
  The fields of a document.
  The name of a field is a path through the objects of a document, its parts joined by points. The
  untokenised form of a field has the values of the field itself.
-/

namespace DocQuery.Document

/-- What the name of an untokenised form has behind the name of the field. -/
def keywordEnding : List Char :=
  '.' :: keywordSuffix.toList

/-- The name of a field without the ending of its untokenised form. -/
def stripKeyword (field : String) : String :=
  let cs := field.toList
  let n := cs.length - keywordEnding.length
  if cs.drop n = keywordEnding then String.ofList (cs.take n) else field

/-- The parts of a name. -/
def segments (field : String) : List String :=
  (Text.splitAt (· == '.') field.toList).map String.ofList

/-- The path of a field. -/
def path (field : String) : List String :=
  segments (stripKeyword field)

/-- The value at a path, which leads through objects only. -/
def lookup : List String → Json → Option Json
  | [], j => some j
  | key :: rest, .object entries =>
    match entries.lookup key with
    | none => none
    | some j => lookup rest j
  | _ :: _, _ => none

/-- The values of a field that are not null; a list counts as its items. -/
def fieldValues (doc : Json) (field : String) : List Json :=
  match lookup (path field) doc with
  | none => []
  | some .null => []
  | some (.array items) => items.filter fun j => !j.isNull
  | some j => [j]

/-- The first value of a field. -/
def firstValue? (doc : Json) (field : String) : Option Json :=
  (fieldValues doc field).head?

/-- Puts a value at a path into an object, with the objects on the way. What stands on the way and
is no object stays, and the value is left out. -/
def insertPath : List String → Json → List (String × Json) → List (String × Json)
  | [], _, entries => entries
  | [key], value, entries => Entries.insert key value entries
  | key :: rest, value, entries =>
    match entries.lookup key with
    | none => Entries.insert key (.object (insertPath rest value [])) entries
    | some (.object inner) => Entries.insert key (.object (insertPath rest value inner)) entries
    | some _ => entries

/-- The object that has of a document only the values of some fields. -/
def project (fields : List String) (doc : Json) : Json :=
  .object (fields.foldl (fun acc field =>
    match lookup (path field) doc with
    | none => acc
    | some value => insertPath (path field) value acc) [])

end DocQuery.Document
