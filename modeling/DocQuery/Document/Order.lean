import DocQuery.Document.Field
import DocQuery.Instant.Rfc3339

/-
  Comparing values of documents.
  Numbers compare by value, texts as instants if both are instants and else by code points, truth
  values with false first. Values of different kinds do not compare. Sorting keeps the order of
  documents that tie, and puts documents without a value last in both directions.
-/

namespace DocQuery

/-- The direction of a sort key. -/
inductive SortOrder where
  | asc
  | desc
deriving DecidableEq

/-- The written name of a direction. -/
def SortOrder.name : SortOrder → String
  | asc => "asc"
  | desc => "desc"

/-- The direction of a written name. -/
def SortOrder.ofName? : String → Option SortOrder
  | "asc" => some asc
  | "desc" => some desc
  | _ => none

/-- A field to sort by. -/
structure SortField where
  field : String
  order : SortOrder
deriving DecidableEq

namespace Document

/-- Whether two values are equal; numbers are when their values are. -/
def valuesEqual : Json → Json → Bool
  | .number m, .number n => m.value == n.value
  | a, b => a.same b

/-- The order of two texts. -/
def compareTexts (a b : String) : Ordering :=
  match Instant.parse? a, Instant.parse? b with
  | some s, some t => s.order t
  | _, _ => compare a b

/-- The order of two values, if they compare. -/
def compareValues : Json → Json → Option Ordering
  | .number m, .number n => some (compare m.value n.value)
  | .string a, .string b => some (compareTexts a b)
  | .bool a, .bool b => some (compare a b)
  | _, _ => none

/-- The order of two documents by one key. -/
def compareBy (key : SortField) (a b : Json) : Ordering :=
  match firstValue? a key.field, firstValue? b key.field with
  | none, none => .eq
  | none, some _ => .gt
  | some _, none => .lt
  | some x, some y =>
    let order := (compareValues x y).getD .eq
    match key.order with
    | .asc => order
    | .desc => order.swap

/-- The order of two documents by some keys, the first one that tells them apart. -/
def compareDocuments : List SortField → Json → Json → Ordering
  | [], _, _ => .eq
  | key :: keys, a, b => (compareBy key a b).then (compareDocuments keys a b)

/-- The order of two lists of values, the first pair that compares and differs. -/
def compareKeys : List Json → List Json → Ordering
  | a :: as, b :: bs => ((compareValues a b).getD .eq).then (compareKeys as bs)
  | _, _ => .eq

/-- Puts an item into a list in descending order, before everything it is not less than. -/
def insertDescending {α : Type} (order : α → α → Ordering) (x : α) : List α → List α
  | [] => [x]
  | y :: ys => if order x y = .lt then y :: insertDescending order x ys else x :: y :: ys

/-- Sorts a list by taking its items one by one; items that tie keep their order. -/
def sortBy {α : Type} (order : α → α → Ordering) (xs : List α) : List α :=
  (xs.foldl (fun acc x => insertDescending order x acc) []).reverse

/-- Documents with their positions. -/
abbrev Positioned := List (Nat × Json)

/-- Sorts documents by some keys. -/
def sortDocuments (keys : List SortField) (docs : Positioned) : Positioned :=
  sortBy (fun a b => compareDocuments keys a.2 b.2) docs

end Document

end DocQuery
