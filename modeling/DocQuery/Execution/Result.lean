import DocQuery.Error
import DocQuery.Json.Basic

/-
  Results of queries.
-/

namespace DocQuery

/-- Why a value is not a record of some type, in words. -/
structure DecodeError where
  message : String
deriving DecidableEq

/-- Why running a query fails. -/
inductive ExecutionError where
  | query (cause : QueryError)
  /-- The backend refused the request; the reasons stand outermost first. -/
  | transport (reasons : List String)
  | notFound
  | multipleResults (count : Nat)
  | decode (cause : DecodeError)
  | countOutOfRange (count : Nat) (target : String)
deriving DecidableEq

/-- The wording of an error. -/
def ExecutionError.message : ExecutionError → String
  | query cause => cause.message
  | transport reasons =>
    "the search backend rejected the request: " ++ ": ".intercalate reasons
  | notFound => "the query returned no results"
  | multipleResults n => "expected a single result but the query returned " ++ toString n
  | decode cause => "failed to decode the returned document: " ++ cause.message
  | countOutOfRange count target =>
    "the count " ++ toString count ++ " cannot be represented as a " ++ target

/-- The group-by properties of a group with their values, in group-by order. -/
abbrev GroupKey := List (String × Json)

/-- A group of records. -/
structure Grouping (α : Type) where
  key : GroupKey
  members : List α

/-- The result of a query. -/
inductive ExecutionResult (α : Type) where
  | collection (records : List α)
  | single (record : Option α)
  | count (n : Nat)
  | grouped (groups : List (Grouping α))

/-- A way to make records of the documents and values of the backend. -/
abbrev Transcoder (α : Type) := Json → Except DecodeError α

/-- A group as JSON; its properties stay in group-by order. -/
def Grouping.render (g : Grouping Json) : Json :=
  .object [("key", .object g.key), ("members", .array g.members)]

/-- A result as JSON. -/
def ExecutionResult.render : ExecutionResult Json → Json
  | collection records => .array records
  | single record => record.getD .null
  | count n => .int n
  | grouped groups => .array (groups.map Grouping.render)

end DocQuery
