import DocQuery.Text.LetterCase

/-
  Conventions for field names.
  A convention derives the name of a field in the index from the name of a property.
-/

namespace DocQuery

/-- How the names of fields follow from the names of properties. -/
inductive Naming where
  /-- The first character is small. -/
  | camel
  /-- Words are small and joined by underscores. -/
  | snake
  /-- Names stay as they are. -/
  | verbatim
deriving DecidableEq

namespace Naming

/-- Small letters throughout, with an underscore before a capital that follows a small letter or
a digit. -/
def snakeAfter (followsSmall : Bool) : List Char → List Char
  | [] => []
  | c :: rest =>
    if Text.isUpper c then
      (if followsSmall then ['_'] else []) ++ Text.lower c ++ snakeAfter false rest
    else c :: snakeAfter (Text.isLower c || c.isDigit) rest

/-- The field name of a property. -/
def apply (naming : Naming) (property : String) : String :=
  match naming with
  | verbatim => property
  | camel =>
    match property.toList with
    | [] => ""
    | first :: rest => String.ofList (Text.lower first ++ rest)
  | snake => String.ofList (snakeAfter false property.toList)

/-- The written name of a convention. -/
def name : Naming → String
  | camel => "camel"
  | snake => "snake"
  | verbatim => "verbatim"

/-- The convention of a written name. -/
def ofName? : String → Option Naming
  | "camel" => some camel
  | "snake" => some snake
  | "verbatim" => some verbatim
  | _ => none

end Naming

end DocQuery
