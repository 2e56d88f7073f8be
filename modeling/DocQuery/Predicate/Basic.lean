import DocQuery.Error

/-
  Predicates over the properties of a document.
  `Predicate.describe` is the form in which messages show a predicate, with every binary connective
  in parentheses.
-/

namespace DocQuery

/-- A comparison between a property and a value. -/
inductive Comparison where
  | eq
  | ne
  | gt
  | ge
  | lt
  | le
deriving DecidableEq

namespace Comparison

/-- The sign of a comparison. -/
def sign : Comparison → String
  | eq => "=="
  | ne => "!="
  | gt => ">"
  | ge => ">="
  | lt => "<"
  | le => "<="

/-- The comparison of a written name. -/
def ofName? : String → Option Comparison
  | "eq" => some eq
  | "ne" => some ne
  | "gt" => some gt
  | "ge" => some ge
  | "lt" => some lt
  | "le" => some le
  | _ => none

end Comparison

/-- A way to match a text with a pattern. -/
inductive StringMethod where
  | contains
  | startsWith
  | endsWith
deriving DecidableEq

namespace StringMethod

/-- The name of a method. -/
def name : StringMethod → String
  | contains => "Contains"
  | startsWith => "StartsWith"
  | endsWith => "EndsWith"

/-- The method of a written name. -/
def ofName? : String → Option StringMethod
  | "contains" => some contains
  | "starts_with" => some startsWith
  | "ends_with" => some endsWith
  | _ => none

/-- The method that a call means, in letters of either case. -/
def ofCall? (method : String) : Option StringMethod :=
  match String.ofList (method.toList.map Char.toLower) with
  | "contains" => some contains
  | "startswith" => some startsWith
  | "starts_with" => some startsWith
  | "endswith" => some endsWith
  | "ends_with" => some endsWith
  | _ => none

end StringMethod

/-- A condition on the properties of a document. -/
inductive Predicate where
  /-- A property compared to a value. -/
  | comparison (property : String) (op : Comparison) (value : Value)
  | and (left right : Predicate)
  | or (left right : Predicate)
  | not (operand : Predicate)
  /-- A property matched with a pattern. -/
  | stringOp (method : StringMethod) (property pattern : String)
  /-- A property that has one of some values. -/
  | membership (property : String) (candidates : List Value)
  /-- A property that is true. -/
  | flag (property : String)
  /-- A value known beforehand. -/
  | constant (value : Value)
  /-- A condition compared to a truth value. -/
  | boolComparison (operand : Predicate) (op : Comparison) (value : Bool)
  /-- A call that nobody has classified yet. -/
  | call (method property : String) (args : List Value)
deriving DecidableEq

namespace Predicate

/-- The condition compared to a truth value. -/
def equals (p : Predicate) (value : Bool) : Predicate :=
  .boolComparison p .eq value

/-- Some values as a message lists them. -/
def describeValues (values : List Value) : String :=
  ", ".intercalate (values.map Value.describe)

/-- The text of a truth value. -/
def describeBool (b : Bool) : String :=
  (Value.bool b).describe

/-- A predicate as a message shows it. -/
def describe : Predicate → String
  | comparison property op value => property ++ " " ++ op.sign ++ " " ++ value.describe
  | and left right => "(" ++ left.describe ++ " && " ++ right.describe ++ ")"
  | or left right => "(" ++ left.describe ++ " || " ++ right.describe ++ ")"
  | not operand => "!" ++ operand.describe
  | stringOp method property pattern =>
    property ++ "." ++ method.name ++ "(" ++ Text.quote pattern ++ ")"
  | membership property candidates =>
    "[" ++ describeValues candidates ++ "].Contains(" ++ property ++ ")"
  | flag property => property
  | constant value => value.describe
  | boolComparison operand op value =>
    "(" ++ operand.describe ++ ") " ++ op.sign ++ " " ++ describeBool value
  | call method property args => property ++ "." ++ method ++ "(" ++ describeValues args ++ ")"

end Predicate

end DocQuery
