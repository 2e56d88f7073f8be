import DocQuery.Identifier
import DocQuery.Instant.Rfc3339
import DocQuery.Number.Layout
import DocQuery.Text.Quoted

/-
  The values a predicate carries.
  `Value.plain` is the plain text of a value; `Value.describe` is how a message shows it, with texts
  quoted and members of an enumeration marked.
-/

namespace DocQuery

/-- A floating-point number, finite or not. -/
inductive Real64 where
  | finite (x : Binary64)
  | infinite (negative : Bool)
  | undefined
deriving DecidableEq

/-- A value a property is compared to. -/
inductive Value where
  | null
  | bool (b : Bool)
  | signed (n : Int)
  | unsigned (n : Nat)
  | real (x : Real64)
  | text (s : String)
  | identifier (id : Identifier)
  | datetime (t : Instant)
  /-- A member of an enumeration, by name. -/
  | member (name : String)
deriving DecidableEq

/-- The kinds of values; both forms of integers are of one kind. -/
inductive ValueKind where
  | null
  | bool
  | integer
  | float
  | text
  | identifier
  | datetime
  | enumeration
deriving DecidableEq

/-- The name of a kind of values. -/
def ValueKind.name : ValueKind → String
  | null => "null"
  | bool => "bool"
  | integer => "integer"
  | float => "float"
  | text => "text"
  | identifier => "identifier"
  | datetime => "datetime"
  | enumeration => "enum"

/-- Floating-point values are written positionally with the fewest digits, whole ones without a
point. -/
def valueLayout : Layout where
  positional := none
  keepsPoint := false
  tie := .upward

/-- The text of a floating-point value. -/
def Real64.render : Real64 → String
  | finite x => valueLayout.render x
  | infinite negative => if negative then "-inf" else "inf"
  | undefined => "NaN"

namespace Value

/-- Whether a value is null. -/
def isNull : Value → Bool
  | null => true
  | _ => false

/-- The kind of a value. -/
def kind : Value → ValueKind
  | null => .null
  | bool _ => .bool
  | signed _ => .integer
  | unsigned _ => .integer
  | real _ => .float
  | text _ => .text
  | identifier _ => .identifier
  | datetime _ => .datetime
  | member _ => .enumeration

/-- The plain text of a value. -/
def plain : Value → String
  | null => "null"
  | bool b => if b then "true" else "false"
  | signed n => toString n
  | unsigned n => toString n
  | real x => x.render
  | text s => s
  | identifier id => id.render
  | datetime t => t.render
  | member name => name

/-- A value as a message shows it. -/
def describe : Value → String
  | text s => Text.quote s
  | member name => "::" ++ name
  | v => v.plain

end Value

end DocQuery
