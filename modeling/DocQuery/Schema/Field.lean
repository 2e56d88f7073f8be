import DocQuery.Entries

/-
  Declarations of fields.
  A field has a type; a text or identifier field may also have an untokenised form under the name
  of the field and the suffix `.keyword`.
-/

namespace DocQuery

/-- The type of a field. -/
inductive FieldType where
  | text
  | identifier
  | numeric
  | boolean
  | datetime
  | enumeration
deriving DecidableEq

namespace FieldType

/-- The written name of a type. -/
def name : FieldType → String
  | text => "text"
  | identifier => "identifier"
  | numeric => "numeric"
  | boolean => "boolean"
  | datetime => "datetime"
  | enumeration => "enum"

/-- The type of a written name. -/
def ofName? : String → Option FieldType
  | "text" => some text
  | "identifier" => some identifier
  | "numeric" => some numeric
  | "boolean" => some boolean
  | "datetime" => some datetime
  | "enum" => some enumeration
  | _ => none

end FieldType

/-- How an index stores the members of an enumeration. -/
inductive Representation where
  /-- By their names. -/
  | names
  /-- By their integers. -/
  | integers
deriving DecidableEq

namespace Representation

/-- The written name of a representation. -/
def name : Representation → String
  | names => "text"
  | integers => "integer"

/-- The representation of a written name. -/
def ofName? : String → Option Representation
  | "text" => some names
  | "integer" => some integers
  | _ => none

end Representation

/-- The members of an enumeration and their integers, in ascending order of names. -/
abbrev Members := List (String × Int)

/-- What a query has to know of a field: its type and, for an enumeration, the members. -/
inductive FieldKind where
  | text
  | identifier
  | numeric
  | boolean
  | datetime
  | enumeration (representation : Representation) (members : Members)
deriving DecidableEq

/-- The type of a kind of fields. -/
def FieldKind.type : FieldKind → FieldType
  | text => .text
  | identifier => .identifier
  | numeric => .numeric
  | boolean => .boolean
  | datetime => .datetime
  | enumeration _ _ => .enumeration

/-- The name of a kind of fields. -/
def FieldKind.name (kind : FieldKind) : String :=
  kind.type.name

/-- The declaration of a field. -/
structure FieldDeclaration where
  type : FieldType
  /-- Whether the field has an untokenised form. -/
  keyword : Bool := false
  /-- The name of the field, if the naming convention does not give it. -/
  rename : Option String := none
  representation : Representation := .integers
  members : Members := []
deriving DecidableEq

namespace FieldDeclaration

/-- The declaration of an enumeration; the last integer given to a member counts. -/
def ofMembers (representation : Representation) (members : List (String × Int)) :
    FieldDeclaration :=
  { type := .enumeration, representation, members := Entries.ofList members }

/-- Gives a field an untokenised form. -/
def withKeyword (field : FieldDeclaration) : FieldDeclaration :=
  { field with keyword := true }

/-- Gives a field a name of its own. -/
def renamed (field : FieldDeclaration) (name : String) : FieldDeclaration :=
  { field with rename := some name }

/-- The kind of a field. -/
def kind (field : FieldDeclaration) : FieldKind :=
  match field.type with
  | .text => .text
  | .identifier => .identifier
  | .numeric => .numeric
  | .boolean => .boolean
  | .datetime => .datetime
  | .enumeration => .enumeration field.representation field.members

/-- Whether a field holds text that can have an untokenised form. -/
def hasTextForm (field : FieldDeclaration) : Bool :=
  field.type == .text || field.type == .identifier

end FieldDeclaration

end DocQuery
