import DocQuery.Error
import DocQuery.Schema.Naming
import DocQuery.Text.Blank

/-
  Declarations of indexes and the names their properties resolve to.
  A property resolves to the name and kind of its field. The fields of a declaration have no order
  that a reader of it could see: messages list names and faults in ascending order.
-/

namespace DocQuery

/-- A property with the field it stands for. -/
structure ResolvedField where
  name : String
  kind : FieldKind
deriving DecidableEq

/-- The form of a field that a query needs beside the plain one. -/
inductive FieldVariant where
  /-- The form documents can be sorted and grouped by. -/
  | sortable
  /-- The form that holds whole values. -/
  | exact
deriving DecidableEq

/-- The look-up of properties. -/
structure Resolver where
  /-- The field of a property. -/
  resolve : String → Except QueryError ResolvedField
  /-- The name of a form of the field of a property. -/
  variant : FieldVariant → String → Except QueryError String

/-- The declaration of an index. -/
structure IndexDeclaration where
  name : String
  naming : Naming := .camel
  /-- The fields by property; every property stands here once. -/
  fields : List (String × FieldDeclaration) := []
deriving DecidableEq

/-- The last part of the name of an untokenised form. -/
def keywordSuffix : String := "keyword"

namespace IndexDeclaration

/-- Declares a field for a property, in place of any other declared for it. -/
def withField (index : IndexDeclaration) (property : String) (field : FieldDeclaration) :
    IndexDeclaration :=
  { index with
    fields :=
      if index.fields.any (fun e => e.1 == property) then
        index.fields.map fun e => if e.1 == property then (property, field) else e
      else index.fields ++ [(property, field)] }

/-- The declaration of a property's field. -/
def field? (index : IndexDeclaration) (property : String) : Option FieldDeclaration :=
  index.fields.lookup property

/-- The name of a property's field: the one it was given, or else the one that the naming
convention gives it. -/
def fieldName (index : IndexDeclaration) (property : String) : String :=
  match (index.field? property).bind FieldDeclaration.rename with
  | some name => name
  | none => index.naming.apply property

/-- The field of a property. -/
def resolve (index : IndexDeclaration) (property : String) : Except QueryError ResolvedField :=
  match index.field? property with
  | none => .error (.unknownProperty property)
  | some field => .ok ⟨index.fieldName property, field.kind⟩

/-- The name of a form of a property's field. Text without an untokenised form has nothing to sort
by. -/
def resolveVariant (index : IndexDeclaration) (variant : FieldVariant) (property : String) :
    Except QueryError String :=
  match index.field? property with
  | none => .error (.unknownProperty property)
  | some field =>
    let name := index.fieldName property
    if field.keyword then .ok (name ++ "." ++ keywordSuffix)
    else
      match variant, field.type with
      | .sortable, .text =>
        .error (.unsupported ("ordering or grouping by the text property " ++ property ++
          " without a keyword sub-field"))
      | _, _ => .ok name

/-- The look-up of the properties of an index. -/
def resolver (index : IndexDeclaration) : Resolver where
  resolve := index.resolve
  variant := index.resolveVariant

/-- What is wrong with the declaration of a field. -/
def fieldFaults (property : String) (field : FieldDeclaration) : List String :=
  let isEnumeration := field.type == .enumeration
  (if isEnumeration && field.members.isEmpty then [property ++ " (enum without members)"]
    else if !isEnumeration && !field.members.isEmpty then
      [property ++ " (members on a non-enum field)"]
    else []) ++
  (if field.keyword && !field.hasTextForm then [property ++ " (keyword on a non-text field)"]
    else [])

/-- The names of a list that stand in it before, or among some names seen earlier. -/
def repeatedAfter (seen : List String) : List String → List String
  | [] => []
  | name :: rest =>
    if seen.contains name then name :: repeatedAfter seen rest
    else repeatedAfter (name :: seen) rest

/-- Texts in ascending order. -/
def sorted (ss : List String) : List String :=
  ss.mergeSort fun a b => a ≤ b

/-- Checks a declaration: the name, then every field by itself, then the names of all fields. -/
def validate (index : IndexDeclaration) : Except QueryError Unit :=
  if Text.isBlankText index.name then .error (.invalidSchema .emptyName)
  else
    let faults := index.fields.flatMap fun e => fieldFaults e.1 e.2
    if !faults.isEmpty then .error (.invalidSchema (.rejectedFields (sorted faults)))
    else
      let names := index.fields.map fun e => index.fieldName e.1
      let shared := repeatedAfter [] names
      if !shared.isEmpty then .error (.invalidSchema (.sharedNames (sorted shared)))
      else .ok ()

end IndexDeclaration

end DocQuery
