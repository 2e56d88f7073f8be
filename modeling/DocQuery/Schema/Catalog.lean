import DocQuery.Schema.Declaration

/-
  A declaration with a table of its resolved fields.
  The table is made at the first look-up and serves the later ones; declaring a field throws it
  away.
-/

namespace DocQuery

/-- A declaration and, once it is made, the table of its resolved fields. -/
structure Catalog where
  declaration : IndexDeclaration
  table : Option (List (String × ResolvedField)) := none

namespace Catalog

/-- The table of the resolved fields of a declaration. -/
def tableOf (index : IndexDeclaration) : List (String × ResolvedField) :=
  index.fields.map fun e => (e.1, ⟨index.fieldName e.1, e.2.kind⟩)

/-- The catalog with its table made. -/
def warm (c : Catalog) : Catalog :=
  match c.table with
  | some _ => c
  | none => { c with table := some (tableOf c.declaration) }

/-- Declares a field. -/
def withField (c : Catalog) (property : String) (field : FieldDeclaration) : Catalog :=
  { declaration := c.declaration.withField property field, table := none }

/-- Looks a property up in the table, which is made if it is not there. -/
def resolve (c : Catalog) (property : String) : Except QueryError ResolvedField × Catalog :=
  let c := c.warm
  match (c.table.getD []).lookup property with
  | some field => (.ok field, c)
  | none => (.error (.unknownProperty property), c)

/-- The name of a form of a property's field. -/
def resolveVariant (c : Catalog) (variant : FieldVariant) (property : String) :
    Except QueryError String :=
  c.declaration.resolveVariant variant property

/-- The look-up of properties through the table. -/
def resolver (c : Catalog) : Resolver :=
  let c := c.warm
  { resolve := fun property => (c.resolve property).1
    variant := c.resolveVariant }

end Catalog

end DocQuery
