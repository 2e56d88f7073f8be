import DocQuery.Json.Draft
import DocQuery.Schema.Declaration

/-
  Declarations of indexes as JSON.
  Fields that a declaration does not know are ignored; of several declarations for one property, or
  integers for one member, the last one counts.
-/

namespace DocQuery

/-- An integer of 64 bits. -/
def Draft.int64? (d : Draft) : Option Int :=
  d.integer? (-9223372036854775808) 9223372036854775807

/-- Reads the members of an enumeration. -/
def readMembers (d : Draft) : Option Members := do
  return Entries.ofList (← d.map? Draft.int64?)

/-- Reads the declaration of a field. -/
def FieldDeclaration.read (d : Draft) : Option FieldDeclaration := do
  let entries ← d.entries?
  return {
    type := ← Draft.required "type" (fun d => d.variant?.bind FieldType.ofName?) entries
    keyword := ← Draft.defaulted "keyword" Draft.bool? false entries
    rename := ← Draft.optional "rename" Draft.string? entries
    representation :=
      ← Draft.defaulted "repr" (fun d => d.variant?.bind Representation.ofName?) .integers entries
    members := ← Draft.defaulted "members" readMembers [] entries }

/-- Reads a naming convention. -/
def Naming.read (d : Draft) : Option Naming :=
  d.variant?.bind Naming.ofName?

/-- Reads the declaration of an index. -/
def IndexDeclaration.read (d : Draft) : Option IndexDeclaration := do
  let entries ← d.entries?
  let name ← Draft.required "name" Draft.string? entries
  let naming ← Draft.defaulted "naming" Naming.read .camel entries
  let fields ← Draft.required "fields" (Draft.map? FieldDeclaration.read) entries
  return fields.foldl (fun index e => index.withField e.1 e.2) { name, naming }

/-- The declaration of a field as JSON. -/
def FieldDeclaration.render (field : FieldDeclaration) : Json :=
  let rename := match field.rename with
    | none => Json.null
    | some name => .string name
  .object [("keyword", .bool field.keyword),
    ("members", .object (field.members.map fun m => (m.1, .int m.2))),
    ("rename", rename), ("repr", .string field.representation.name),
    ("type", .string field.type.name)]

/-- The declaration of an index as JSON. -/
def IndexDeclaration.render (index : IndexDeclaration) : Json :=
  .object [("fields", .ofEntries (index.fields.map fun e => (e.1, e.2.render))),
    ("name", .string index.name), ("naming", .string index.naming.name)]

end DocQuery
