import DocQuery.Error
import DocQuery.Json.Basic

/-
  Terms: values in the form in which the index holds them.
  A value becomes a term of the kind of the field it is compared to, or it does not fit the field.
-/

namespace DocQuery.Value

/-- The instant a value names: itself, a text in the form of RFC 3339, or a count of seconds. -/
def toInstant : Value → Except ValueError Instant
  | datetime t => .ok t
  | text s => (Instant.parse? s).elim (.error .malformedDatetime) .ok
  | signed n => (Instant.ofSeconds? n).elim (.error .signedTimestamp) .ok
  | unsigned n => (Instant.ofSeconds? n).elim (.error .unsignedTimestamp) .ok
  | v => .error (.notDatetime v.kind)

/-- The member of an enumeration a value names, by its name or by its integer. Of several members
with one integer the first in the order of names is taken. -/
def toMember (members : Members) (v : Value) : Except ValueError (String × Int) :=
  let found := match v with
    | member name => some (members.find? fun m => m.1 == name)
    | text name => some (members.find? fun m => m.1 == name)
    | signed n => some (members.find? fun m => m.2 == n)
    | unsigned n => some (members.find? fun m => m.2 == (n : Int))
    | _ => none
  match found with
  | none => .error (.mismatch v.kind .enumeration)
  | some none => .error (.notMember v.plain)
  | some (some m) => .ok m

/-- The term of a value for a field of some kind. -/
def toTerm (v : Value) (kind : FieldKind) : Except ValueError Json :=
  match kind with
  | .text =>
    match v with
    | null => .error (.mismatch v.kind .text)
    | bool _ => .error (.mismatch v.kind .text)
    | v => .ok (.string v.plain)
  | .identifier =>
    match v with
    | identifier id => .ok (.string id.render)
    | text s =>
      match Identifier.parse s with
      | .ok id => .ok (.string id.render)
      | .error e => .error (.identifier e)
    | v => .error (.mismatch v.kind .identifier)
  | .numeric =>
    match v with
    | signed n => .ok (.number (.integer n))
    | unsigned n => .ok (.number (.integer n))
    | real (.finite x) => .ok (.number (.real x))
    | real _ => .error .notFinite
    | v => .error (.mismatch v.kind .numeric)
  | .boolean =>
    match v with
    | bool b => .ok (.bool b)
    | v => .error (.mismatch v.kind .boolean)
  | .datetime => do return .string (← v.toInstant).render
  | .enumeration representation members => do
    let (name, n) ← v.toMember members
    return match representation with
      | .names => .string name
      | .integers => .number (.integer n)

end DocQuery.Value
