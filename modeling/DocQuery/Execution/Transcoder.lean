import DocQuery.Execution.Result
import DocQuery.Json.Draft

/-
  Transcoders for common types of records.
-/

namespace DocQuery

/-- The floating-point number nearest to a number. -/
def Number.toBinary64? : Number → Option Binary64
  | integer n => Binary64.ofInt? n
  | real x => some x

/-- Reads a number as a floating-point one. -/
def Draft.real? : Draft → Option Binary64
  | .number n => n.toBinary64?
  | _ => none

/-- Reads null as nothing and anything else in one way. -/
def Draft.option? {α : Type} (read : Draft → Option α) : Draft → Option (Option α)
  | .null => some none
  | d => (read d).map some

namespace Transcoder

/-- Leaves values as they are. -/
def json : Transcoder Json := .ok

/-- Makes records by reading values in one way. -/
def ofReader {α : Type} (read : Draft → Except DecodeError α) : Transcoder α := fun j =>
  read (.ofJson j)

end Transcoder

end DocQuery
