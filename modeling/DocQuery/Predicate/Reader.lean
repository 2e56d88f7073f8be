import DocQuery.Json.Draft
import DocQuery.Predicate.Basic

/-
  Predicates as JSON.
  The entry `kind` names the form of a predicate and so the other entries it has; entries that the
  form does not know are ignored.
-/

namespace DocQuery

/-- Reads a value: null, a truth value, a number or a text. -/
def Value.read : Draft → Option Value
  | .null => some .null
  | .bool b => some (.bool b)
  | .number (.integer n) => some (if 0 ≤ n then .unsigned n.toNat else .signed n)
  | .number (.real x) => some (.real (.finite x))
  | .string s => some (.text s)
  | _ => none

namespace Predicate

/-- The name of a variant among the entries of a predicate; an object may also give it an empty
object as its value. -/
def variant? : Draft → Option String
  | .object [(name, .object [])] => some name
  | d => d.variant?

/-- Reads the sign of a comparison. -/
def readComparison (d : Draft) : Option Comparison :=
  (variant? d).bind Comparison.ofName?

/-- The names of the forms of predicates. -/
def forms : List String :=
  ["comparison", "logical", "not", "string_op", "membership", "property", "constant",
   "bool_comparison", "call"]

/-- The name of a form. Inside another predicate its place in the list of forms will do as well. -/
def form? (inside : Bool) : Draft → Option String
  | .string name => some name
  | .number (.integer n) => if inside && 0 ≤ n then forms[n.toNat]? else none
  | _ => none

/-- The connective of a written name. -/
def connective? : String → Option (Predicate → Predicate → Predicate)
  | "and" => some .and
  | "or" => some .or
  | _ => none

/-- A predicate inside another, among the predicates that its entries have been read as. -/
def operand? (key : String) (entries : List (String × Draft))
    (operands : List (String × Option Predicate)) : Option Predicate := do
  let _ ← Draft.required key some entries
  (operands.lookup key).join

/-- Puts a predicate together from its entries and what they have been read as. -/
def assemble (inside : Bool) (entries : List (String × Draft))
    (operands : List (String × Option Predicate)) : Option Predicate := do
  let text (key : String) := Draft.required key Draft.string? entries
  let values (key : String) := Draft.defaulted key (Draft.list? Value.read) [] entries
  match ← Draft.required "kind" (form? inside) entries with
  | "comparison" =>
    return .comparison (← text "property") (← Draft.required "op" readComparison entries)
      (← Draft.required "value" Value.read entries)
  | "logical" =>
    let connect ← Draft.required "op" (fun d => (variant? d).bind connective?) entries
    return connect (← operand? "left" entries operands) (← operand? "right" entries operands)
  | "not" => return .not (← operand? "operand" entries operands)
  | "string_op" =>
    let method ← Draft.required "method" (fun d => (variant? d).bind StringMethod.ofName?) entries
    return .stringOp method (← text "property") (← text "pattern")
  | "membership" => return .membership (← text "property") (← values "candidates")
  | "property" => return .flag (← text "property")
  | "constant" => return .constant (← Draft.required "value" Value.read entries)
  | "bool_comparison" =>
    return .boolComparison (← operand? "operand" entries operands)
      (← Draft.required "op" readComparison entries) (← Draft.required "value" Draft.bool? entries)
  | "call" => return .call (← text "method") (← text "property") (← values "args")
  | _ => none

mutual

/-- Reads a predicate whose entries are all readable. -/
def readNode (inside : Bool) : Draft → Option Predicate
  | .object entries => assemble inside entries (readEntries entries)
  | _ => none

/-- Reads what can be read as a predicate among some entries. -/
def readEntries : List (String × Draft) → List (String × Option Predicate)
  | [] => []
  | (key, d) :: rest => (key, readNode true d) :: readEntries rest

end

/-- Reads a predicate. All of its entries have to be readable, also those that are ignored. -/
def read (d : Draft) : Option Predicate := do
  let _ ← d.toJson?
  readNode false d

end Predicate

end DocQuery
