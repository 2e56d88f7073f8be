import DocQuery.Json.Basic

/-
  JSON texts that are read but not yet interpreted.
  Repeated keys are still there, and what can be skipped but not used is marked: a number out of
  range, a string with half a surrogate pair, a container nested too deep. A field that nobody
  asks for may hold such a thing.
-/

namespace DocQuery

/-- A JSON text as it was written. -/
inductive Draft where
  | null
  | bool (b : Bool)
  | number (n : Number)
  | string (s : String)
  | array (items : List Draft)
  | object (entries : List (String × Draft))
  | unreadable

namespace Draft

mutual

/-- The value a text stands for; in an object the last of several entries with one key counts. -/
def toJson? : Draft → Option Json
  | null => some .null
  | bool b => some (.bool b)
  | number n => some (.number n)
  | string s => some (.string s)
  | array items => (toItems? items).map Json.array
  | object entries => (toEntries? entries).map Json.ofEntries
  | unreadable => none

/-- The values of some items. -/
def toItems? : List Draft → Option (List Json)
  | [] => some []
  | d :: rest => do return (← d.toJson?) :: (← toItems? rest)

/-- The values of some entries. -/
def toEntries? : List (String × Draft) → Option (List (String × Json))
  | [] => some []
  | (key, d) :: rest => do return (key, ← d.toJson?) :: (← toEntries? rest)

end

mutual

/-- A value as the text it could have been read from. -/
def ofJson : Json → Draft
  | .null => null
  | .bool b => bool b
  | .number n => number n
  | .string s => string s
  | .array items => array (ofItems items)
  | .object entries => object (ofEntries entries)

/-- Some values as texts. -/
def ofItems : List Json → List Draft
  | [] => []
  | j :: rest => ofJson j :: ofItems rest

/-- Some entries as texts. -/
def ofEntries : List (String × Json) → List (String × Draft)
  | [] => []
  | (key, j) :: rest => (key, ofJson j) :: ofEntries rest

end

/-- The text of a string. -/
def string? : Draft → Option String
  | string s => some s
  | _ => none

/-- A truth value. -/
def bool? : Draft → Option Bool
  | bool b => some b
  | _ => none

/-- An integer between two bounds. -/
def integer? (least greatest : Int) : Draft → Option Int
  | number (.integer n) => if least ≤ n ∧ n ≤ greatest then some n else none
  | _ => none

/-- A natural number below a power of two. -/
def natural? (bits : Nat) (d : Draft) : Option Nat :=
  (d.integer? 0 (Nat.pow 2 bits - 1 : Nat)).map Int.toNat

/-- A list, every item read in one way. -/
def list? {α : Type} (read : Draft → Option α) : Draft → Option (List α)
  | array items => items.mapM read
  | _ => none

/-- The entries of an object, every value read in one way; all of them count. -/
def map? {α : Type} (read : Draft → Option α) : Draft → Option (List (String × α))
  | object entries => entries.mapM fun e => do return (e.1, ← read e.2)
  | _ => none

/-- The entries of an object. -/
def entries? : Draft → Option (List (String × Draft))
  | object entries => some entries
  | _ => none

/-- The name of a variant without content: a string, or an object that gives it the value null. -/
def variant? : Draft → Option String
  | string s => some s
  | object [(s, null)] => some s
  | _ => none

/-- The value of a key that may stand in a list of entries once; twice is an error. -/
def field? (key : String) (entries : List (String × Draft)) : Option (Option Draft) :=
  match entries.filter fun e => e.1 == key with
  | [] => some none
  | [e] => some (some e.2)
  | _ => none

/-- A field that has to be present. -/
def required {α : Type} (key : String) (read : Draft → Option α)
    (entries : List (String × Draft)) : Option α := do
  match ← field? key entries with
  | none => none
  | some d => read d

/-- A field with a value of its own when it is missing. -/
def defaulted {α : Type} (key : String) (read : Draft → Option α) (default : α)
    (entries : List (String × Draft)) : Option α := do
  match ← field? key entries with
  | none => some default
  | some d => read d

/-- A field that may be missing or null. -/
def optional {α : Type} (key : String) (read : Draft → Option α)
    (entries : List (String × Draft)) : Option (Option α) := do
  match ← field? key entries with
  | none => some none
  | some null => some none
  | some d => (read d).map some

end Draft

end DocQuery
