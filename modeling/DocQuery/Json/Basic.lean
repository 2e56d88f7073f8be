import DocQuery.Entries
import DocQuery.Number.Binary64

/-
  JSON values.
  Integers and floating-point numbers are different values, also where they are numerically equal.
  The entries of an object are kept in ascending order of their keys unless a printed form fixes
  another order.
-/

namespace DocQuery

/-- A number of a JSON document. -/
inductive Number where
  | integer (n : Int)
  | real (x : Binary64)
deriving DecidableEq

namespace Number

/-- The value in units of 2 ^ -1074, integers rounded to 53 significant bits first. -/
def value : Number → Int
  | integer n =>
    let units : Int := roundRatio (n.natAbs * unitsPerOne) 1
    if n < 0 then -units else units
  | real x => x.value

/-- Whether two numbers are of one kind and have the same value. -/
def same : Number → Number → Bool
  | integer m, integer n => m == n
  | real x, real y => x.sameValue y
  | _, _ => false

end Number

/-- A JSON value. -/
inductive Json where
  | null
  | bool (b : Bool)
  | number (n : Number)
  | string (s : String)
  | array (items : List Json)
  | object (entries : List (String × Json))

instance : Inhabited Json := ⟨.null⟩

namespace Json

/-- Whether a value is null. -/
def isNull : Json → Bool
  | null => true
  | _ => false

mutual

/-- Whether two values are equal: the same kind throughout, numbers by kind and value. -/
def same : Json → Json → Bool
  | null, null => true
  | bool a, bool b => a == b
  | number m, number n => m.same n
  | string s, string t => s == t
  | array xs, array ys => sameItems xs ys
  | object xs, object ys => sameEntries xs ys
  | _, _ => false

/-- Whether two lists of values are equal. -/
def sameItems : List Json → List Json → Bool
  | [], [] => true
  | x :: xs, y :: ys => x.same y && sameItems xs ys
  | _, _ => false

/-- Whether two lists of entries are equal. -/
def sameEntries : List (String × Json) → List (String × Json) → Bool
  | [], [] => true
  | (k, x) :: xs, (l, y) :: ys => k == l && x.same y && sameEntries xs ys
  | _, _ => false

end

/-- The object of some entries; the last of several entries with one key counts. -/
def ofEntries (entries : List (String × Json)) : Json :=
  object (Entries.ofList entries)

/-- An integer as a value. -/
def int (n : Int) : Json :=
  number (.integer n)

/-- A list of texts as a value. -/
def strings (ss : List String) : Json :=
  array (ss.map string)

/-- An object with one entry. -/
def entry (key : String) (value : Json) : Json :=
  object [(key, value)]

/-- The entries of an object. -/
def entries? : Json → Option (List (String × Json))
  | object entries => some entries
  | _ => none

end Json

end DocQuery
