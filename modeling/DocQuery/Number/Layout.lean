import DocQuery.Number.Shortest

/-
  Numbers as text.
  A layout holds the decisions of a format: where positional notation ends, whether whole numbers
  keep a point, and which of two equally near decimals is written.
-/

namespace DocQuery

/-- The decisions of a format of numbers. -/
structure Layout where
  /-- The exponents of the leading digit that are written positionally; all when absent. -/
  positional : Option (Int × Int)
  /-- Whether a whole number is written with a point and a zero. -/
  keepsPoint : Bool
  /-- Which of two equally near decimals is written. -/
  tie : Tie

/-- A positive decimal in positional notation. -/
def Decimal.positional (d : Decimal) (keepsPoint : Bool) : String :=
  let digits := toString d.digits
  let size := digits.length
  if 0 ≤ d.exponent then
    digits ++ String.ofList (List.replicate d.exponent.toNat '0') ++
      (if keepsPoint then ".0" else "")
  else
    let places := (-d.exponent).toNat
    if places < size then
      let cs := digits.toList
      String.ofList (cs.take (size - places)) ++ "." ++ String.ofList (cs.drop (size - places))
    else "0." ++ String.ofList (List.replicate (places - size) '0') ++ digits

/-- A positive decimal with one digit before the point and a signed exponent. -/
def Decimal.scientific (d : Decimal) : String :=
  let digits := (toString d.digits).toList
  let exponent := d.exponent + digits.length - 1
  let mantissa := match digits with
    | [] => ""
    | [first] => String.ofList [first]
    | first :: rest => String.ofList (first :: '.' :: rest)
  mantissa ++ "e" ++ (if exponent < 0 then "-" else "+") ++ toString exponent.natAbs

/-- The text of a number. -/
def Layout.render (layout : Layout) (x : Binary64) : String :=
  let sign := if x.negative then "-" else ""
  if x.units = 0 then sign ++ (if layout.keepsPoint then "0.0" else "0")
  else
    let d := shortestDecimal layout.tie x.units
    let leading := d.exponent + (toString d.digits).length - 1
    let isPositional := match layout.positional with
      | none => true
      | some (first, last) => first ≤ leading && leading ≤ last
    sign ++ (if isPositional then d.positional layout.keepsPoint else d.scientific)

end DocQuery
