import QueryTree.Number.Shortest

/-!
Writing a finite floating-point number in decimal. The digits are the shortest ones; a layout says
when they are written with an exponent and how a whole number ends.
-/

namespace QueryTree

/-- How a finite number is laid out. -/
structure DecimalLayout where
  /-- Which of two equally near decimals is written. -/
  tie : TieRule
  /-- The powers of ten of the first digit, from least to greatest, at which no exponent is
  written. A layout without such bounds never writes one. -/
  positional : Option (Int × Int)
  /-- What follows a whole number that is written without an exponent. -/
  wholeMark : String
deriving Repr

namespace DecimalLayout

/-- A natural number by its decimal digits. -/
def digits (n : Nat) : List Char := Nat.toDigits 10 n

/-- The digits with the point after the first, and the exponent with its sign. -/
def writeScientific (ds : List Char) (lead : Int) : String :=
  let mantissa := match ds with
    | [] => []
    | [d] => [d]
    | d :: rest => d :: '.' :: rest
  let sign := if lead < 0 then '-' else '+'
  String.ofList (mantissa ++ 'e' :: sign :: digits lead.natAbs)

/-- The digits with the point at its place, filled up with zeros on either side. -/
def writePositional (layout : DecimalLayout) (ds : List Char) (lead : Int) : String :=
  if lead < 0 then
    "0." ++ String.ofList (List.replicate (-lead - 1).toNat '0' ++ ds)
  else
    let whole := lead.toNat + 1
    if ds.length ≤ whole then
      String.ofList (ds ++ List.replicate (whole - ds.length) '0') ++ layout.wholeMark
    else
      String.ofList (ds.take whole ++ '.' :: ds.drop whole)

/-- Whether a first digit at `10 ^ lead` is written without an exponent. -/
def isPositional (layout : DecimalLayout) (lead : Int) : Bool :=
  match layout.positional with
  | none => true
  | some (least, greatest) => decide (least ≤ lead) && decide (lead ≤ greatest)

/-- The text of a finite number. -/
def write (layout : DecimalLayout) (x : Binary64) : String :=
  let sign := if x.isNegative then "-" else ""
  if x.significand = 0 then sign ++ "0" ++ layout.wholeMark
  else
    let decimal := x.shortest layout.tie
    let ds := digits decimal.coefficient
    let lead := decimal.exponent + ds.length - 1
    sign ++ if layout.isPositional lead then layout.writePositional ds lead
      else writeScientific ds lead

end DecimalLayout

end QueryTree
