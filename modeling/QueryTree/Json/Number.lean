import QueryTree.Number.Layout

/-!
Numbers of JSON. A number is held in the narrowest of three forms that its token fits: a natural
number, a negative integer, or a float. The forms do not overlap and a float is finite, so equal
numbers of one form have equal representations and every number has a token.
-/

namespace QueryTree

/-- A number in a JSON tree. -/
inductive JsonNumber where
  | natural (n : UInt64)
  | negative (n : Int64) (below : n < 0)
  | float (x : Binary64) (finite : x.isFinite = true)
deriving DecidableEq, Repr

/-- The parts of a number token, as written. A fraction and an exponent have at least one digit if
they are there, and digits stand for themselves. -/
structure NumberToken where
  negative : Bool
  whole : List Nat
  fraction : Option (List Nat)
  exponent : Option Int
deriving DecidableEq, Repr

/-- Takes in decimal digits as long as the number stays below `2 ^ 64`. The result is the number
and how many digits it took. -/
def absorbDigits (n : Nat) : List Nat → Nat × Nat
  | [] => (n, 0)
  | d :: rest =>
    if n * 10 + d < Nat.pow 2 64 then
      let (m, count) := absorbDigits (n * 10 + d) rest
      (m, count + 1)
    else (n, 0)

namespace Binary64

/-- The number nearest to a power of ten. -/
def powerOfTen (n : Nat) : Binary64 := ofNat (Nat.pow 10 n)

/-- A word times a power of ten, rounded at each of the steps: the word is rounded to a float, which
is then multiplied or divided by a rounded power of ten. A division by more than `10 ^ 308` is done
in two steps. The result is not always the nearest number, and it may be infinite. -/
def scaled (word : Nat) (exponent : Int) : Binary64 :=
  let x := ofNat word
  if word = 0 then x
  else if 308 < exponent then infinity false
  else if 0 ≤ exponent then x.mul (powerOfTen exponent.toNat)
  else if -308 ≤ exponent then x.div (powerOfTen (-exponent).toNat)
  else if -616 ≤ exponent then (x.div (powerOfTen 308)).div (powerOfTen (-exponent - 308).toNat)
  else zero false

/-- The number, negated on demand. -/
def signed (negative : Bool) (x : Binary64) : Binary64 :=
  if negative then x.neg else x

end Binary64

namespace JsonNumber

/-- An integer, in the form that its sign asks for. -/
def ofInt (n : Int64) : JsonNumber :=
  if h : n < 0 then .negative n h else .natural n.toUInt64

/-- A float as a number, if it is finite. -/
def ofFloat? (x : Binary64) : Option JsonNumber :=
  if h : x.isFinite = true then some (.float x h) else none

/-- An integer that fits one of the two integer forms. Zero with a sign fits neither. -/
def ofInteger? (negative : Bool) (magnitude : Nat) : Option JsonNumber :=
  if negative then
    if magnitude ≤ Nat.pow 2 63 then
      let n := Int64.ofInt (-magnitude)
      if h : n < 0 then some (.negative n h) else none
    else none
  else if magnitude < Nat.pow 2 64 then some (.natural (UInt64.ofNat magnitude))
  else none

/-- The number of a token, unless it is too large for a float.

An integer token takes an integer form if it can. In all other cases the digits are taken in up to
the limit of a word. Whole digits beyond it raise the exponent and are otherwise ignored; digits of
the fraction lower the exponent as long as they are taken in. -/
def ofToken? (token : NumberToken) : Option JsonNumber :=
  let (head, count) := absorbDigits 0 token.whole
  let dropped := token.whole.length - count
  let float (word : Nat) (exponent : Int) : Option JsonNumber :=
    ofFloat? ((Binary64.scaled word exponent).signed token.negative)
  match token.fraction, token.exponent with
  | none, none =>
    if dropped = 0 then
      match ofInteger? token.negative head with
      | some number => some number
      | none => float head 0
    else float head dropped
  | fraction, exponent =>
    let (word, taken) := absorbDigits head (fraction.getD [])
    float word (dropped - taken + exponent.getD 0)

/-- Floats are written with an exponent from `10 ^ 16` on and below `10 ^ -5`, and whole ones end
in a zero after the point. -/
def floatLayout : DecimalLayout := ⟨.even, some (-5, 15), ".0"⟩

def text : JsonNumber → String
  | .natural n => toString n.toNat
  | .negative n _ => toString n.toInt
  | .float x _ => floatLayout.write x

end JsonNumber

end QueryTree
