/-!
Binary floating-point numbers of 64 bits, kept as their bit pattern. A finite number has the
magnitude `significand * 2 ^ exponent`, which is a fraction of two natural numbers; arithmetic
works on that exact fraction and rounds once, to the nearest number and to an even significand
where two are equally near.
-/

namespace QueryTree

/-- A floating-point number of one sign bit, eleven exponent bits and 52 fraction bits. -/
structure Binary64 where
  bits : UInt64
deriving DecidableEq, Repr

/-- The quotient of two naturals, rounded to the nearest natural and to the even one of two
neighbours that are equally near. -/
def roundDivEven (num den : Nat) : Nat :=
  let quotient := num / den
  let twice := 2 * (num % den)
  if twice < den then quotient
  else if den < twice then quotient + 1
  else quotient + quotient % 2

namespace Binary64

/-- The exponent bits of infinity and of what is not a number. -/
def specialExponent : Nat := 2047

def isNegative (x : Binary64) : Bool :=
  decide (Nat.pow 2 63 ≤ x.bits.toNat)

def exponentField (x : Binary64) : Nat :=
  x.bits.toNat / Nat.pow 2 52 % 2048

def fractionField (x : Binary64) : Nat :=
  x.bits.toNat % Nat.pow 2 52

def isFinite (x : Binary64) : Bool :=
  x.exponentField != specialExponent

def isNaN (x : Binary64) : Bool :=
  x.exponentField == specialExponent && x.fractionField != 0

/-- The integer factor of a finite magnitude. The numbers next to zero have no leading one. -/
def significand (x : Binary64) : Nat :=
  if x.exponentField = 0 then x.fractionField else Nat.pow 2 52 + x.fractionField

/-- The power of two of a finite magnitude. -/
def exponent (x : Binary64) : Int :=
  (max x.exponentField 1 : Nat) - 1075

/-- A finite magnitude as numerator and denominator. -/
def ratio (x : Binary64) : Nat × Nat :=
  (x.significand * Nat.pow 2 x.exponent.toNat, Nat.pow 2 (-x.exponent).toNat)

/-- The number with a given sign whose magnitude has the given bits. -/
def ofMagnitude (negative : Bool) (magnitude : Nat) : Binary64 :=
  ⟨UInt64.ofNat ((if negative then Nat.pow 2 63 else 0) + magnitude)⟩

def zero (negative : Bool) : Binary64 :=
  ofMagnitude negative 0

def infinity (negative : Bool) : Binary64 :=
  ofMagnitude negative (specialExponent * Nat.pow 2 52)

/-- The pattern used for what is not a number. -/
def nan : Binary64 :=
  ofMagnitude false (specialExponent * Nat.pow 2 52 + Nat.pow 2 51)

/-- The power of two that leaves a fraction with a significand of 53 bits, but never one below the
least power that the format has. -/
def ratioExponent (num den : Nat) : Int :=
  let low : Int := (num.log2 : Int) - (den.log2 : Int) - 53
  let wide := decide (Nat.pow 2 53 * den * Nat.pow 2 low.toNat ≤ num * Nat.pow 2 (-low).toNat)
  max (if wide then low + 1 else low) (-1074)

/-- The number nearest to a fraction with a positive denominator. Adding the rounded significand to
the exponent bits carries into them when rounding reaches the next power of two, and from there
on to infinity. -/
def ofRatio (negative : Bool) (num den : Nat) : Binary64 :=
  if num = 0 then zero negative
  else
    let q := ratioExponent num den
    let m := roundDivEven (num * Nat.pow 2 (-q).toNat) (den * Nat.pow 2 q.toNat)
    let magnitude := (q + 1074).toNat * Nat.pow 2 52 + m
    ofMagnitude negative (min magnitude (specialExponent * Nat.pow 2 52))

/-- The number nearest to a natural number. -/
def ofNat (n : Nat) : Binary64 :=
  ofRatio false n 1

/-- The product of two finite numbers. -/
def mul (x y : Binary64) : Binary64 :=
  ofRatio (x.isNegative != y.isNegative) (x.ratio.1 * y.ratio.1) (x.ratio.2 * y.ratio.2)

/-- The quotient of two finite numbers, of which the second is not zero. -/
def div (x y : Binary64) : Binary64 :=
  ofRatio (x.isNegative != y.isNegative) (x.ratio.1 * y.ratio.2) (x.ratio.2 * y.ratio.1)

/-- The number with the opposite sign. -/
def neg (x : Binary64) : Binary64 :=
  ⟨x.bits ^^^ 0x8000000000000000⟩

/-- The number nearest to `coefficient * 10 ^ exponent`. A decimal whose first digit lies beyond
all powers of ten of the format is zero or infinite whatever its other digits are. -/
def ofDecimal (negative : Bool) (coefficient : Nat) (exponent : Int) : Binary64 :=
  let lead := exponent + (Nat.toDigits 10 coefficient).length
  if coefficient = 0 ∨ lead < -330 then zero negative
  else if 310 < lead then infinity negative
  else ofRatio negative (coefficient * Nat.pow 10 exponent.toNat) (Nat.pow 10 (-exponent).toNat)

end Binary64

/-- A floating-point number of one sign bit, eight exponent bits and 23 fraction bits. -/
structure Binary32 where
  bits : UInt32
deriving DecidableEq, Repr

/-- The same number in 64 bits, which hold every number of 32 bits. -/
def Binary32.widen (x : Binary32) : Binary64 :=
  let negative := decide (Nat.pow 2 31 ≤ x.bits.toNat)
  let exponentField := x.bits.toNat / Nat.pow 2 23 % 256
  let fraction := x.bits.toNat % Nat.pow 2 23
  if exponentField = 255 then
    if fraction = 0 then .infinity negative else .nan
  else
    let m := if exponentField = 0 then fraction else Nat.pow 2 23 + fraction
    .ofRatio negative (m * Nat.pow 2 (max exponentField 1)) (Nat.pow 2 150)

end QueryTree
