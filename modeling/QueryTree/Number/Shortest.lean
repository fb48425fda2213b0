import QueryTree.Number.Binary64

/-!
The shortest decimal of a floating-point number: of all decimals that are read back as the number,
the ones with the fewest digits, and of those the one nearest to it. The search walks down the
powers of ten. On the grid of a power the only candidates are the two neighbours of the number, for
a grid point that lies in the interval of the number has one of them between it and the number.
-/

namespace QueryTree

/-- The decimal `coefficient * 10 ^ exponent`. -/
structure Decimal where
  coefficient : Nat
  exponent : Int
deriving DecidableEq, Repr

/-- What is taken of two decimals that are equally near. -/
inductive TieRule where
  | up
  | even
deriving DecidableEq, Repr

/-- The reals that are rounded to one number, in units of a quarter of its last place: from `low` to
`high` around `middle`, with the ends if the significand is even. -/
structure RoundingInterval where
  low : Nat
  middle : Nat
  high : Nat
  closed : Bool
  /-- The unit is `2 ^ unit`. -/
  unit : Int
deriving DecidableEq, Repr

namespace RoundingInterval

/-- The interval of a finite number. Below a power of two the numbers are twice as dense. -/
def of (x : Binary64) : RoundingInterval :=
  let m := x.significand
  { low := if m = Nat.pow 2 52 ∧ -1074 < x.exponent then 4 * m - 1 else 4 * m - 2
    middle := 4 * m
    high := 4 * m + 2
    closed := m % 2 == 0
    unit := x.exponent - 2 }

/-- The factors that bring the units of the interval and the points of the grid of `10 ^ g` to
common whole units. -/
def factors (interval : RoundingInterval) (g : Int) : Nat × Nat :=
  (Nat.pow 2 interval.unit.toNat * Nat.pow 10 (-g).toNat,
    Nat.pow 10 g.toNat * Nat.pow 2 (-interval.unit).toNat)

/-- The point of the grid of `10 ^ g` that is read back as the number and is nearest to it. -/
def onGrid? (interval : RoundingInterval) (tie : TieRule) (g : Int) : Option Nat :=
  let (unit, step) := interval.factors g
  let value := interval.middle * unit
  let below := value / step
  let gap := value % step
  let admits (fits : Nat → Nat → Bool) (a b : Nat) : Bool := fits a b || (interval.closed && a == b)
  let lowerFits := admits (fun a b => decide (a < b)) (interval.low * unit) (below * step)
  let upperFits := admits (fun a b => decide (a < b)) ((below + 1) * step) (interval.high * unit)
  match lowerFits, upperFits with
  | false, false => none
  | true, false => some below
  | false, true => some (below + 1)
  | true, true =>
    if 2 * gap < step then some below
    else if step < 2 * gap then some (below + 1)
    else match tie with
      | .up => some (below + 1)
      | .even => some (below + below % 2)

/-- The first grid with a hit, going down from `10 ^ g`. -/
def search (interval : RoundingInterval) (tie : TieRule) : (steps : Nat) → (g : Int) → Decimal
  | 0, g => ⟨0, g⟩
  | steps + 1, g =>
    match interval.onGrid? tie g with
    | some k => ⟨k, g⟩
    | none => interval.search tie steps (g - 1)

end RoundingInterval

namespace Binary64

/-- A power of ten above every decimal of the number, which starts the search. It is the binary
magnitude times an upper bound of the decimal logarithm of two. -/
def decimalBound (x : Binary64) : Int :=
  ((x.significand.log2 : Int) + x.exponent + 1) * 30103 / 100000 + 2

/-- The shortest decimal of a finite number that is not zero, without its sign. Seventeen digits
always suffice, and the search starts at most two powers too high. -/
def shortest (tie : TieRule) (x : Binary64) : Decimal :=
  (RoundingInterval.of x).search tie 24 x.decimalBound

end Binary64

end QueryTree
