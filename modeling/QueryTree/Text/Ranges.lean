/-!
Sets of characters as lists of ranges of code points.
-/

namespace QueryTree.Text

/-- The code point of the character lies in one of the ranges, ends included. -/
def inRanges (ranges : List (Nat × Nat)) (c : Char) : Bool :=
  ranges.any (fun (first, last) => decide (first ≤ c.toNat) && decide (c.toNat ≤ last))

end QueryTree.Text
