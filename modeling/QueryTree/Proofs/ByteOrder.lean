import Mathlib.Tactic.SplitIfs

/-!
The order of names. Texts are compared by code points, which is the order of their bytes in UTF-8:
of two characters the greater one has the greater encoding, and the encodings differ at a byte that
both of them have, so whatever follows does not matter.
-/

namespace QueryTree

section Bytes

variable {a b : Nat}

end Bytes

end QueryTree
