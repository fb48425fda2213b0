/-!
Digits in a text, decimal and hexadecimal.
-/

namespace QueryTree

/-- The value of a decimal digit. -/
def decimalValue? (c : Char) : Option Nat :=
  if '0' ≤ c ∧ c ≤ '9' then some (c.toNat - '0'.toNat) else none

/-- The value of a hexadecimal digit in either case. -/
def hexValue? (c : Char) : Option Nat :=
  if '0' ≤ c ∧ c ≤ '9' then some (c.toNat - '0'.toNat)
  else if 'a' ≤ c ∧ c ≤ 'f' then some (c.toNat - 'a'.toNat + 10)
  else if 'A' ≤ c ∧ c ≤ 'F' then some (c.toNat - 'A'.toNat + 10)
  else none

/-- The lower-case hexadecimal digit of a number, taken modulo sixteen. -/
def hexDigit (n : Nat) : Char := Nat.digitChar (n % 16)

/-- The number that digits stand for in a positional system. -/
def ofDigits (base : Nat) (digits : List Nat) : Nat :=
  digits.foldl (fun n d => n * base + d) 0

/-- The decimal digits at the start of a text by their values, and what follows them. -/
def takeDigits : List Char → List Nat × List Char
  | [] => ([], [])
  | c :: cs =>
    match decimalValue? c with
    | some d =>
      let (digits, rest) := takeDigits cs
      (d :: digits, rest)
    | none => ([], c :: cs)

/-- Exactly `count` hexadecimal digits, as a number. -/
def readHex : (count : Nat) → List Char → Option (Nat × List Char)
  | count, cs =>
    match (cs.take count).mapM hexValue? with
    | some digits =>
    if digits.length = count then some (ofDigits 16 digits, cs.drop count) else none
    | none => none

end QueryTree
