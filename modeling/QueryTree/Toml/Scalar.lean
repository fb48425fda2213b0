import QueryTree.Data
import QueryTree.Toml.Text

/-!
Numbers, dates and times of TOML. Integers have 64 bits with a sign, in four bases; floats are read
to the nearest number; dates and times are checked against the calendar and the clock.
-/

namespace QueryTree.Toml

/-- More digits after the first one. Between two digits there may be one underscore. -/
def readMoreDigits (value? : Char → Option Nat) : List Char → Option (List Nat × List Char)
  | [] => some ([], [])
  | '_' :: [] => none
  | '_' :: c :: rest =>
    match value? c with
    | none => none
    | some d => do
      let (digits, rest) ← readMoreDigits value? rest
      some (d :: digits, rest)
  | c :: rest =>
    match value? c with
    | none => some ([], c :: rest)
    | some d => do
      let (digits, rest) ← readMoreDigits value? rest
      some (d :: digits, rest)

/-- Digits of which there is at least one. -/
def readDigits (value? : Char → Option Nat) : List Char → Option (List Nat × List Char)
  | [] => none
  | c :: rest => do
    let d ← value? c
    let (digits, rest) ← readMoreDigits value? rest
    some (d :: digits, rest)

/-- The whole digits of a decimal number. Only zero itself starts with a zero. -/
def readWhole : List Char → Option (List Nat × List Char)
  | '0' :: rest => some ([0], rest)
  | cs => readDigits decimalValue? cs

/-- A sign, and whether it is a minus. -/
def readSign : List Char → Bool × List Char
  | '-' :: rest => (true, rest)
  | '+' :: rest => (false, rest)
  | cs => (false, cs)

/-- An integer that fits into 64 bits with a sign. -/
def ofInteger? (negative : Bool) (magnitude : Nat) : Option Data :=
  let n : Int := if negative then -magnitude else magnitude
  if -Nat.pow 2 63 ≤ n ∧ n < Nat.pow 2 63 then some (Data.ofInt (Int64.ofInt n)) else none

/-- The float nearest to a decimal. A positive one beyond all floats is refused, while a negative
one becomes infinite. -/
def ofDecimal? (negative : Bool) (coefficient : Nat) (exponent : Int) : Option Data :=
  let x := Binary64.ofDecimal negative coefficient exponent
  if x.isFinite || negative then some (Data.ofFloat x) else none

/-- A digit of a base below ten. -/
def digitBelow (base : Nat) (c : Char) : Option Nat :=
  (decimalValue? c).filter (· < base)

/-- An integer in base `base`, where the mark of the base has been read. -/
def readInBase (base : Nat) (value? : Char → Option Nat) (cs : List Char) :
    Option (Data × List Char) := do
  let (digits, rest) ← readDigits value? cs
  let data ← ofInteger? false (ofDigits base digits)
  some (data, rest)

/-- The exponent of a float, where its letter has been read. -/
def readExponent (cs : List Char) : Option (Int × List Char) := do
  let (negative, cs) := readSign cs
  let (digits, rest) ← readDigits decimalValue? cs
  let magnitude : Int := ofDigits 10 digits
  some (if negative then -magnitude else magnitude, rest)

/-- The number of the parts of a decimal. It is a float if it has a fraction or an exponent. -/
def ofParts? (negative : Bool) (whole fraction : List Nat) (exponent : Option Int) : Option Data :=
  if fraction.isEmpty && exponent.isNone then ofInteger? negative (ofDigits 10 whole)
  else
    ofDecimal? negative (ofDigits 10 (whole ++ fraction)) (exponent.getD 0 - fraction.length)

/-- A decimal number. -/
def readDecimal (negative : Bool) (cs : List Char) : Option (Data × List Char) := do
  let (whole, cs) ← readWhole cs
  let (fraction, cs) ← (match cs with
    | '.' :: cs => do
      let (digits, rest) ← readDigits decimalValue? cs
      some (digits, rest)
    | cs => some ([], cs))
  let (exponent, rest) ← (match cs with
    | 'e' :: cs | 'E' :: cs => do
      let (exponent, rest) ← readExponent cs
      some (some exponent, rest)
    | cs => some (none, cs))
  let data ← ofParts? negative whole fraction exponent
  some (data, rest)

/-- A number, with or without a sign. The marks of the bases follow no sign. -/
def readNumber : List Char → Option (Data × List Char)
  | '0' :: 'x' :: rest => readInBase 16 hexValue? rest
  | '0' :: 'o' :: rest => readInBase 8 (digitBelow 8) rest
  | '0' :: 'b' :: rest => readInBase 2 (digitBelow 2) rest
  | cs =>
    let (negative, cs) := readSign cs
    match cs with
    | 'i' :: 'n' :: 'f' :: rest => some (.nonFinite (.infinity negative), rest)
    | 'n' :: 'a' :: 'n' :: rest => some (.nonFinite .nan, rest)
    | cs => readDecimal negative cs

/-- Exactly `count` decimal digits whose number lies between two bounds. -/
def readBounded (count least greatest : Nat) (cs : List Char) : Option (Nat × List Char) := do
  let digits ← (cs.take count).mapM decimalValue?
  let n := ofDigits 10 digits
  if digits.length = count ∧ least ≤ n ∧ n ≤ greatest then some (n, cs.drop count) else none

/-- Skips a character that must follow. -/
def readChar (c : Char) : List Char → Option (List Char)
  | [] => none
  | d :: rest => if d = c then some rest else none

def isLeapYear (year : Nat) : Bool :=
  year % 4 == 0 && (year % 100 != 0 || year % 400 == 0)

def daysInMonth (year month : Nat) : Nat :=
  if month = 2 then if isLeapYear year then 29 else 28
  else if month = 4 ∨ month = 6 ∨ month = 9 ∨ month = 11 then 30
  else 31

/-- A day of the calendar. -/
def readDate (cs : List Char) : Option (List Char) := do
  let (year, cs) ← readBounded 4 0 9999 cs
  let cs ← readChar '-' cs
  let (month, cs) ← readBounded 2 1 12 cs
  let cs ← readChar '-' cs
  let (_, rest) ← readBounded 2 1 (daysInMonth year month) cs
  some rest

/-- A time of the day, up to a leap second, with any number of digits after its point. -/
def readTime (cs : List Char) : Option (List Char) := do
  let (_, cs) ← readBounded 2 0 23 cs
  let cs ← readChar ':' cs
  let (_, cs) ← readBounded 2 0 59 cs
  let cs ← readChar ':' cs
  let (_, rest) ← readBounded 2 0 60 cs
  match rest with
  | '.' :: fraction =>
    match takeDigits fraction with
    | ([], _) => some rest
    | (_, rest) => some rest
  | rest => some rest

/-- Skips the distance from universal time, if there is one. -/
def skipOffset (cs : List Char) : List Char :=
  match cs with
  | 'Z' :: rest | 'z' :: rest => rest
  | '+' :: rest | '-' :: rest =>
    let offset := do
      let (_, rest) ← readBounded 2 0 23 rest
      let rest ← readChar ':' rest
      let (_, rest) ← readBounded 2 0 59 rest
      some rest
    offset.getD cs
  | cs => cs

/-- A date, a time, or a date and a time. A blank may stand between the two. -/
def readDateTime (cs : List Char) : Option (List Char) :=
  match readDate cs with
  | none => readTime cs
  | some rest =>
    match rest with
    | 'T' :: time | 't' :: time | ' ' :: time =>
      match readTime time with
      | some rest => some (skipOffset rest)
      | none => some rest
    | rest => some rest

/-- A number, a date or a time. -/
def readScalar (cs : List Char) : Option (Data × List Char) :=
  match readDateTime cs with
  | some rest => some (.dateTime, rest)
  | none => readNumber cs

end QueryTree.Toml
