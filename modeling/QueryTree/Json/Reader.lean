import QueryTree.Json
import QueryTree.Text.Digits

/-!
Reading JSON, strictly by its grammar. Each reader takes the characters that are left and gives the
rest after what it has read. The three readers that call each other count their calls down from
twice the length of the text; every other call consumes a character, so the count stays above the
number of characters that are left, and it serves to count the characters of a string as well.
-/

namespace QueryTree

namespace Json

/-- Skips blanks, tabs and line ends. -/
def skipBlanks (cs : List Char) : List Char :=
  cs.dropWhile (fun c => c = ' ' || c = '\t' || c = '\n' || c = '\r')

/-- The fraction of a number, if a point follows. -/
def readFraction : List Char → Option (Option (List Nat) × List Char)
  | '.' :: cs =>
    match takeDigits cs with
    | ([], _) => none
    | (digits, rest) => some (some digits, rest)
  | cs => some (none, cs)

/-- The exponent of a number, if its letter follows. -/
def readExponent : List Char → Option (Option Int × List Char)
  | [] => some (none, [])
  | c :: cs =>
    if c = 'e' || c = 'E' then
      let (negative, cs) := match cs with
        | '-' :: cs => (true, cs)
        | '+' :: cs => (false, cs)
        | cs => (false, cs)
      match takeDigits cs with
      | ([], _) => none
      | (digits, rest) =>
        let magnitude : Int := ofDigits 10 digits
        some (some (if negative then -magnitude else magnitude), rest)
    else some (none, c :: cs)

/-- A number. Only the number zero starts with a zero. -/
def readNumber (cs : List Char) : Option (JsonNumber × List Char) := do
  let (negative, cs) := match cs with
    | '-' :: cs => (true, cs)
    | cs => (false, cs)
  let (whole, cs) := takeDigits cs
  if whole.isEmpty || (whole.head? == some 0 && whole.length != 1) then none
  else
    let (fraction, cs) ← readFraction cs
    let (exponent, cs) ← readExponent cs
    let number ← JsonNumber.ofToken? ⟨negative, whole, fraction, exponent⟩
    some (number, cs)

/-- The character that an escape stands for, where the backslash has been read. A character beyond
the basic plane is written as two escapes, one for each half of a surrogate pair; a half without
the other is refused. -/
def readEscape : List Char → Option (Char × List Char)
  | '"' :: rest => some ('"', rest)
  | '\\' :: rest => some ('\\', rest)
  | '/' :: rest => some ('/', rest)
  | 'b' :: rest => some ('\x08', rest)
  | 'f' :: rest => some ('\x0c', rest)
  | 'n' :: rest => some ('\n', rest)
  | 'r' :: rest => some ('\r', rest)
  | 't' :: rest => some ('\t', rest)
  | 'u' :: rest => do
    let (unit, rest) ← readHex 4 rest
    if 0xD800 ≤ unit ∧ unit < 0xDC00 then
      match rest with
      | '\\' :: 'u' :: rest => do
        let (second, rest) ← readHex 4 rest
        if 0xDC00 ≤ second ∧ second < 0xE000 then
          some (Char.ofNat (0x10000 + (unit - 0xD800) * 0x400 + (second - 0xDC00)), rest)
        else none
      | _ => none
    else if 0xDC00 ≤ unit ∧ unit < 0xE000 then none
    else some (Char.ofNat unit, rest)
  | _ => none

/-- The inside of a string up to its closing quote, which is consumed. -/
def readChars : (fuel : Nat) → List Char → Option (List Char × List Char)
  | 0, _ => none
  | _ + 1, [] => none
  | _ + 1, '"' :: rest => some ([], rest)
  | fuel + 1, '\\' :: rest => do
    let (c, rest) ← readEscape rest
    let (cs, rest) ← readChars fuel rest
    some (c :: cs, rest)
  | fuel + 1, c :: rest =>
    if c.toNat < 32 then none
    else do
      let (cs, rest) ← readChars fuel rest
      some (c :: cs, rest)

/-- A string whose opening quote has been read. -/
def readString (fuel : Nat) (cs : List Char) : Option (String × List Char) := do
  let (chars, rest) ← readChars fuel cs
  some (String.ofList chars, rest)

/-- Skips a word that must follow. -/
def readWord (word : List Char) (cs : List Char) : Option (List Char) :=
  if word.isPrefixOf cs then some (cs.drop word.length) else none

mutual

/-- A value. Arrays and objects may be nested `nesting` levels deep. -/
def readValue : (fuel : Nat) → (nesting : Nat) → List Char → Option (Json × List Char)
  | 0, _, _ => none
  | fuel + 1, nesting, cs =>
    match skipBlanks cs with
    | [] => none
    | 'n' :: rest => (readWord ['u', 'l', 'l'] rest).map (Json.null, ·)
    | 't' :: rest => (readWord ['r', 'u', 'e'] rest).map (Json.bool true, ·)
    | 'f' :: rest => (readWord ['a', 'l', 's', 'e'] rest).map (Json.bool false, ·)
    | '"' :: rest => do
      let (s, rest) ← readString fuel rest
      some (.string s, rest)
    | '[' :: rest =>
      match nesting with
      | 0 => none
      | nesting + 1 =>
        match skipBlanks rest with
        | ']' :: rest => some (.array [], rest)
        | rest => do
          let (items, rest) ← readItems fuel nesting rest
          some (.array items, rest)
    | '\x7b' :: rest =>
      match nesting with
      | 0 => none
      | nesting + 1 =>
        match skipBlanks rest with
        | '\x7d' :: rest => some (.object [], rest)
        | rest => do
          let (members, rest) ← readMembers fuel nesting rest
          some (.object members, rest)
    | cs => do
      let (n, rest) ← readNumber cs
      some (.number n, rest)

/-- The items of an array, of which there is at least one, and the closing bracket. -/
def readItems : (fuel : Nat) → (nesting : Nat) → List Char → Option (List Json × List Char)
  | 0, _, _ => none
  | fuel + 1, nesting, cs => do
    let (item, rest) ← readValue fuel nesting cs
    match skipBlanks rest with
    | ']' :: rest => some ([item], rest)
    | ',' :: rest => do
      let (items, rest) ← readItems fuel nesting rest
      some (item :: items, rest)
    | _ => none

/-- The members of an object, of which there is at least one, and the closing brace. -/
def readMembers : (fuel : Nat) → (nesting : Nat) → List Char →
    Option (List (String × Json) × List Char)
  | 0, _, _ => none
  | fuel + 1, nesting, cs =>
    match skipBlanks cs with
    | '"' :: rest => do
      let (name, rest) ← readString fuel rest
      match skipBlanks rest with
      | ':' :: rest => do
        let (value, rest) ← readValue fuel nesting rest
        match skipBlanks rest with
        | '\x7d' :: rest => some ([(name, value)], rest)
        | ',' :: rest => do
          let (members, rest) ← readMembers fuel nesting rest
          some ((name, value) :: members, rest)
        | _ => none
      | _ => none
    | _ => none

end

/-- Containers nested deeper than this are refused. -/
def maxNesting : Nat := 127

/-- The tree of a text that holds one value and nothing after it. -/
def readNested (nesting : Nat) (text : String) : Option Json :=
  let cs := text.toList
  match readValue (2 * cs.length + 2) nesting cs with
  | some (json, rest) => if (skipBlanks rest).isEmpty then some json else none
  | none => none

def read (text : String) : Option Json := readNested maxNesting text

end Json

end QueryTree
