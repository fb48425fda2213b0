import QueryTree.Toml.Scalar
import QueryTree.Toml.Tree

/-!
Reading TOML 1.0. The readers of lines, lists and inline tables count their calls down from twice
the length of the text. Each two of them consume a character, so the count stays above the number of
characters that are left, and it serves all the other readers as well.
-/

namespace QueryTree.Toml

/-- From this many on, levels of lists and inline tables are refused, and so are the keys of one
dotted key. -/
def maxLevels : Nat := 80

/-- Characters of a key without quotes. -/
def isBareChar (c : Char) : Bool := c.isAlphanum || c = '-' || c = '_'

/-- One key, bare or in quotes. -/
def readSimpleKey (fuel : Nat) : List Char → Option (String × List Char)
  | [] => none
  | c :: rest =>
    if c = '"' || c = '\'' then readLineString fuel (c :: rest)
    else if isBareChar c then
      some (String.ofList (c :: rest.takeWhile isBareChar), rest.dropWhile isBareChar)
    else none

/-- Keys with points between them, and with blanks around each. -/
def readKeys : (fuel : Nat) → List Char → Option (List String × List Char)
  | 0, _ => none
  | fuel + 1, cs => do
    let (key, cs) ← readSimpleKey fuel (skipBlanks cs)
    match skipBlanks cs with
    | '.' :: rest => do
      let (keys, rest) ← readKeys fuel rest
      some (key :: keys, rest)
    | rest => some ([key], rest)

/-- A dotted key. -/
def readKeyPath (fuel : Nat) (cs : List Char) : Option (KeyPath × List Char) := do
  let (keys, rest) ← readKeys fuel cs
  if maxLevels ≤ keys.length then none
  else
    let key ← keys.getLast?
    some (⟨keys.dropLast, key⟩, rest)

/-- Skips a word that must follow. -/
def readWord (word : List Char) (cs : List Char) : Option (List Char) :=
  if word.isPrefixOf cs then some (cs.drop word.length) else none

mutual

/-- A value. Lists and inline tables may be nested `levels` deep. -/
def readValue : (fuel : Nat) → (levels : Nat) → List Char → Option (Data × List Char)
  | 0, _, _ => none
  | _ + 1, _, [] => none
  | fuel + 1, levels, c :: rest =>
    if c = '"' || c = '\'' then do
      let (s, rest) ← readString fuel (c :: rest)
      some (.string s, rest)
    else if c = 't' then (readWord ['r', 'u', 'e'] rest).map (Data.bool true, ·)
    else if c = 'f' then (readWord ['a', 'l', 's', 'e'] rest).map (Data.bool false, ·)
    else if c = '[' then
      match levels with
      | 0 => none
      | levels + 1 => do
        let (items, rest) ← readItems fuel levels rest
        some (.list items, rest)
    else if c = '\x7b' then
      match levels with
      | 0 => none
      | levels + 1 => do
        let (values, rest) ← (match skipBlanks rest with
          | '\x7d' :: rest => some ([], rest)
          | rest => readPairs fuel levels rest)
        let data ← ofPairs? values
        some (data, rest)
    else readScalar (c :: rest)

/-- The items of a list from here to its bracket. A comma may stand before the bracket. -/
def readItems : (fuel : Nat) → (levels : Nat) → List Char → Option (List Data × List Char)
  | 0, _, _ => none
  | fuel + 1, levels, cs => do
    match ← skipSpace fuel cs with
    | ']' :: rest => some ([], rest)
    | cs => do
      let (item, rest) ← readValue fuel levels cs
      match ← skipSpace fuel rest with
      | ']' :: rest => some ([item], rest)
      | ',' :: rest => do
        let (items, rest) ← readItems fuel levels rest
        some (item :: items, rest)
      | _ => none

/-- The members of an inline table, of which there is at least one, on one line up to the brace. -/
def readPairs : (fuel : Nat) → (levels : Nat) → List Char →
    Option (List (KeyPath × Data) × List Char)
  | 0, _, _ => none
  | fuel + 1, levels, cs => do
    match ← readKeyPath fuel cs with
    | (path, '=' :: rest) => do
      let (data, rest) ← readValue fuel levels (skipBlanks rest)
      match skipBlanks rest with
      | '\x7d' :: rest => some ([(path, data)], rest)
      | ',' :: rest => do
        let (pairs, rest) ← readPairs fuel levels rest
        some ((path, data) :: pairs, rest)
      | _ => none
    | _ => none

end

/-- A line that is neither blank nor the last one without a line end. -/
def readContentLine (fuel : Nat) (cs : List Char) : Option (Line × List Char) := do
  match cs with
  | '[' :: '[' :: rest =>
    match ← readKeyPath fuel rest with
    | (path, ']' :: ']' :: rest) => do
      let rest ← readLineEnd rest
      some (.header path true, rest)
    | _ => none
  | '[' :: rest =>
    match ← readKeyPath fuel rest with
    | (path, ']' :: rest) => do
      let rest ← readLineEnd rest
      some (.header path false, rest)
    | _ => none
  | cs =>
    match ← readKeyPath fuel cs with
    | (path, '=' :: rest) => do
      let (data, rest) ← readValue fuel (maxLevels - 1) (skipBlanks rest)
      let rest ← readLineEnd rest
      some (.value path data, rest)
    | _ => none

/-- The lines of a text. -/
def readLinesOf : (fuel : Nat) → List Char → Option (List Line)
  | 0, _ => none
  | fuel + 1, cs =>
    match skipBlanks cs with
    | [] => some []
    | c :: rest => do
      let (line, rest) ← (match readLineEnd (c :: rest) with
        | some rest => some (.blank, rest)
        | none => readContentLine fuel (c :: rest))
      let lines ← readLinesOf fuel rest
      some (line :: lines)

/-- The data of a text, which may start with a byte order mark. -/
def read (text : String) : Option Data := do
  let cs := match text.toList with
    | '\ufeff' :: cs => cs
    | cs => cs
  let lines ← readLinesOf (2 * cs.length + 4) cs
  ofLines? lines

end QueryTree.Toml
