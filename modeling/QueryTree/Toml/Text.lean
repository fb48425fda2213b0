import QueryTree.Text.Digits

/-!
The characters of TOML: blanks, line ends, comments, and the four forms of strings. Readers that do
not go through the text character by character take a number greater than its length to count down.
-/

namespace QueryTree.Toml

def isBlank (c : Char) : Bool := c = ' ' || c = '\t'

/-- Characters that may stand inside of a line. Of the control characters this is the tab alone. -/
def isTextChar (c : Char) : Bool := c = '\t' || (32 ≤ c.toNat && c.toNat != 127)

def skipBlanks (cs : List Char) : List Char := cs.dropWhile isBlank

/-- The end of a line, which is a line feed with or without a carriage return. -/
def readNewline : List Char → Option (List Char)
  | '\n' :: rest => some rest
  | '\r' :: '\n' :: rest => some rest
  | _ => none

/-- Skips a comment up to the end of its line. -/
def skipComment : List Char → List Char
  | '#' :: rest => rest.dropWhile isTextChar
  | cs => cs

/-- The end of a line after blanks and a comment. The text may end instead. -/
def readLineEnd (cs : List Char) : Option (List Char) :=
  match skipComment (skipBlanks cs) with
  | [] => some []
  | cs => readNewline cs

/-- Skips blanks and line ends. -/
def skipBlankLines : List Char → List Char
  | ' ' :: rest => skipBlankLines rest
  | '\t' :: rest => skipBlankLines rest
  | '\n' :: rest => skipBlankLines rest
  | '\r' :: '\n' :: rest => skipBlankLines rest
  | cs => cs

/-- Skips blanks, line ends and comments, of which each must end its line. -/
def skipSpace : (fuel : Nat) → List Char → Option (List Char)
  | 0, _ => none
  | fuel + 1, cs =>
    match skipBlankLines cs with
    | '#' :: rest => do
      let rest ← readNewline (rest.dropWhile isTextChar)
      skipSpace fuel rest
    | rest => some rest

/-- A character that is written as `count` hexadecimal digits. -/
def readCodePoint (count : Nat) (cs : List Char) : Option (Char × List Char) := do
  let (n, rest) ← readHex count cs
  if n.isValidChar then some (Char.ofNat n, rest) else none

/-- The character that an escape stands for, where the backslash has been read. -/
def readEscape : List Char → Option (Char × List Char)
  | 'b' :: rest => some ('\x08', rest)
  | 't' :: rest => some ('\t', rest)
  | 'n' :: rest => some ('\n', rest)
  | 'f' :: rest => some ('\x0c', rest)
  | 'r' :: rest => some ('\r', rest)
  | '"' :: rest => some ('"', rest)
  | '\\' :: rest => some ('\\', rest)
  | 'u' :: rest => readCodePoint 4 rest
  | 'U' :: rest => readCodePoint 8 rest
  | _ => none

/-- The inside of a string on one line up to the quote that closes it. -/
def readChars (quote : Char) (escapes : Bool) : (fuel : Nat) → List Char →
    Option (List Char × List Char)
  | 0, _ => none
  | _ + 1, [] => none
  | fuel + 1, c :: rest =>
    if c = quote then some ([], rest)
    else if escapes && c = '\\' then do
      let (c, rest) ← readEscape rest
      let (cs, rest) ← readChars quote escapes fuel rest
      some (c :: cs, rest)
    else if isTextChar c then do
      let (cs, rest) ← readChars quote escapes fuel rest
      some (c :: cs, rest)
    else none

/-- The inside of a string on several lines. Three quotes close it, and up to two more that stand
before them belong to it. A backslash at the end of a line takes away all space up to the next
character, and every line end counts as a line feed. -/
def readLines (quote : Char) (escapes : Bool) : (fuel : Nat) → List Char →
    Option (List Char × List Char)
  | 0, _ => none
  | _ + 1, [] => none
  | fuel + 1, c :: rest =>
    match readNewline (c :: rest) with
    | some rest => do
      let (cs, rest) ← readLines quote escapes fuel rest
      some ('\n' :: cs, rest)
    | none =>
      if c = quote then
        let quotes := c :: rest.takeWhile (· = quote)
        let rest := rest.dropWhile (· = quote)
        if quotes.length < 3 then do
          let (cs, rest) ← readLines quote escapes fuel rest
          some (quotes ++ cs, rest)
        else if quotes.length ≤ 5 then some (quotes.drop 3, rest)
        else none
      else if escapes && c = '\\' then
        match readNewline (skipBlanks rest) with
        | some rest => readLines quote escapes fuel (skipBlankLines rest)
        | none => do
          let (c, rest) ← readEscape rest
          let (cs, rest) ← readLines quote escapes fuel rest
          some (c :: cs, rest)
      else if isTextChar c then do
        let (cs, rest) ← readLines quote escapes fuel rest
        some (c :: cs, rest)
      else none

/-- Skips the line end that may follow the three quotes at the start of a string. -/
def skipFirstNewline (cs : List Char) : List Char :=
  (readNewline cs).getD cs

/-- A string on one line, which starts with its quote. -/
def readLineString (fuel : Nat) : List Char → Option (String × List Char)
  | '"' :: rest => do
    let (cs, rest) ← readChars '"' true fuel rest
    some (String.ofList cs, rest)
  | '\'' :: rest => do
    let (cs, rest) ← readChars '\'' false fuel rest
    some (String.ofList cs, rest)
  | _ => none

/-- A string in one of the four forms. -/
def readString (fuel : Nat) : List Char → Option (String × List Char)
  | '"' :: '"' :: '"' :: rest => do
    let (cs, rest) ← readLines '"' true fuel (skipFirstNewline rest)
    some (String.ofList cs, rest)
  | '\'' :: '\'' :: '\'' :: rest => do
    let (cs, rest) ← readLines '\'' false fuel (skipFirstNewline rest)
    some (String.ofList cs, rest)
  | cs => readLineString fuel cs

end QueryTree.Toml
