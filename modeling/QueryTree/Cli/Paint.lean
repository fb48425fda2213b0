/-!
Text on a terminal: colours and columns.
-/

namespace QueryTree.Cli

/-- A style by its codes, with semicolons between them. -/
structure Style where
  codes : String

namespace Style

def plain : Style := ⟨""⟩
def dimmed : Style := ⟨"2"⟩
def yellow : Style := ⟨"33"⟩
def cyan : Style := ⟨"36"⟩
def white : Style := ⟨"37"⟩
def boldRed : Style := ⟨"1;31"⟩
def boldGreen : Style := ⟨"1;32"⟩
def boldCyan : Style := ⟨"1;36"⟩
def boldWhite : Style := ⟨"1;37"⟩

/-- The escape sequence that turns the style on. -/
def sequence (style : Style) : List Char :=
  '\x1b' :: '[' :: (style.codes.toList ++ ['m'])

end Style

/-- Turns a style on again wherever the text itself turns all styles off. -/
def restyle (style : List Char) : List Char → List Char
  | '\x1b' :: '[' :: '0' :: 'm' :: rest =>
    '\x1b' :: '[' :: '0' :: 'm' :: (style ++ restyle style rest)
  | c :: rest => c :: restyle style rest
  | [] => []

/-- Fills a text up with blanks to a width. -/
def padTo (width : Nat) (cs : List Char) : List Char :=
  cs ++ List.replicate (width - cs.length) ' '

/-- A text in a style, filled up to a width. Without colours the style is left out. -/
def paintColumn (color : Bool) (style : Style) (width : Nat) (text : String) : String :=
  if color && !style.codes.isEmpty then
    String.ofList (style.sequence ++ padTo width (restyle style.sequence text.toList)
      ++ ['\x1b', '[', '0', 'm'])
  else String.ofList (padTo width text.toList)

/-- A text in a style. -/
def paint (color : Bool) (style : Style) (text : String) : String :=
  paintColumn color style 0 text

end QueryTree.Cli
