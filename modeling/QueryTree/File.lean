import QueryTree.Config
import QueryTree.Description.Read

/-!
Descriptions and configurations in files. A file is what reading it gives: its bytes, or the reason
why there are none.
-/

namespace QueryTree

/-- What reading a file gives. -/
abbrev FileContent := Except FileFault ByteArray

/-- The text of a file, which must be UTF-8. -/
def FileContent.text (content : FileContent) : Except QueryError String :=
  match content with
  | .error fault => .error (.file fault)
  | .ok bytes =>
    match String.fromUTF8? bytes with
    | some text => .ok text
    | none => .error (.file .notUtf8)

/-- A text in pieces between separators. -/
def splitAt (separator : Char) : List Char → List (List Char)
  | [] => [[]]
  | c :: rest =>
    if c = separator then [] :: splitAt separator rest
    else match splitAt separator rest with
      | [] => [[c]]
      | piece :: pieces => (c :: piece) :: pieces

/-- The last part of a path, unless the path ends with the step to the parent. -/
def fileName? (path : String) : Option (List Char) := do
  let parts := (splitAt '/' path.toList).filter (fun part => !part.isEmpty && part != ['.'])
  let name ← parts.getLast?
  if name = ['.', '.'] then none else some name

/-- What follows the last point of a file name. A point at the start does not begin an extension. -/
def extension? (name : List Char) : Option (List Char) :=
  match (splitAt '.' name).reverse with
  | [] | [_] => none
  | [_, []] => none
  | piece :: _ => some piece

/-- Files are read as JSON, but for those with the extension of TOML in small letters. -/
def Format.ofPath (path : String) : Format :=
  if (fileName? path).bind extension? = some ['t', 'o', 'm', 'l'] then .toml else .json

/-- The description in a file. -/
def Description.ofFile (path : String) (content : FileContent) :
    Except QueryError Description := do
  let text ← content.text
  Description.read (.ofPath path) text

/-- The configuration in a file, which is TOML whatever its name. -/
def Config.ofFile (content : FileContent) : Except QueryError Config := do
  let text ← content.text
  Config.read text

end QueryTree
