import QueryTree.Description.Decode
import QueryTree.Json.Reader
import QueryTree.Toml.Reader

/-!
Reading descriptions from texts in either format.
-/

namespace QueryTree

/-- The data of a text in a format. -/
def Format.read (format : Format) (text : String) : Option Data :=
  match format with
  | .json => (Json.read text).map Data.ofJson
  | .toml => Toml.read text

/-- The description in a text. -/
def Description.read (format : Format) (text : String) : Except QueryError Description :=
  match format.read text with
  | none => .error (.document .malformed)
  | some data =>
    match data.asDescription? format with
    | none => .error (.document .mistyped)
    | some description => .ok description

end QueryTree
