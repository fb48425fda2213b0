import QueryTree.Json.Number

/-!
JSON trees. The members of an object keep their order and may repeat a name, so that whoever reads
an object decides what a repeated name means.
-/

namespace QueryTree

inductive Json where
  | null
  | bool (b : Bool)
  | number (n : JsonNumber)
  | string (s : String)
  | array (items : List Json)
  | object (members : List (String × Json))
deriving Inhabited, BEq, Repr

namespace Json

/-- The value of the first member with a name. -/
def member? (name : String) : Json → Option Json
  | .object members => members.lookup name
  | _ => none

end Json

end QueryTree
