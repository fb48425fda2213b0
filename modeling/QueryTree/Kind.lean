/-!
The kinds of values, which decide what an operator accepts and which messages name.
-/

namespace QueryTree

inductive Kind where
  | null
  | bool
  | int
  | uint
  | float
  | string
  | list
  /-- Objects occur in descriptions only and are never bound. -/
  | map
deriving DecidableEq, Repr

namespace Kind

def all : List Kind := [.null, .bool, .int, .uint, .float, .string, .list, .map]

/-- The name of the kind in messages. -/
def name : Kind → String
  | .null => "null"
  | .bool => "bool"
  | .int => "int64"
  | .uint => "uint64"
  | .float => "float64"
  | .string => "string"
  | .list => "slice"
  | .map => "map"

/-- A scalar can be bound as one argument and compared with a field. -/
def isScalar : Kind → Bool
  | .bool | .int | .uint | .float | .string => true
  | .null | .list | .map => false

def isSequence : Kind → Bool
  | .list => true
  | _ => false

end Kind

end QueryTree
