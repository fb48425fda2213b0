import QueryTree.Json
import QueryTree.Value

/-!
Values as JSON trees and back. JSON has no types of integers and no infinities, so an unsigned
number that fits a signed one is read as such, and a float that is not finite is written as null.
-/

namespace QueryTree

namespace JsonNumber

/-- The signed form is preferred where a number has both. -/
def toValue : JsonNumber → Value
  | .natural n => if n.toNat < Nat.pow 2 63 then .int n.toInt64 else .uint n
  | .negative n _ => .int n
  | .float x _ => .float x

end JsonNumber

namespace Value

mutual

def toJson : Value → Json
  | .null => .null
  | .bool b => .bool b
  | .int n => .number (.ofInt n)
  | .uint n => .number (.natural n)
  | .float x => if h : x.isFinite = true then .number (.float x h) else .null
  | .string s => .string s
  | .list items => .array (toJsonItems items)

def toJsonItems : List Value → List Json
  | [] => []
  | item :: rest => item.toJson :: toJsonItems rest

end

mutual

/-- The value of a tree without objects. -/
def ofJson : Json → Except QueryError Value
  | .null => .ok .null
  | .bool b => .ok (.bool b)
  | .number n => .ok n.toValue
  | .string s => .ok (.string s)
  | .array items => do
    let values ← ofJsonItems items
    .ok (.list values)
  | .object _ => .error (.kindUnbound .map)

def ofJsonItems : List Json → Except QueryError (List Value)
  | [] => .ok []
  | item :: rest => do
    let value ← ofJson item
    let values ← ofJsonItems rest
    .ok (value :: values)

end

end Value

end QueryTree
