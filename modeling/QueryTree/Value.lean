import QueryTree.Error
import QueryTree.Number.Layout

/-!
Values that are bound as arguments. Numbers of every width are held in the widest type of their
sort, so that one, unsigned one and the float one are three different values.
-/

namespace QueryTree

inductive Value where
  | null
  | bool (b : Bool)
  | int (n : Int64)
  | uint (n : UInt64)
  | float (x : Binary64)
  | string (s : String)
  /-- A list is accepted on the right of a membership operator only. -/
  | list (items : List Value)
deriving BEq, Repr

namespace Value

def kind : Value → Kind
  | .null => .null
  | .bool _ => .bool
  | .int _ => .int
  | .uint _ => .uint
  | .float _ => .float
  | .string _ => .string
  | .list _ => .list

def isNull (value : Value) : Bool :=
  value.kind == .null

/-- The value can be written to a column: it is null or a scalar. -/
def isBindable (value : Value) : Bool :=
  value.isNull || value.kind.isScalar

/-- The elements of a list of scalars. The error names the kind of what is no list, or of the first
element that is no scalar. -/
def scalarElements : Value → Except QueryError (List Value)
  | .list items =>
    match items.find? (fun item => !item.kind.isScalar) with
    | some item => .error (.kindUnbound item.kind)
    | none => .ok items
  | value => .error (.kindUnbound value.kind)

/-- Floats are shown without exponents, and a whole number has no point. -/
def floatLayout : DecimalLayout := ⟨.up, none, ""⟩

/-- A float for a reader. -/
def showFloat (x : Binary64) : String :=
  if x.isFinite then floatLayout.write x
  else if x.isNaN then "NaN"
  else if x.isNegative then "-inf"
  else "inf"

mutual

/-- The value for a reader, which is not SQL: quotes inside of a string are left alone. -/
def display : Value → String
  | .null => "NULL"
  | .bool b => if b then "true" else "false"
  | .int n => toString n.toInt
  | .uint n => toString n.toNat
  | .float x => showFloat x
  | .string s => "'" ++ s ++ "'"
  | .list items => "[" ++ ", ".intercalate (displayAll items) ++ "]"

def displayAll : List Value → List String
  | [] => []
  | item :: rest => item.display :: displayAll rest

end

end Value

end QueryTree
