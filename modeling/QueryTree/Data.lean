import QueryTree.Json

/-!
What a JSON or a TOML text holds. Beyond JSON there are the two things that only TOML has: dates and
times, and floats that are not finite.
-/

namespace QueryTree

/-- The formats in which descriptions are written. -/
inductive Format where
  | json
  | toml
deriving DecidableEq, Repr

inductive Data where
  | null
  | bool (b : Bool)
  | number (n : JsonNumber)
  /-- An infinity, or what is not a number. -/
  | nonFinite (x : Binary64)
  | string (s : String)
  /-- A date, a time or both. It is never bound, so nothing of it is kept. -/
  | dateTime
  | list (items : List Data)
  | table (members : List (String × Data))
deriving Inhabited, BEq, Repr

namespace Data

def ofFloat (x : Binary64) : Data :=
  if h : x.isFinite = true then .number (.float x h) else .nonFinite x

def ofInt (n : Int64) : Data :=
  .number (.ofInt n)

mutual

def ofJson : Json → Data
  | .null => .null
  | .bool b => .bool b
  | .number n => .number n
  | .string s => .string s
  | .array items => .list (ofJsonItems items)
  | .object members => .table (ofJsonMembers members)

def ofJsonItems : List Json → List Data
  | [] => []
  | item :: rest => ofJson item :: ofJsonItems rest

def ofJsonMembers : List (String × Json) → List (String × Data)
  | [] => []
  | (name, value) :: rest => (name, ofJson value) :: ofJsonMembers rest

end

mutual

/-- The tree in JSON, which has no infinities and no dates: they become null and an object. -/
def toJson : Data → Json
  | .null => .null
  | .bool b => .bool b
  | .number n => .number n
  | .nonFinite _ => .null
  | .string s => .string s
  | .dateTime => .object []
  | .list items => .array (toJsonItems items)
  | .table members => .object (toJsonMembers members)

def toJsonItems : List Data → List Json
  | [] => []
  | item :: rest => item.toJson :: toJsonItems rest

def toJsonMembers : List (String × Data) → List (String × Json)
  | [] => []
  | (name, value) :: rest => (name, value.toJson) :: toJsonMembers rest

end

mutual

/-- How deep lists and tables are nested. -/
def height : Data → Nat
  | .list items => itemsHeight items + 1
  | .table members => membersHeight members + 1
  | _ => 0

def itemsHeight : List Data → Nat
  | [] => 0
  | item :: rest => max item.height (itemsHeight rest)

def membersHeight : List (String × Data) → Nat
  | [] => 0
  | (_, value) :: rest => max value.height (membersHeight rest)

end

end Data

end QueryTree
