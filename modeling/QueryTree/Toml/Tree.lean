import QueryTree.Data

/-!
Putting a TOML document together. A table can come about in three ways: a header declares it, a
header of a table inside of it implies it, or a dotted key does. What may be added to a table later
on, and by which means, depends on how it came about; a value is never added to.
-/

namespace QueryTree.Toml

/-- How a table came about. -/
inductive Origin where
  /-- By the header of a table that lies deeper. -/
  | implied
  /-- By a dotted key. -/
  | dotted
  /-- By a header of its own, or as the whole document. -/
  | declared
deriving DecidableEq, Repr

/-- What stands under a key while a document is put together. -/
inductive Node where
  | value (data : Data)
  | table (origin : Origin) (entries : List (String × Node))
  /-- A list of tables, of which the newest comes first. -/
  | tables (newest : List (String × Node)) (older : List (List (String × Node)))

abbrev Entries := List (String × Node)

/-- A key with the keys that lead to it. -/
structure KeyPath where
  parents : List String
  key : String
deriving DecidableEq, Repr

namespace Entries

/-- Sets what stands under a key, in its place or at the end. -/
def put (key : String) (node : Node) : Entries → Entries
  | [] => [(key, node)]
  | (name, old) :: rest =>
    if name = key then (key, node) :: rest else (name, old) :: put key node rest

/-- Changes the table to which keys lead, and makes the tables on the way that are not there. The
newest table stands for a list of tables. The keys of a header lead through every table; dotted keys
do not lead into a table with a header of its own. -/
def alterAt (dotted : Bool) (alter : Origin → Entries → Option Entries) :
    (keys : List String) → Origin → Entries → Option Entries
  | [], origin, entries => alter origin entries
  | key :: keys, _, entries =>
    match entries.lookup key with
    | none => do
      let origin := if dotted then .dotted else .implied
      let inner ← alterAt dotted alter keys origin []
      some (put key (.table origin inner) entries)
    | some (.value _) => none
    | some (.table origin inner) =>
      if dotted && origin == .declared then none
      else do
        let inner ← alterAt dotted alter keys origin inner
        some (put key (.table origin inner) entries)
    | some (.tables newest older) => do
      let newest ← alterAt dotted alter keys .declared newest
      some (put key (.tables newest older) entries)

/-- Adds a value under a new key. A dotted key adds to a table of dotted keys only. -/
def addValue (path : KeyPath) (data : Data) (entries : Entries) : Option Entries :=
  alterAt true (fun origin inner =>
    if !path.parents.isEmpty && origin != .dotted then none
    else if (inner.lookup path.key).isSome then none
    else some (put path.key (.value data) inner)) path.parents .declared entries

def addValues : List (KeyPath × Data) → Entries → Option Entries
  | [], entries => some entries
  | (path, data) :: rest, entries => do
    let entries ← addValue path data entries
    addValues rest entries

/-- Adds a table with a header. It may have been implied before, but not made in another way. -/
def addTable (path : KeyPath) (values : List (KeyPath × Data)) (entries : Entries) :
    Option Entries :=
  alterAt false (fun _ inner =>
    match inner.lookup path.key with
    | none => do
      let body ← addValues values []
      some (put path.key (.table .declared body) inner)
    | some (.table .implied body) => do
      let body ← addValues values body
      some (put path.key (.table .declared body) inner)
    | some _ => none) path.parents .declared entries

/-- Adds a table to the end of a list of tables, which is new or has been made in the same way. -/
def addListed (path : KeyPath) (values : List (KeyPath × Data)) (entries : Entries) :
    Option Entries :=
  alterAt false (fun _ inner => do
    let body ← addValues values []
    match inner.lookup path.key with
    | none => some (put path.key (.tables body []) inner)
    | some (.tables newest older) => some (put path.key (.tables body (newest :: older)) inner)
    | some _ => none) path.parents .declared entries

end Entries

mutual

/-- The data of a node. -/
def Node.toData : Node → Data
  | .value data => data
  | .table _ entries => .table (entriesToMembers entries)
  | .tables newest older =>
    .list (olderToItems older [.table (entriesToMembers newest)])

def entriesToMembers : List (String × Node) → List (String × Data)
  | [] => []
  | (key, node) :: rest => (key, node.toData) :: entriesToMembers rest

/-- The tables from the oldest on, before the items that follow them. -/
def olderToItems : List (List (String × Node)) → (following : List Data) → List Data
  | [], following => following
  | entries :: older, following =>
    olderToItems older (.table (entriesToMembers entries) :: following)

end

/-- What a line of a document says. -/
inductive Line where
  | blank
  | value (path : KeyPath) (data : Data)
  /-- A header in brackets, or in two pairs of them. -/
  | header (path : KeyPath) (listed : Bool)

/-- A header with the values that follow it. -/
structure Section where
  path : KeyPath
  listed : Bool
  values : List (KeyPath × Data)

/-- The values before the first header, and the sections. -/
def sections : List Line → List (KeyPath × Data) × List Section
  | [] => ([], [])
  | .blank :: rest => sections rest
  | .value path data :: rest =>
    let (values, following) := sections rest
    ((path, data) :: values, following)
  | .header path listed :: rest =>
    let (values, following) := sections rest
    ([], ⟨path, listed, values⟩ :: following)

def addSections : List Section → Entries → Option Entries
  | [], entries => some entries
  | ⟨path, listed, values⟩ :: rest, entries => do
    let entries ← if listed then Entries.addListed path values entries
      else Entries.addTable path values entries
    addSections rest entries

/-- The data of the lines of a document. -/
def ofLines? (lines : List Line) : Option Data := do
  let (values, following) := sections lines
  let entries ← Entries.addValues values []
  let entries ← addSections following entries
  some (.table (entriesToMembers entries))

/-- The data of an inline table, in which keys may be dotted too. -/
def ofPairs? (values : List (KeyPath × Data)) : Option Data := do
  let entries ← Entries.addValues values []
  some (.table (entriesToMembers entries))

end QueryTree.Toml
