import QueryTree.Statement.Insert

/-!
Updating and deleting rows. Both need a filter, so that a statement without one is refused instead
of changing every row.
-/

namespace QueryTree

/-- Assigns values to columns of the rows that a filter holds for. The assignments stand in the
order in which they are written. -/
structure Update where
  table : String := ""
  assignments : List (String × Value) := []
  filter : Option Filter := none

structure Delete where
  table : String := ""
  filter : Option Filter := none

/-- Replaces the value of a column where it is assigned, or else adds an assignment at the end. -/
def assign (column : String) (value : Value) :
    List (String × Value) → List (String × Value)
  | [] => [(column, value)]
  | (name, old) :: rest =>
    if name = column then (name, value) :: rest else (name, old) :: assign column value rest

/-- Adds the condition of a statement, if it has a text. -/
def compileWhere (context : Context) (filter : Option Filter) (start : Compiled) :
    Except QueryError Compiled :=
  match filter with
  | none => .ok start
  | some filter => do
    let condition ← filter.compile context start.args
    if condition.sql.isEmpty then .ok ⟨start.sql, condition.args⟩
    else .ok ⟨start.sql ++ " where " ++ condition.sql, condition.args⟩

namespace Update

def ofTable (table : String) : Update := { table := table }

def set (query : Update) (column : String) (value : Value) : Update :=
  { query with assignments := assign column value query.assignments }

def filteredBy (query : Update) (filter : Filter) : Update :=
  { query with filter := some filter }

def checkAssignments : List (String × Value) → Except QueryError Unit
  | [] => .ok ()
  | (column, value) :: rest => do
    ensure (!column.isEmpty) .fieldRequired
    value.checkBindable
    checkAssignments rest

def validate (query : Update) : Except QueryError Unit := do
  ensure (!query.table.isEmpty) .tableRequired
  ensure (!query.assignments.isEmpty) .fieldsRequired
  checkAssignments query.assignments
  ensure query.filter.isSome .filterRequired

/-- The assignments, of which the first binds the argument after `count` others. -/
def assignmentTexts (dialect : Dialect) : (count : Nat) → List (String × Value) → List String
  | _, [] => []
  | count, (column, _) :: rest =>
    (column ++ " = " ++ dialect.lastPlaceholder (count + 1))
      :: assignmentTexts dialect (count + 1) rest

/-- The statement; the assigned values are bound before those of the filter. -/
def compile (context : Context) (query : Update) : Except QueryError Compiled := do
  query.validate
  compileWhere context query.filter
    ⟨"update " ++ query.table ++ " set "
      ++ ", ".intercalate (assignmentTexts context.dialect 0 query.assignments),
      (query.assignments.map Prod.snd).toArray⟩

end Update

namespace Delete

def fromTable (query : Delete) (table : String) : Delete :=
  { query with table := table }

def filteredBy (query : Delete) (filter : Filter) : Delete :=
  { query with filter := some filter }

def validate (query : Delete) : Except QueryError Unit := do
  ensure (!query.table.isEmpty) .tableRequired
  ensure query.filter.isSome .filterRequired

def compile (context : Context) (query : Delete) : Except QueryError Compiled := do
  query.validate
  compileWhere context query.filter ⟨"delete from " ++ query.table, #[]⟩

end Delete

end QueryTree
