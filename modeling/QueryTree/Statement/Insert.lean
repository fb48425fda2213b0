import QueryTree.Statement.Columns
import QueryTree.Tree.Compile

/-!
Inserting rows. The cells are given column by column, and every row has to cover all columns.
-/

namespace QueryTree

structure Insert where
  table : String := ""
  cells : Columns Value := .empty

/-- Refuses a value that no column can hold. -/
def Value.checkBindable (value : Value) : Except QueryError Unit :=
  ensure value.isBindable (.kindUnbound value.kind)

/-- Refuses the first value that no column can hold. -/
def checkAllBindable : List Value → Except QueryError Unit
  | [] => .ok ()
  | value :: rest => do
    value.checkBindable
    checkAllBindable rest

namespace Insert

def intoTable (query : Insert) (table : String) : Insert :=
  { query with table := table }

/-- Gives the next row of a column its value. -/
def addValue (query : Insert) (column : String) (value : Value) : Insert :=
  { query with cells := query.cells.push column value }

/-- Every row has one value for each of `width` columns, and each can be bound. -/
def checkRows (width : Nat) : List (List Value) → Except QueryError Unit
  | [] => .ok ()
  | row :: rest => do
    ensure (row.length == width) .rowLength
    checkAllBindable row
    checkRows width rest

def validate (query : Insert) : Except QueryError Unit := do
  ensure (!query.table.isEmpty) .tableRequired
  ensure (!query.cells.names.isEmpty) .fieldsRequired
  ensure (query.cells.names.all (fun name => !name.isEmpty)) .fieldRequired
  ensure (!query.cells.rows.isEmpty) .valuesRequired
  checkRows query.cells.names.length query.cells.rows

/-- The marks of the rows in parentheses, where the first row starts after `count` arguments. -/
def rowMarks (dialect : Dialect) : (count : Nat) → List (List Value) → List String
  | _, [] => []
  | count, row :: rest =>
    ("(" ++ dialect.placeholder (count + 1) (count + row.length) ++ ")")
      :: rowMarks dialect (count + row.length) rest

/-- The statement; its arguments are the rows one after the other. -/
def compile (context : Context) (query : Insert) : Except QueryError Compiled := do
  query.validate
  let rows := query.cells.rows
  .ok ⟨"insert into " ++ query.table ++ "(" ++ ", ".intercalate query.cells.names ++ ") values "
    ++ ", ".intercalate (rowMarks context.dialect 0 rows), rows.flatten.toArray⟩

end Insert

end QueryTree
