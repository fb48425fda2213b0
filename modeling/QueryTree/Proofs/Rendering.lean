import QueryTree.Proofs.Piece
import QueryTree.Statement

/-!
The rendering of a query tree. It is total, it threads no arguments and it checks nothing: every
node writes its own literals at their spots and puts the renderings of its parts around them. Of a
tree that makes no sense it says nothing of use.
-/

namespace QueryTree

namespace Piece

def grouped (pieces : List Piece) : List Piece :=
  [.text "("] ++ pieces ++ [.text ")"]

/-- A rendering with its alias, if there is one to write. -/
def renamed (aliasName : Option String) (pieces : List Piece) : List Piece :=
  match shownAlias aliasName with
  | some name => pieces ++ [.text (" as " ++ name)]
  | none => pieces

/-- A select that stands inside of another tree, with the alias that it carries itself. -/
def embedded (aliasName : Option String) (pieces : List Piece) : List Piece :=
  match shownAlias aliasName with
  | some _ => grouped (renamed aliasName (grouped pieces))
  | none => grouped pieces

/-- The spots of a literal on the right of an operator: one for each element where a list is asked
for, and one for the literal otherwise. -/
def ofLiteral (operator : Operator) (literal : Value) : List Piece :=
  match operator.operatorClass, literal with
  | .membership, .list items =>
    grouped (commaSeparated (items.map fun item => [.slot item]))
  | .membership, _ => []
  | _, literal => [.slot literal]

/-- A condition from the renderings of its two sides. -/
def ofCondition (operator : Operator) (left right : List Piece) : List Piece :=
  match operator.operatorClass with
  | .nullCheck => left ++ [.text (" " ++ operator.symbol)]
  | .comparison | .membership => left ++ [.text (" " ++ operator.symbol ++ " ")] ++ right
  | .pattern =>
    left ++ [.text " ", .like (operator == .notLike), .text " concat('%', "] ++ right
      ++ [.text ", '%')"]

/-- The children of a logic joined by its keyword, in parentheses unless the logic is the root. -/
def joined (logic : Option Logic) (root : Bool) (parts : List (List Piece)) : List Piece :=
  match parts.filter (fun part => !part.isEmpty) with
  | [] => []
  | parts =>
    let pieces := [.text (" " ++ (logic.getD .standard).keyword ++ " ")].intercalate parts
    if root then pieces else grouped pieces

/-- The condition of a statement, which is left out if it is empty. -/
def ofWhere (condition : List Piece) : List Piece :=
  if condition.isEmpty then [] else [.text " where "] ++ condition

def ofSorts (keys : List String) : List Piece :=
  if keys.isEmpty then [] else [.text (" order by " ++ ", ".intercalate keys)]

/-- The limit of a select. Zero stands for no limit. -/
def ofTake (take : UInt64) : List Piece :=
  if take = 0 then [] else [.text " limit ", .slot (.uint take)]

end Piece

/-- The text of a sort key, whether or not it has a name. -/
def SortKey.text (key : SortKey) : String :=
  key.field ++ " " ++ (key.direction.getD .standard).keyword

def keyTexts (sorts : List (Option SortKey)) : List String :=
  (sorts.filterMap id).map SortKey.text

open Piece

mutual

/-- A field without its alias. -/
def Field.pieces : Field → List Piece
  | .column table name _ => [.text (columnText table name)]
  | .subquery query _ => embedded query.aliasName query.pieces

def Table.pieces : Table → List Piece
  | .named name _ => [.text name]
  | .subquery query _ => embedded query.aliasName query.pieces

/-- The right side of a condition. -/
def Operand.pieces (operator : Operator) : Operand → List Piece
  | .value literal => ofLiteral operator literal
  | .subquery query => embedded query.aliasName query.pieces

def operandPieces (operator : Operator) : Option Operand → List Piece
  | none => []
  | some operand => operand.pieces operator

/-- A filter, which is a condition if it has an operator. A logic without children that render
anything leaves no trace. -/
def Filter.pieces (root : Bool) : Filter → List Piece
  | ⟨logic, _, none, _, filters⟩ => joined logic root (childPieces filters)
  | ⟨_, none, some _, _, _⟩ => []
  | ⟨_, some field, some operator, value, _⟩ =>
    ofCondition operator field.pieces (operandPieces operator value)

def childPieces : List (Option Filter) → List (List Piece)
  | [] => []
  | none :: rest => childPieces rest
  | some child :: rest => child.pieces false :: childPieces rest

def fieldPieces : List Field → List (List Piece)
  | [] => []
  | field :: rest => renamed field.aliasName field.pieces :: fieldPieces rest

def sourcePieces : Option Table → List Piece
  | none => []
  | some table => renamed table.aliasName table.pieces

def wherePieces : Option Filter → List Piece
  | none => []
  | some filter => ofWhere (filter.pieces true)

/-- A select without its alias. -/
def Select.pieces : Select → List Piece
  | ⟨fields, table, filter, sorts, take, _⟩ =>
    [.text "select "] ++ commaSeparated (fieldPieces fields) ++ [.text " from "]
      ++ sourcePieces table ++ wherePieces filter ++ ofSorts (keyTexts sorts) ++ ofTake take

end

def assignmentPieces (assignments : List (String × Value)) : List (List Piece) :=
  assignments.map fun (column, value) => [.text (column ++ " = "), .slot value]

def Update.pieces (query : Update) : List Piece :=
  [.text ("update " ++ query.table ++ " set ")]
    ++ commaSeparated (assignmentPieces query.assignments) ++ wherePieces query.filter

def Delete.pieces (query : Delete) : List Piece :=
  [.text ("delete from " ++ query.table)] ++ wherePieces query.filter

def rowPieces (row : List Value) : List Piece :=
  grouped (commaSeparated (row.map fun value => [.slot value]))

def Insert.pieces (query : Insert) : List Piece :=
  [.text ("insert into " ++ query.table ++ "(" ++ ", ".intercalate query.cells.names ++ ") values ")]
    ++ commaSeparated (query.cells.rows.map rowPieces)

def Statement.pieces : Statement → List Piece
  | .select query => query.pieces
  | .insert query => query.pieces
  | .update query => query.pieces
  | .delete query => query.pieces

end QueryTree
