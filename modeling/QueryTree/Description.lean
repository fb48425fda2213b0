import QueryTree.Json
import QueryTree.Statement

/-!
Descriptions of statements, as they are read from a text. A description is close to the tree that
it describes, but it can say things that the tree cannot: a field with both a column and a
sub-query, a field that is null, a value that is an object.
-/

namespace QueryTree

mutual

inductive FieldDescription where
  | column (name : String)
  | full (table column : Option String) (subquery : Option SelectDescription)
    (aliasName : Option String)

inductive TableDescription where
  | named (name : String)
  | full (name : Option String) (subquery : Option SelectDescription) (aliasName : Option String)

/-- The sub-query takes precedence over the value. A value that is written as null is absent. -/
structure FilterDescription where
  logic : Option Logic := none
  field : Option FieldDescription := none
  operator : Option Operator := none
  value : Option Json := none
  subquery : Option SelectDescription := none
  filters : List (Option FilterDescription) := []

structure SelectDescription where
  fields : List (Option FieldDescription) := []
  table : Option TableDescription := none
  filter : Option FilterDescription := none
  sorts : List (Option SortKey) := []
  take : UInt64 := 0
  aliasName : Option String := none

end

structure InsertDescription where
  table : String := ""
  cells : Columns Json := .empty

structure UpdateDescription where
  table : String := ""
  assignments : List (String × Json) := []
  filter : Option FilterDescription := none

structure DeleteDescription where
  table : String := ""
  filter : Option FilterDescription := none

inductive Description where
  | select (description : SelectDescription)
  | insert (description : InsertDescription)
  | update (description : UpdateDescription)
  | delete (description : DeleteDescription)

/-- The word for the statement, which is also its name in a text. -/
def Description.kind : Description → String
  | .select _ => "select"
  | .insert _ => "insert"
  | .update _ => "update"
  | .delete _ => "delete"

end QueryTree
