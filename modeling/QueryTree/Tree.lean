import QueryTree.Context
import QueryTree.Value

/-!
The tree of a query. A select may stand inside of another one as a field, as a table or as the
right side of a condition, so fields, tables, conditions and selects are defined together. A tree
need not make sense: every part may be absent, and compilation says what is missing.
-/

namespace QueryTree

/-- One key of an `order by` clause. A key without a direction ascends. -/
structure SortKey where
  field : String
  direction : Option Direction := none
deriving DecidableEq, Repr

mutual

/-- What a select lists, or the left side of a condition. -/
inductive Field where
  | column (table : Option String) (name : String) (aliasName : Option String)
  | subquery (query : Select) (aliasName : Option String)

/-- What a select reads from. -/
inductive Table where
  | named (name : String) (aliasName : Option String)
  | subquery (query : Select) (aliasName : Option String)

/-- The right side of a condition. -/
inductive Operand where
  /-- A literal, which is bound as an argument. -/
  | value (literal : Value)
  /-- A query, which is written out in parentheses. -/
  | subquery (query : Select)

/-- A condition, or several filters that a logic joins. A child may be absent, and is skipped. -/
structure Filter where
  logic : Option Logic := none
  field : Option Field := none
  operator : Option Operator := none
  value : Option Operand := none
  filters : List (Option Filter) := []

/-- A select. Sort keys may be absent, and are skipped; there is no limit if `take` is zero. The
alias is written where the select is embedded, inside of the parentheses. -/
structure Select where
  fields : List Field := []
  table : Option Table := none
  filter : Option Filter := none
  sorts : List (Option SortKey) := []
  take : UInt64 := 0
  aliasName : Option String := none

end

/-- The alias that is written: an empty one counts as none. -/
def shownAlias (aliasName : Option String) : Option String :=
  aliasName.filter (fun name => !name.isEmpty)

/-- A literal null counts as no value. -/
def Operand.isNull : Operand → Bool
  | .value literal => literal.isNull
  | .subquery _ => false

def Field.aliasName : Field → Option String
  | .column _ _ aliasName => aliasName
  | .subquery _ aliasName => aliasName

def Table.aliasName : Table → Option String
  | .named _ aliasName => aliasName
  | .subquery _ aliasName => aliasName

end QueryTree
