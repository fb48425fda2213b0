import QueryTree.Tree

/-!
Composing queries. Each function takes a node and gives a new one, so that a query can be written
as a chain of calls. Nothing is checked here.
-/

namespace QueryTree

namespace Field

def ofColumn (name : String) : Field := .column none name none

def ofQuery (query : Select) : Field := .subquery query none

/-- Qualifies a column with a table. A sub-query stays as it is. -/
def inTable (table : String) : Field → Field
  | .column _ name aliasName => .column (some table) name aliasName
  | .subquery query aliasName => .subquery query aliasName

def withAlias (aliasName : Option String) : Field → Field
  | .column table name _ => .column table name aliasName
  | .subquery query _ => .subquery query aliasName

end Field

namespace Table

def ofName (name : String) : Table := .named name none

def ofQuery (query : Select) : Table := .subquery query none

def withAlias (aliasName : Option String) : Table → Table
  | .named name _ => .named name aliasName
  | .subquery query _ => .subquery query aliasName

end Table

namespace Filter

/-- A condition on a literal or a sub-query. -/
def conditionOn (field : Field) (operator : Operator) (operand : Operand) : Filter :=
  { field := some field, operator := some operator, value := some operand }

/-- A condition on a literal. -/
def condition (field : Field) (operator : Operator) (value : Value) : Filter :=
  conditionOn field operator (.value value)

/-- A condition without a right side. -/
def check (field : Field) (operator : Operator) : Filter :=
  { field := some field, operator := some operator }

def isNull (field : Field) : Filter := check field .isNull

def isNotNull (field : Field) : Filter := check field .isNotNull

def withLogic (filter : Filter) (logic : Logic) : Filter :=
  { filter with logic := some logic }

/-- Makes the node a condition, and keeps its logic and its children. -/
def withCondition (filter : Filter) (field : Field) (operator : Operator) (value : Value) :
    Filter :=
  { filter with
    field := some field, operator := some operator, value := some (.value value) }

/-- Adds a place for a child, which may stay empty. -/
def addOptional (filter : Filter) (child : Option Filter) : Filter :=
  { filter with filters := filter.filters ++ [child] }

def addCondition (filter : Filter) (field : Field) (operator : Operator) (value : Value) : Filter :=
  filter.addOptional (some (condition field operator value))

def addFilters (filter : Filter) (children : List Filter) : Filter :=
  { filter with filters := filter.filters ++ children.map some }

def all (filters : List Filter) : Filter :=
  (Filter.withLogic {} .and).addFilters filters

def any (filters : List Filter) : Filter :=
  (Filter.withLogic {} .or).addFilters filters

end Filter

namespace Select

def ofFields (fields : List Field) : Select := { fields := fields }

def fromTable (query : Select) (table : Table) : Select :=
  { query with table := some table }

def filteredBy (query : Select) (filter : Filter) : Select :=
  { query with filter := some filter }

/-- Replaces the sort keys. -/
def orderedBy (query : Select) (sorts : List SortKey) : Select :=
  { query with sorts := sorts.map some }

def limitedTo (query : Select) (take : UInt64) : Select :=
  { query with take := take }

def withAlias (query : Select) (aliasName : Option String) : Select :=
  { query with aliasName := aliasName }

end Select

end QueryTree
