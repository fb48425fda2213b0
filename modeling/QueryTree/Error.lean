import QueryTree.Kind
import QueryTree.Operator

/-!
Why a query is refused. Each cause has one message, and callers match on the text of the messages
as well as on the causes.
-/

namespace QueryTree

/-- Why a file has no text. -/
inductive FileFault where
  | absent
  | notUtf8
  | isDirectory
  | notDirectory
deriving DecidableEq, Repr

def FileFault.message : FileFault → String
  | .absent => "No such file or directory (os error 2)"
  | .notUtf8 => "stream did not contain valid UTF-8"
  | .isDirectory => "Is a directory (os error 21)"
  | .notDirectory => "Not a directory (os error 20)"

/-- Why a text has no meaning as a description or a configuration. -/
inductive TextFault where
  /-- The text breaks the rules of its format. -/
  | malformed
  /-- The text is well formed, but a member is unknown, repeated, missing or of the wrong type. -/
  | mistyped
deriving DecidableEq, Repr

def TextFault.message : TextFault → String
  | .malformed => "the text is not well formed"
  | .mistyped => "a member is unknown, repeated, missing or of the wrong type"

inductive QueryError where
  /-- A sub-query stands as a field or table without an alias. -/
  | aliasRequired
  | columnRequired
  /-- A described field has both a column and a sub-query. -/
  | columnAndSubquery
  /-- A described table has both a name and a sub-query. -/
  | nameAndSubquery
  | dialectRequired
  /-- A described select lists `null` among its fields. -/
  | fieldNull
  /-- A filter with a logic has a field. -/
  | fieldNotEmpty
  | fieldRequired
  | fieldsRequired
  | filterRequired
  /-- A filter with a logic has no place for a child. -/
  | filtersRequired
  /-- A filter has children and no logic. -/
  | logicRequired
  | nameRequired
  /-- A filter with a logic has an operator. -/
  | operatorNotEmpty
  | operatorRequired
  | tableRequired
  /-- A value stands where none is allowed. -/
  | valueNotNull
  | valueRequired
  /-- A row of an insert lacks a value for some column. -/
  | rowLength
  | valuesRequired
  /-- The operator does not accept a value of the kind. -/
  | kindForOperator (kind : Kind) (operator : Operator)
  /-- The operator accepts a list, but not with an element of the kind. -/
  | elementForOperator (kind : Kind) (operator : Operator)
  /-- A value of the kind is never bound. -/
  | kindUnbound (kind : Kind)
  | dialectUnknown (name : String)
  | tooDeep (limit : UInt64)
  /-- The next level is no word. The program reports nothing here: the addition stops it. -/
  | levelOverflow
  | takeTooLarge (limit : UInt64)
  | document (fault : TextFault)
  | config (fault : TextFault)
  | file (fault : FileFault)
deriving DecidableEq, Repr

/-- The text shown for an error. -/
def QueryError.message : QueryError → String
  | .aliasRequired => "alias is required"
  | .columnRequired => "column is required"
  | .columnAndSubquery => "conflict between field column and field select query"
  | .nameAndSubquery => "conflict between table name and table select query"
  | .dialectRequired => "dialect is required"
  | .fieldNull => "field is nil"
  | .fieldNotEmpty => "field is not empty"
  | .fieldRequired => "field is required"
  | .fieldsRequired => "fields is required"
  | .filterRequired => "filter is required"
  | .filtersRequired => "filters is required"
  | .logicRequired => "logic is required"
  | .nameRequired => "name is required"
  | .operatorNotEmpty => "operator is not empty"
  | .operatorRequired => "operator is required"
  | .tableRequired => "table is required"
  | .valueNotNull => "value is not nil"
  | .valueRequired => "value is required"
  | .rowLength => "value length is not equal to fields length"
  | .valuesRequired => "values is required"
  | .kindForOperator kind operator =>
    "unsupported " ++ kind.name ++ " value type for operator " ++ operator.name
  | .elementForOperator kind operator =>
    "unsupported " ++ kind.name ++ " type of element value for operator " ++ operator.name
  | .kindUnbound kind => "unsupported " ++ kind.name ++ " value type"
  | .dialectUnknown name => "unsupported dialect " ++ name
  | .tooDeep limit => "maximum depth of " ++ toString limit.toNat ++ " exceeded"
  | .levelOverflow => "attempt to add with overflow"
  | .takeTooLarge limit => "maximum take is " ++ toString limit.toNat
  | .document fault => "Document error: " ++ fault.message
  | .config fault => "Configuration error: " ++ fault.message
  | .file fault => "IO error: " ++ fault.message

end QueryTree
