/-!
The words of a condition: how several conditions are joined, how a field is compared with a value,
and in which direction rows are sorted.
-/

namespace QueryTree

/-- How the children of a filter are joined. -/
inductive Logic where
  | and
  | or
deriving DecidableEq, Repr

namespace Logic

def all : List Logic := [.and, .or]

/-- The logic of a filter that names none. -/
def standard : Logic := .and

def keyword : Logic → String
  | .and => "and"
  | .or => "or"

end Logic

/-- What an operator asks of the value on its right. -/
inductive OperatorClass where
  /-- One scalar. -/
  | comparison
  /-- No value. -/
  | nullCheck
  /-- A list of scalars that is not empty. -/
  | membership
  /-- One string, matched anywhere in the field. -/
  | pattern
deriving DecidableEq, Repr

inductive Operator where
  | equal
  | notEqual
  | greaterThan
  | greaterThanOrEqual
  | lessThan
  | lessThanOrEqual
  | isNull
  | isNotNull
  | isIn
  | isNotIn
  | like
  | notLike
deriving DecidableEq, Repr

namespace Operator

/-- The operators in the order in which they are listed to a user. -/
def all : List Operator :=
  [.equal, .notEqual, .greaterThan, .greaterThanOrEqual, .lessThan, .lessThanOrEqual,
    .isNull, .isNotNull, .isIn, .isNotIn, .like, .notLike]

/-- The name of the operator in descriptions and in messages. -/
def name : Operator → String
  | .equal => "equal"
  | .notEqual => "not_equal"
  | .greaterThan => "greater_than"
  | .greaterThanOrEqual => "greater_than_or_equal"
  | .lessThan => "less_than"
  | .lessThanOrEqual => "less_than_or_equal"
  | .isNull => "is_null"
  | .isNotNull => "is_not_null"
  | .isIn => "in"
  | .isNotIn => "not_in"
  | .like => "like"
  | .notLike => "not_like"

/-- The spelling of the operator in SQL. A pattern operator takes its spelling from the dialect
instead; what stands here is its common form. -/
def symbol : Operator → String
  | .equal => "="
  | .notEqual => "!="
  | .greaterThan => ">"
  | .greaterThanOrEqual => ">="
  | .lessThan => "<"
  | .lessThanOrEqual => "<="
  | .isNull => "is null"
  | .isNotNull => "is not null"
  | .isIn => "in"
  | .isNotIn => "not in"
  | .like => "like"
  | .notLike => "not like"

def operatorClass : Operator → OperatorClass
  | .equal | .notEqual | .greaterThan | .greaterThanOrEqual | .lessThan | .lessThanOrEqual =>
    .comparison
  | .isNull | .isNotNull => .nullCheck
  | .isIn | .isNotIn => .membership
  | .like | .notLike => .pattern

end Operator

/-- The direction of one sort key. -/
inductive Direction where
  | ascending
  | descending
deriving DecidableEq, Repr

namespace Direction

def all : List Direction := [.ascending, .descending]

/-- The direction of a sort key that names none. -/
def standard : Direction := .ascending

def keyword : Direction → String
  | .ascending => "asc"
  | .descending => "desc"

end Direction

end QueryTree
