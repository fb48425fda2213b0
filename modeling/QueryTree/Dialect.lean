/-!
The two SQL dialects. They differ in the mark that stands for a bound argument and in the keyword
of a substring match, and in nothing else.
-/

namespace QueryTree

inductive Dialect where
  /-- Every argument is marked `?`, and matches are written with `like`. -/
  | mysql
  /-- Argument `n` is marked `$n`, and matches are written with `ilike`. -/
  | postgres
deriving DecidableEq, Repr

namespace Dialect

/-- The dialects in the order in which they are listed to a user. -/
def all : List Dialect := [.mysql, .postgres]

/-- The dialect of a configuration that names none. -/
def standard : Dialect := .postgres

def name : Dialect → String
  | .mysql => "mysql"
  | .postgres => "postgres"

/-- The mark of argument `n`, where arguments are counted from one. -/
def mark : Dialect → Nat → String
  | .mysql, _ => "?"
  | .postgres, n => "$" ++ toString n

/-- The marks of the arguments `first` to `last`, both included. A range that starts below one or
ends before it starts has no text. -/
def placeholder (dialect : Dialect) (first last : Nat) : String :=
  if first = 0 ∨ last < first then ""
  else ", ".intercalate ((List.range' first (last - first + 1)).map dialect.mark)

/-- The mark of the last of `count` arguments, which is the one that was bound just now. -/
def lastPlaceholder (dialect : Dialect) (count : Nat) : String :=
  dialect.placeholder count count

/-- The keyword of a substring match, and of its negation. -/
def likeKeyword : Dialect → (negated : Bool) → String
  | .mysql, false => "like"
  | .mysql, true => "not like"
  | .postgres, false => "ilike"
  | .postgres, true => "not ilike"

end Dialect

end QueryTree
