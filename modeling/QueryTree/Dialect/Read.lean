import QueryTree.Dialect
import QueryTree.Error
import QueryTree.Text.Blank
import QueryTree.Text.Lower

/-!
Dialects by their names as a user may write them.
-/

namespace QueryTree

/-- The names of the dialects in small letters, with the short ones. -/
def Dialect.ofName? (name : String) : Option Dialect :=
  if name = "mysql" then some .mysql
  else if name = "postgres" ∨ name = "postgresql" ∨ name = "pg" then some .postgres
  else none

/-- The dialect of a name in letters of either case, between any white space. -/
def Dialect.read (text : String) : Except QueryError Dialect :=
  let name := String.ofList (Text.lower (Text.trim text.toList))
  if name.isEmpty then .error .dialectRequired
  else match ofName? name with
    | some dialect => .ok dialect
    | none => .error (.dialectUnknown name)

end QueryTree
