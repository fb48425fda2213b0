import QueryTree.Statement.Update

/-!
The four statements under one name. A statement is compiled on its own, so no arguments are bound
before it.
-/

namespace QueryTree

inductive Statement where
  | select (query : Select)
  | insert (query : Insert)
  | update (query : Update)
  | delete (query : Delete)

namespace Statement

def compile (context : Context) : Statement → Except QueryError Compiled
  | .select query => query.compile context #[]
  | .insert query => query.compile context
  | .update query => query.compile context
  | .delete query => query.compile context

end Statement

end QueryTree
