import QueryTree.Dialect
import QueryTree.Error

/-!
Where compilation stands: the dialect, how deep the node lies below the root, and the limits that
guard against descriptions that are too deep or ask for too much.
-/

namespace QueryTree

structure Limits where
  /-- The deepest level that a filter or a sub-query may lie on. -/
  maxDepth : UInt64 := 64
  /-- The greatest number of rows that a select may ask for. -/
  maxTake : Option UInt64 := none
deriving DecidableEq, Repr

/-- The limits of a caller who sets none. -/
def Limits.standard : Limits := {}

structure Context where
  dialect : Dialect
  depth : UInt64 := 0
  limits : Limits := {}
deriving DecidableEq, Repr

/-- The context one level further down. The next level is computed before it is compared, so behind
the greatest word the addition stops the program, whatever the limit is. -/
def Context.descend (context : Context) : Except QueryError Context :=
  let depth := context.depth + 1
  if depth = 0 then .error .levelOverflow
  else if context.limits.maxDepth < depth then .error (.tooDeep context.limits.maxDepth)
  else .ok { context with depth := depth }

end QueryTree
