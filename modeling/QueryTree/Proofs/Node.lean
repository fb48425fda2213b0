import QueryTree.Proofs.Compilation
import QueryTree.Proofs.Parallel

/-!
The nodes of a query tree under one name. Every node that is compiled behind some arguments does so
in two steps. Its checks decide whether it is refused, and read neither the dialect nor the
arguments. If they pass, what is written is the draft of the node, which depends on nothing at all:
only the writing of it chooses a dialect and counts on from the arguments.
-/

namespace QueryTree

open Piece

/-- What a node contributes, whatever the dialect is and whatever was bound before: a rendering, and
the values that it binds. -/
structure Draft where
  pieces : List Piece
  own : List Value

namespace Draft

/-- The draft of a node that marks all it binds. -/
def ofPieces (pieces : List Piece) : Draft := ⟨pieces, slots pieces⟩

/-- The draft in a dialect, behind the arguments that were bound before. -/
def write (dialect : Dialect) (seed : Array Value) (draft : Draft) : Compiled :=
  ⟨fill dialect seed.size draft.pieces, seed ++ draft.own⟩

end Draft

/-- A literal by itself is bound and writes nothing, for its mark depends on the condition in which
it stands. -/
def Operand.draft : Operand → Draft
  | .value literal => ⟨[], [literal]⟩
  | .subquery query => .ofPieces (embedded query.aliasName query.pieces)

theorem Operand.compile_eq (context : Context) (operand : Operand) (args : Array Value) :
    operand.compile context args =
      (operand.accept context).map fun _ => operand.draft.write context.dialect args := by
  cases operand with
  | value literal => simp [compile, accept, draft, Draft.write, fill]
  | subquery query =>
    rw [compile, accept]
    exact query.compile_embedded context args fun inner => query.compile_eq inner args

/-- A part of a query tree. A filter is the root of a condition, or nested in a larger one. -/
inductive Node where
  | field (field : Field)
  | table (table : Table)
  | operand (operand : Operand)
  | filter (filter : Filter)
  | nested (filter : Filter)
  | select (query : Select)

namespace Node

def compile (context : Context) : Node → (args : Array Value) → Except QueryError Compiled
  | .field part => part.compile context
  | .table part => part.compile context
  | .operand part => part.compile context
  | .filter part => part.compile context
  | .nested part => part.compileNested context
  | .select query => query.compile context

/-- The checks of a node. -/
def accept (context : Context) : Node → Except QueryError Unit
  | .field part => part.accept context
  | .table part => part.accept context
  | .operand part => part.accept context
  | .filter part | .nested part => part.accept context
  | .select query => query.accept context

def draft : Node → Draft
  | .field part => .ofPieces part.pieces
  | .table part => .ofPieces part.pieces
  | .operand part => part.draft
  | .filter part => .ofPieces (part.pieces true)
  | .nested part => .ofPieces (part.pieces false)
  | .select query => .ofPieces query.pieces

theorem compile_eq (context : Context) (node : Node) (args : Array Value) :
    node.compile context args =
      (node.accept context).map fun _ => node.draft.write context.dialect args := by
  cases node with
  | field part => exact part.compile_eq context args
  | table part => exact part.compile_eq context args
  | operand part => exact part.compile_eq context args
  | filter part => exact part.compile_eq context args
  | nested part => exact part.compileNested_eq context args
  | select query => exact query.compile_eq context args

theorem accept_agree {excused : QueryError → Prop} {related : Context → Context → Prop}
    (h : Parallel excused related) {first second : Context} (hrelated : related first second)
    (node : Node) : AgreeUnless excused (node.accept first) (node.accept second) := by
  cases node with
  | field part => exact part.accept_agree h hrelated
  | table part => exact part.accept_agree h hrelated
  | operand part => exact part.accept_agree h hrelated
  | filter part => exact part.accept_agree h hrelated
  | nested part => exact part.accept_agree h hrelated
  | select query => exact query.accept_agree h hrelated

end Node

end QueryTree
