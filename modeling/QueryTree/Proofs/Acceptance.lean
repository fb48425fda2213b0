import QueryTree.Tree.Compile

/-!
Whether a query tree compiles. The checks that the compiler makes are gathered here in the order in
which it makes them, without the texts and the arguments: they depend on the tree, on the limits and
on how deep the tree lies.
-/

namespace QueryTree

/-- Where a list is asked for, there has to be one, and its elements have to be scalars. -/
def Operand.acceptMembers (operator : Operator) (operand : Operand) : Except QueryError Unit :=
  if operator.operatorClass = .membership then (operand.members? operator).map fun _ => ()
  else .ok ()

mutual

def Field.accept (context : Context) : Field → Except QueryError Unit
  | .column table name aliasName => (Field.column table name aliasName).validate
  | .subquery query aliasName => do
    (Field.subquery query aliasName).validate
    let inner ← context.descend
    query.accept inner

def Table.accept (context : Context) : Table → Except QueryError Unit
  | .named name aliasName => (Table.named name aliasName).validate
  | .subquery query aliasName => do
    (Table.subquery query aliasName).validate
    let inner ← context.descend
    query.accept inner

def Operand.accept (context : Context) : Operand → Except QueryError Unit
  | .value _ => .ok ()
  | .subquery query => do
    let inner ← context.descend
    query.accept inner

/-- The right side of a condition. A null check does not look at it. -/
def acceptOperand (context : Context) (operator : Operator) :
    Option Operand → Except QueryError Unit
  | none => ensure (operator.operatorClass == .nullCheck) .valueRequired
  | some operand =>
    if operator.operatorClass = .nullCheck then .ok ()
    else do
      operand.acceptMembers operator
      operand.accept context

/-- What compiling a filter still refuses, whether or not the filter was validated before. -/
def Filter.acceptNode (context : Context) : Filter → Except QueryError Unit
  | ⟨_, _, none, _, filters⟩ =>
    if filters.isEmpty then .ok ()
    else do
      let inner ← context.descend
      acceptChildren inner filters
  | ⟨_, none, some _, _, _⟩ => .error .fieldRequired
  | ⟨_, some field, some operator, value, _⟩ => do
    field.accept context
    acceptOperand context operator value

def acceptChildren (context : Context) : List (Option Filter) → Except QueryError Unit
  | [] => .ok ()
  | none :: rest => acceptChildren context rest
  | some child :: rest => do
    child.acceptNode context
    acceptChildren context rest

def acceptFields (context : Context) : List Field → Except QueryError Unit
  | [] => .ok ()
  | field :: rest => do
    field.accept context
    acceptFields context rest

def acceptTable (context : Context) : Option Table → Except QueryError Unit
  | none => .error .tableRequired
  | some table => table.accept context

/-- The condition of a select is validated as a whole before any part of it is compiled. -/
def acceptWhere (context : Context) : Option Filter → Except QueryError Unit
  | none => .ok ()
  | some filter => do
    filter.validate context
    filter.acceptNode context

def Select.accept (context : Context) : Select → Except QueryError Unit
  | ⟨fields, table, filter, sorts, take, aliasName⟩ => do
    Select.validate context ⟨fields, table, filter, sorts, take, aliasName⟩
    acceptFields context fields
    acceptTable context table
    acceptWhere context filter
    let _ ← sortTexts sorts
    .ok ()

end

/-- A filter by itself is validated as a whole before it is compiled. -/
def Filter.accept (context : Context) (filter : Filter) : Except QueryError Unit := do
  filter.validate context
  filter.acceptNode context

end QueryTree
