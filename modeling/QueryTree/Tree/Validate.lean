import QueryTree.Tree

/-!
The checks that come before any text is written. A field, a table and a select are checked on their
own, for their parts are checked when they are compiled; a filter is checked as a whole tree, so
that it compiles completely or not at all.
-/

namespace QueryTree

/-- Refuses with `error` unless the condition holds. -/
def ensure (condition : Bool) (error : QueryError) : Except QueryError Unit :=
  if condition then .ok () else .error error

/-- A column has a name, and a sub-query has an alias. -/
def Field.validate : Field → Except QueryError Unit
  | .column _ name _ => ensure (!name.isEmpty) .columnRequired
  | .subquery _ aliasName => ensure (shownAlias aliasName).isSome .aliasRequired

/-- A table is named, or it is a sub-query that has an alias. -/
def Table.validate : Table → Except QueryError Unit
  | .named name _ => ensure (!name.isEmpty) .nameRequired
  | .subquery _ aliasName => ensure (shownAlias aliasName).isSome .aliasRequired

/-- A select lists fields, reads from a table and asks for no more rows than allowed. -/
def Select.validate (context : Context) (query : Select) : Except QueryError Unit := do
  ensure (!query.fields.isEmpty) .fieldsRequired
  ensure query.table.isSome .tableRequired
  match context.limits.maxTake with
  | none => .ok ()
  | some limit => ensure (query.take ≤ limit) (.takeTooLarge limit)

/-- Whether an operator accepts a literal on its right. The operators without a value are settled
before this is asked. -/
def Operator.checkValue (operator : Operator) (value : Value) : Except QueryError Unit :=
  match operator.operatorClass with
  | .nullCheck => .ok ()
  | .comparison => ensure value.kind.isScalar (.kindForOperator value.kind operator)
  | .pattern => ensure (value.kind == .string) (.kindForOperator value.kind operator)
  | .membership =>
    match value with
    | .list items => do
      ensure (!items.isEmpty) .valueRequired
      match items.find? (fun item => !item.kind.isScalar) with
      | some item => .error (.elementForOperator item.kind operator)
      | none => .ok ()
    | value => .error (.kindForOperator value.kind operator)

namespace Filter

/-- The node has a value other than a literal null. -/
def hasValue (filter : Filter) : Bool :=
  filter.value.any (fun operand => !operand.isNull)

/-- A condition has a field, an operator, and the value that the operator asks for. -/
def checkCondition (filter : Filter) : Except QueryError Unit := do
  ensure filter.field.isSome .fieldRequired
  match filter.operator with
  | none => .error .operatorRequired
  | some operator =>
    if operator.operatorClass = .nullCheck then
      ensure (!filter.hasValue) .valueNotNull
    else match filter.value with
      | some (.subquery _) => .ok ()
      | some (.value literal) =>
        if literal.isNull then .error .valueRequired else operator.checkValue literal
      | none => .error .valueRequired

/-- A node is either a condition, or a logic with places for children and nothing else. -/
def checkShape (filter : Filter) : Except QueryError Unit :=
  match filter.logic with
  | some _ => do
    ensure filter.field.isNone .fieldNotEmpty
    ensure filter.operator.isNone .operatorNotEmpty
    ensure (!filter.hasValue) .valueNotNull
    ensure (!filter.filters.isEmpty) .filtersRequired
  | none => do
    ensure filter.filters.isEmpty .logicRequired
    filter.checkCondition

mutual

/-- The node has the shape of one, and so have all of its children, which lie one level deeper. -/
def validate (context : Context) : Filter → Except QueryError Unit
  | ⟨logic, field, operator, value, filters⟩ => do
    checkShape ⟨logic, field, operator, value, filters⟩
    if filters.any Option.isSome then
      let inner ← context.descend
      validateAll inner filters
    else .ok ()

def validateAll (context : Context) : List (Option Filter) → Except QueryError Unit
  | [] => .ok ()
  | none :: rest => validateAll context rest
  | some child :: rest => do
    child.validate context
    validateAll context rest

end

end Filter

end QueryTree
