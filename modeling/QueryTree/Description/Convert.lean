import QueryTree.Description
import QueryTree.Value.Json

/-!
Turning a description into the statement that it describes. What is refused here are the things that
only a description can say; whether the statement makes sense is checked when it is compiled.
-/

namespace QueryTree

/-- An item of a described list that has no value. The message names the item if the operator is one
of membership, and the list if it is not. -/
def itemError (operator : Operator) (item : Json) : QueryError :=
  if operator.operatorClass = .membership then
    match item with
    | .array _ => .elementForOperator .list operator
    | _ => .elementForOperator .map operator
  else .kindForOperator .list operator

/-- The values of the items of a described list. -/
def itemValues (operator : Operator) : List Json → Except QueryError (List Value)
  | [] => .ok []
  | item :: rest =>
    match Value.ofJson item with
    | .error _ => .error (itemError operator item)
    | .ok value => do
      let values ← itemValues operator rest
      .ok (value :: values)

/-- The literal of a described condition. An error names the operator if there is one. -/
def conditionValue (operator : Option Operator) (json : Json) : Except QueryError Value :=
  match operator, json with
  | none, json => Value.ofJson json
  | some operator, .object _ => .error (.kindForOperator .map operator)
  | some operator, .array items => do
    let values ← itemValues operator items
    .ok (.list values)
  | some _, scalar => Value.ofJson scalar

mutual

def FieldDescription.toField : FieldDescription → Except QueryError Field
  | .column name => .ok (.column none name none)
  | .full table column subquery aliasName =>
    match subquery with
    | none =>
      match column with
      | none => .error .columnRequired
      | some name => .ok (.column table name aliasName)
    | some query =>
      if (shownAlias column).isSome then .error .columnAndSubquery
      else do
        let query ← query.toSelect
        .ok (.subquery query aliasName)

def TableDescription.toTable : TableDescription → Except QueryError Table
  | .named name => .ok (.named name none)
  | .full name subquery aliasName =>
    match subquery with
    | none =>
      match name with
      | none => .error .nameRequired
      | some name => .ok (.named name aliasName)
    | some query =>
      if (shownAlias name).isSome then .error .nameAndSubquery
      else do
        let query ← query.toSelect
        .ok (.subquery query aliasName)

/-- The right side is converted first, then the children, then the field. -/
def FilterDescription.toFilter : FilterDescription → Except QueryError Filter
  | ⟨logic, field, operator, value, subquery, filters⟩ => do
    let operand ← (match subquery with
      | some query => do
        let query ← query.toSelect
        .ok (some (Operand.subquery query))
      | none =>
        match value with
        | some json => do
          let literal ← conditionValue operator json
          .ok (some (.value literal))
        | none => .ok none)
    let filters ← toFilters filters
    let field ← (match field with
      | some field => do
        let field ← field.toField
        .ok (some field)
      | none => .ok none)
    .ok ⟨logic, field, operator, operand, filters⟩

def toFilters : List (Option FilterDescription) → Except QueryError (List (Option Filter))
  | [] => .ok []
  | none :: rest => do
    let filters ← toFilters rest
    .ok (none :: filters)
  | some child :: rest => do
    let filter ← child.toFilter
    let filters ← toFilters rest
    .ok (some filter :: filters)

def toFields : List (Option FieldDescription) → Except QueryError (List Field)
  | [] => .ok []
  | none :: _ => .error .fieldNull
  | some field :: rest => do
    let field ← field.toField
    let fields ← toFields rest
    .ok (field :: fields)

/-- The fields are converted first, then the table, then the filter. -/
def SelectDescription.toSelect : SelectDescription → Except QueryError Select
  | ⟨fields, table, filter, sorts, take, aliasName⟩ => do
    let fields ← toFields fields
    let table ← (match table with
      | some table => do
        let table ← table.toTable
        .ok (some table)
      | none => .ok none)
    let filter ← (match filter with
      | some filter => do
        let filter ← filter.toFilter
        .ok (some filter)
      | none => .ok none)
    .ok ⟨fields, table, filter, sorts, take, aliasName⟩

end

/-- The filter of a statement, if it has one. -/
def toFilter? : Option FilterDescription → Except QueryError (Option Filter)
  | none => .ok none
  | some filter => do
    let filter ← filter.toFilter
    .ok (some filter)

def InsertDescription.toInsert (description : InsertDescription) : Except QueryError Insert := do
  let cells ← description.cells.traverse Value.ofJsonItems
  .ok ⟨description.table, cells⟩

/-- The assignments made one after the other, so that a column keeps its place and takes the last
of its values. -/
def assignAll : List (String × Json) → (assigned : List (String × Value)) →
    Except QueryError (List (String × Value))
  | [], assigned => .ok assigned
  | (column, json) :: rest, assigned => do
    let value ← Value.ofJson json
    assignAll rest (assign column value assigned)

def UpdateDescription.toUpdate (description : UpdateDescription) : Except QueryError Update := do
  let assignments ← assignAll description.assignments []
  let filter ← toFilter? description.filter
  .ok ⟨description.table, assignments, filter⟩

def DeleteDescription.toDelete (description : DeleteDescription) : Except QueryError Delete := do
  let filter ← toFilter? description.filter
  .ok ⟨description.table, filter⟩

def Description.toStatement : Description → Except QueryError Statement
  | .select description => Statement.select <$> description.toSelect
  | .insert description => Statement.insert <$> description.toInsert
  | .update description => Statement.update <$> description.toUpdate
  | .delete description => Statement.delete <$> description.toDelete

end QueryTree
