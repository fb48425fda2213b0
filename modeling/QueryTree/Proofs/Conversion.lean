import QueryTree.Description.Convert
import QueryTree.Proofs.Outcome

/-!
The conversion of a description, part by part. The parts of a filter and of a select that may be
absent are converted on their own here, so that a statement about a whole follows from one about
each of its parts.
-/

namespace QueryTree

def toField? : Option FieldDescription → Except QueryError (Option Field)
  | none => .ok none
  | some field => do
    let field ← field.toField
    .ok (some field)

def toTable? : Option TableDescription → Except QueryError (Option Table)
  | none => .ok none
  | some table => do
    let table ← table.toTable
    .ok (some table)

/-- The right side of a condition, which is the sub-query if there is one. -/
def toOperand? (operator : Option Operator) (value : Option Json) :
    Option SelectDescription → Except QueryError (Option Operand)
  | some query => do
    let query ← query.toSelect
    .ok (some (.subquery query))
  | none =>
    match value with
    | none => .ok none
    | some json => do
      let literal ← conditionValue operator json
      .ok (some (.value literal))

theorem FilterDescription.toFilter_eq (logic : Option Logic) (field : Option FieldDescription)
    (operator : Option Operator) (value : Option Json) (subquery : Option SelectDescription)
    (filters : List (Option FilterDescription)) :
    toFilter ⟨logic, field, operator, value, subquery, filters⟩ = (do
      let operand ← toOperand? operator value subquery
      let filters ← toFilters filters
      let field ← toField? field
      .ok ⟨logic, field, operator, operand, filters⟩) := by
  cases subquery with
  | some query => cases field <;> rfl
  | none => cases value <;> cases field <;> rfl

theorem SelectDescription.toSelect_eq (fields : List (Option FieldDescription))
    (table : Option TableDescription) (filter : Option FilterDescription)
    (sorts : List (Option SortKey)) (take : UInt64) (aliasName : Option String) :
    toSelect ⟨fields, table, filter, sorts, take, aliasName⟩ = (do
      let fields ← toFields fields
      let table ← toTable? table
      let filter ← toFilter? filter
      .ok ⟨fields, table, filter, sorts, take, aliasName⟩) := by
  cases table <;> cases filter <;> rfl

end QueryTree
