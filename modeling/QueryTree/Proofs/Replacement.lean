import QueryTree.Proofs.Compilation

/-!
Literals in the place of other literals. A replacement goes through a whole statement, sub-queries
included, and touches nothing but the literals and the limits of the selects: lists stay lists of
the same length, and no limit comes or goes.

A replaced tree is rendered as the tree itself but for what its slots hold, and a slot is filled
with a mark whatever it holds. So the texts of the two are the same.
-/

namespace QueryTree

open Piece

structure Replacement where
  literal : Value → Value
  take : UInt64 → UInt64
  literal_ne_list : ∀ value, value.kind ≠ .list → (literal value).kind ≠ .list
  take_eq_zero : ∀ n, take n = 0 ↔ n = 0

section Replacing

variable (r : Replacement)

mutual

/-- The literals inside of a list are replaced one by one. -/
def Value.replace : Value → Value
  | .list items => .list (Value.replaceAll items)
  | literal => r.literal literal

def Value.replaceAll : List Value → List Value
  | [] => []
  | item :: rest => item.replace :: Value.replaceAll rest

end

mutual

def Field.replace : Field → Field
  | .column table name aliasName => .column table name aliasName
  | .subquery query aliasName => .subquery query.replace aliasName

def Table.replace : Table → Table
  | .named name aliasName => .named name aliasName
  | .subquery query aliasName => .subquery query.replace aliasName

def Operand.replace : Operand → Operand
  | .value literal => .value (literal.replace r)
  | .subquery query => .subquery query.replace

def Filter.replace : Filter → Filter
  | ⟨logic, field, operator, value, filters⟩ =>
    ⟨logic, replaceLeft field, operator, replaceRight value, replaceChildren filters⟩

def replaceLeft : Option Field → Option Field
  | none => none
  | some field => some field.replace

def replaceRight : Option Operand → Option Operand
  | none => none
  | some operand => some operand.replace

def replaceChildren : List (Option Filter) → List (Option Filter)
  | [] => []
  | none :: rest => none :: replaceChildren rest
  | some child :: rest => some child.replace :: replaceChildren rest

def replaceFields : List Field → List Field
  | [] => []
  | field :: rest => field.replace :: replaceFields rest

def replaceSource : Option Table → Option Table
  | none => none
  | some table => some table.replace

def replaceWhere : Option Filter → Option Filter
  | none => none
  | some filter => some filter.replace

def Select.replace : Select → Select
  | ⟨fields, table, filter, sorts, take, aliasName⟩ =>
    ⟨replaceFields fields, replaceSource table, replaceWhere filter, sorts, r.take take,
      aliasName⟩

end

end Replacing

/-- The same columns with every cell changed. -/
def Columns.map {α β : Type} (f : α → β) (columns : Columns α) : Columns β :=
  ⟨columns.entries.map fun (name, cells) => (name, cells.map f), by
    simpa [Function.comp_def] using columns.ascending⟩

def Insert.replace (r : Replacement) (query : Insert) : Insert :=
  ⟨query.table, query.cells.map (Value.replace r)⟩

def Update.replace (r : Replacement) (query : Update) : Update :=
  ⟨query.table, query.assignments.map fun (column, value) => (column, value.replace r),
    replaceWhere r query.filter⟩

def Delete.replace (r : Replacement) (query : Delete) : Delete :=
  ⟨query.table, replaceWhere r query.filter⟩

def Statement.replace (r : Replacement) : Statement → Statement
  | .select query => .select (query.replace r)
  | .insert query => .insert (query.replace r)
  | .update query => .update (query.replace r)
  | .delete query => .delete (query.replace r)

section Values

variable (r : Replacement)

theorem Value.replaceAll_eq_map (items : List Value) :
    Value.replaceAll r items = items.map (Value.replace r) := by
  induction items with
  | nil => rfl
  | cons item rest ih => rw [replaceAll, List.map_cons, ih]

theorem Value.replace_list (items : List Value) :
    (Value.list items).replace r = .list (items.map (Value.replace r)) := by
  rw [replace, replaceAll_eq_map]

theorem Value.list_or_single (value : Value) :
    (∃ items, value = .list items) ∨ value.kind ≠ .list := by
  cases value with
  | list items => exact .inl ⟨items, rfl⟩
  | _ => exact .inr nofun

theorem Value.replace_single {value : Value} (h : value.kind ≠ .list) :
    value.replace r = r.literal value := by
  cases value with
  | list items => exact absurd rfl h
  | _ => rfl

end Values

namespace Piece

/-- The piece without what its slot holds. -/
def erased : Piece → Piece
  | .text s => .text s
  | .slot _ => .slot .null
  | .like negated => .like negated

def erase (pieces : List Piece) : List Piece :=
  pieces.map erased

theorem fill_erase (dialect : Dialect) (count : Nat) (pieces : List Piece) :
    fill dialect count (erase pieces) = fill dialect count pieces := by
  induction pieces generalizing count with
  | nil => rfl
  | cons piece rest ih =>
    have htail (n : Nat) : fill dialect n (rest.map erased) = fill dialect n rest := ih n
    cases piece <;> simp [erase, erased, fill, htail]

@[simp] theorem erase_append (left right : List Piece) :
    erase (left ++ right) = erase left ++ erase right :=
  List.map_append

@[simp] theorem erase_nil : erase [] = [] := rfl

@[simp] theorem erase_text (s : String) (rest : List Piece) :
    erase (.text s :: rest) = .text s :: erase rest := rfl

theorem erase_intercalate (separator : String) (parts : List (List Piece)) :
    erase ([.text separator].intercalate parts) =
      [.text separator].intercalate (parts.map erase) :=
  map_intercalate erase_nil erase_append [.text separator] parts

theorem erase_commaSeparated (parts : List (List Piece)) :
    erase (commaSeparated parts) = commaSeparated (parts.map erase) :=
  erase_intercalate ", " parts

theorem erase_grouped (pieces : List Piece) : erase (grouped pieces) = grouped (erase pieces) := by
  simp [grouped]

theorem erase_renamed (aliasName : Option String) (pieces : List Piece) :
    erase (renamed aliasName pieces) = renamed aliasName (erase pieces) := by
  unfold renamed
  cases shownAlias aliasName with
  | none => rfl
  | some name => simp

theorem erase_embedded (aliasName : Option String) (pieces : List Piece) :
    erase (embedded aliasName pieces) = embedded aliasName (erase pieces) := by
  unfold embedded
  cases shownAlias aliasName with
  | none => exact erase_grouped pieces
  | some name => simp only [erase_grouped, erase_renamed]

theorem erase_ofCondition (operator : Operator) (left right : List Piece) :
    erase (ofCondition operator left right) = ofCondition operator (erase left) (erase right) := by
  unfold ofCondition
  cases operator.operatorClass <;> simp [erase, erased]

theorem erase_joined (logic : Option Logic) (root : Bool) (parts : List (List Piece)) :
    erase (joined logic root parts) = joined logic root (parts.map erase) := by
  have hempty : ∀ part ∈ parts, erase part = [] ↔ part = [] :=
    fun _ _ => List.map_eq_nil_iff
  unfold joined
  rw [filter_nonempty_map hempty]
  cases parts.filter (fun part => !part.isEmpty) with
  | nil => rfl
  | cons part rest =>
    cases root with
    | true => exact erase_intercalate _ _
    | false => exact (erase_grouped _).trans (congrArg grouped (erase_intercalate _ _))

theorem erase_ofWhere (condition : List Piece) :
    erase (ofWhere condition) = ofWhere (erase condition) := by
  cases condition <;> simp [ofWhere, erase, erased]

/-- A row of slots is known from its length. -/
theorem erase_slots_replace (r : Replacement) (values : List Value) :
    ((values.map (Value.replace r)).map fun value => [Piece.slot value]).map erase =
      (values.map fun value => [Piece.slot value]).map erase := by
  simp [Function.comp_def, erase, erased]

theorem erase_ofLiteral (r : Replacement) (operator : Operator) (literal : Value) :
    erase (ofLiteral operator (literal.replace r)) = erase (ofLiteral operator literal) := by
  by_cases hclass : operator.operatorClass = .membership
  · rcases literal.list_or_single with ⟨items, rfl⟩ | hsingle
    · simp only [Value.replace_list, ofLiteral, hclass]
      rw [erase_grouped, erase_commaSeparated, erase_slots_replace, ← erase_commaSeparated,
        ← erase_grouped]
    · have hnone {value : Value} (h : value.kind ≠ .list) : ofLiteral operator value = [] := by
        cases value with
        | list items => exact absurd rfl h
        | _ => simp only [ofLiteral, hclass]
      rw [Value.replace_single r hsingle, hnone hsingle, hnone (r.literal_ne_list _ hsingle)]
  · rw [ofLiteral_single hclass, ofLiteral_single hclass]
    rfl

theorem erase_ofTake (r : Replacement) (take : UInt64) :
    erase (ofTake (r.take take)) = erase (ofTake take) := by
  unfold ofTake
  by_cases hzero : take = 0
  · rw [if_pos hzero, if_pos ((r.take_eq_zero take).mpr hzero)]
  · rw [if_neg hzero, if_neg (mt (r.take_eq_zero take).mp hzero)]
    rfl

end Piece

section Rendered

variable (r : Replacement)

theorem Field.aliasName_replace (field : Field) :
    (field.replace r).aliasName = field.aliasName := by
  cases field <;> rfl

theorem Table.aliasName_replace (table : Table) :
    (table.replace r).aliasName = table.aliasName := by
  cases table <;> rfl

theorem Select.aliasName_replace (query : Select) :
    (query.replace r).aliasName = query.aliasName := by
  cases query
  rfl

mutual

theorem Field.erase_replace : ∀ (field : Field),
    erase (field.replace r).pieces = erase field.pieces
  | .column _ _ _ => rfl
  | .subquery query aliasName => by
    rw [Field.replace, Field.pieces, Field.pieces, erase_embedded, erase_embedded,
      query.aliasName_replace, query.erase_replace]

theorem Table.erase_replace : ∀ (table : Table),
    erase (table.replace r).pieces = erase table.pieces
  | .named _ _ => rfl
  | .subquery query aliasName => by
    rw [Table.replace, Table.pieces, Table.pieces, erase_embedded, erase_embedded,
      query.aliasName_replace, query.erase_replace]

theorem Operand.erase_replace (operator : Operator) : ∀ (operand : Operand),
    erase ((operand.replace r).pieces operator) = erase (operand.pieces operator)
  | .value literal => erase_ofLiteral r operator literal
  | .subquery query => by
    rw [Operand.replace, Operand.pieces, Operand.pieces, erase_embedded, erase_embedded,
      query.aliasName_replace, query.erase_replace]

theorem erase_operand_replace (operator : Operator) : ∀ (value : Option Operand),
    erase (operandPieces operator (replaceRight r value)) = erase (operandPieces operator value)
  | none => rfl
  | some operand => operand.erase_replace operator

theorem Filter.erase_replace (root : Bool) : ∀ (filter : Filter),
    erase ((filter.replace r).pieces root) = erase (filter.pieces root)
  | ⟨logic, field, none, value, filters⟩ => by
    rw [Filter.replace, Filter.pieces, Filter.pieces, erase_joined, erase_joined,
      erase_children_replace filters]
  | ⟨_, none, some _, _, _⟩ => rfl
  | ⟨logic, some field, some operator, value, filters⟩ => by
    rw [Filter.replace, replaceLeft, Filter.pieces, Filter.pieces, erase_ofCondition,
      erase_ofCondition, field.erase_replace, erase_operand_replace operator value]

theorem erase_children_replace : ∀ (filters : List (Option Filter)),
    (childPieces (replaceChildren r filters)).map erase = (childPieces filters).map erase
  | [] => rfl
  | none :: rest => erase_children_replace rest
  | some child :: rest => by
    rw [replaceChildren, childPieces, childPieces, List.map_cons, List.map_cons,
      child.erase_replace false, erase_children_replace rest]

theorem erase_fields_replace : ∀ (fields : List Field),
    (fieldPieces (replaceFields r fields)).map erase = (fieldPieces fields).map erase
  | [] => rfl
  | field :: rest => by
    rw [replaceFields, fieldPieces, fieldPieces, List.map_cons, List.map_cons, erase_renamed,
      erase_renamed, field.aliasName_replace, field.erase_replace, erase_fields_replace rest]

theorem erase_source_replace : ∀ (table : Option Table),
    erase (sourcePieces (replaceSource r table)) = erase (sourcePieces table)
  | none => rfl
  | some table => by
    rw [replaceSource, sourcePieces, sourcePieces, erase_renamed, erase_renamed,
      table.aliasName_replace, table.erase_replace]

theorem erase_where_replace : ∀ (filter : Option Filter),
    erase (wherePieces (replaceWhere r filter)) = erase (wherePieces filter)
  | none => rfl
  | some filter => by
    rw [replaceWhere, wherePieces, wherePieces, erase_ofWhere, erase_ofWhere,
      filter.erase_replace true]

theorem Select.erase_replace : ∀ (query : Select),
    erase (query.replace r).pieces = erase query.pieces
  | ⟨fields, table, filter, sorts, take, aliasName⟩ => by
    rw [Select.replace, Select.pieces, Select.pieces]
    simp only [erase_append, erase_commaSeparated, erase_fields_replace fields,
      erase_source_replace table, erase_where_replace filter, erase_ofTake]

end

end Rendered

end QueryTree
