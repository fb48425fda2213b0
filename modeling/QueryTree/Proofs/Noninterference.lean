import QueryTree.Proofs.Outcome
import QueryTree.Proofs.Replacement
import QueryTree.Tree.Build

/-!
Literals do not influence the text of a statement. Two statements that differ in their literals only
have the same text if both compile, and if their literals are of the same kinds then both compile or
neither does. So the text of a statement tells nothing about what its literals hold, and no literal
can break out of its place.
-/

namespace QueryTree

open Piece

section Cells

variable {α β : Type} (f : α → β) (columns : Columns α)

theorem Columns.names_map : (columns.map f).names = columns.names := by
  simp [Columns.map, names, Function.comp_def]

theorem Columns.values_map : (columns.map f).values = columns.values.map (List.map f) := by
  simp [Columns.map, values, Function.comp_def]

theorem Columns.rowCount_map : (columns.map f).rowCount = columns.rowCount := by
  simp [rowCount, values_map, Function.comp_def]

theorem Columns.row_map (index : Nat) : (columns.map f).row index = (columns.row index).map f := by
  rw [row, row, values_map, List.filterMap_map, List.map_filterMap]
  congr 1
  funext cells
  simp

theorem Columns.rows_map : (columns.map f).rows = columns.rows.map (List.map f) := by
  simp [rows, rowCount_map, row_map, Function.comp_def]

end Cells

section Texts

variable (r : Replacement)

theorem erase_rows_replace (rows : List (List Value)) :
    ((rows.map (List.map (Value.replace r))).map rowPieces).map erase =
      (rows.map rowPieces).map erase := by
  induction rows with
  | nil => rfl
  | cons row rest ih =>
    simp only [List.map_cons, ih, rowPieces]
    rw [erase_grouped, erase_grouped, erase_commaSeparated, erase_commaSeparated,
      erase_slots_replace]

theorem erase_assignments_replace (assignments : List (String × Value)) :
    (assignmentPieces (assignments.map fun (column, value) => (column, value.replace r))).map
        erase = (assignmentPieces assignments).map erase := by
  simp [assignmentPieces, Function.comp_def, erase, erased]

theorem Statement.erase_replace (statement : Statement) :
    erase (statement.replace r).pieces = erase statement.pieces := by
  cases statement with
  | select query => exact query.erase_replace r
  | insert query =>
    rw [replace, pieces, pieces, Insert.replace, Insert.pieces, Insert.pieces, erase_append,
      erase_append, erase_commaSeparated, erase_commaSeparated]
    simp only [Columns.names_map, Columns.rows_map, erase_rows_replace]
  | update query =>
    rw [replace, pieces, pieces, Update.replace, Update.pieces, Update.pieces]
    simp only [erase_append, erase_commaSeparated, erase_assignments_replace, erase_where_replace]
  | delete query =>
    rw [replace, pieces, pieces, Delete.replace, Delete.pieces, Delete.pieces]
    simp only [erase_append, erase_where_replace]

end Texts

/-- The replacement keeps the kind of every literal and every limit. -/
structure Replacement.KeepsKinds (r : Replacement) : Prop where
  literal : ∀ value, value.kind ≠ .list → (r.literal value).kind = value.kind
  take : ∀ n, r.take n = n

section Presence

variable (r : Replacement)

theorem isEmpty_replaceChildren (filters : List (Option Filter)) :
    (replaceChildren r filters).isEmpty = filters.isEmpty := by
  cases filters with
  | nil => rfl
  | cons entry rest => cases entry <;> rfl

theorem any_isSome_replaceChildren (filters : List (Option Filter)) :
    (replaceChildren r filters).any Option.isSome = filters.any Option.isSome := by
  induction filters with
  | nil => rfl
  | cons entry rest ih => cases entry <;> simp [replaceChildren, ih]

theorem isSome_replaceWhere (filter : Option Filter) :
    (replaceWhere r filter).isSome = filter.isSome := by
  cases filter <;> rfl

end Presence

theorem Operator.checkValue_single {operator : Operator} {value : Value}
    (hclass : operator.operatorClass = .membership) (hsingle : value.kind ≠ .list) :
    operator.checkValue value = .error (.kindForOperator value.kind operator) := by
  cases value with
  | list items => exact absurd rfl hsingle
  | _ => simp [checkValue, hclass]

theorem Operand.members?_single (operator : Operator) {value : Value}
    (hsingle : value.kind ≠ .list) :
    (Operand.value value).members? operator = .error (.kindForOperator value.kind operator) := by
  cases value with
  | list items => exact absurd rfl hsingle
  | _ => rfl

section Acceptance

variable {r : Replacement} (h : r.KeepsKinds)
include h

theorem Value.kind_replace (value : Value) : (value.replace r).kind = value.kind := by
  rcases value.list_or_single with ⟨items, rfl⟩ | hsingle
  · rw [replace_list]
    rfl
  · rw [replace_single r hsingle, h.literal value hsingle]

theorem Value.isNull_replace (value : Value) : (value.replace r).isNull = value.isNull := by
  rw [isNull, isNull, kind_replace h]

theorem Value.checkBindable_replace (value : Value) :
    (value.replace r).checkBindable = value.checkBindable := by
  simp only [checkBindable, isBindable, isNull_replace h, kind_replace h]

/-- The first element that is no scalar is found at the same place. -/
theorem find_unbound_replace (items : List Value) :
    (items.map (Value.replace r)).find? (fun item => !item.kind.isScalar) =
      (items.find? fun item => !item.kind.isScalar).map (Value.replace r) := by
  rw [List.find?_map]
  congr 2
  funext item
  simp [Value.kind_replace h]

theorem Operator.checkValue_replace (operator : Operator) (value : Value) :
    operator.checkValue (value.replace r) = operator.checkValue value := by
  have hkind := Value.kind_replace h value
  cases hclass : operator.operatorClass with
  | nullCheck => simp only [checkValue, hclass]
  | comparison => simp only [checkValue, hclass, hkind]
  | pattern => simp only [checkValue, hclass, hkind]
  | membership =>
    rcases value.list_or_single with ⟨items, rfl⟩ | hsingle
    · rw [Value.replace_list]
      simp only [checkValue, hclass, find_unbound_replace h, List.isEmpty_map]
      cases items.find? fun item => !item.kind.isScalar with
      | none => rfl
      | some item => simp only [Option.map_some, Value.kind_replace h]
    · rw [checkValue_single hclass hsingle, checkValue_single hclass (by rwa [hkind]), hkind]

theorem Operand.isNull_replace (operand : Operand) :
    (operand.replace r).isNull = operand.isNull := by
  cases operand with
  | value literal => exact Value.isNull_replace h literal
  | subquery query => rfl

theorem Operand.acceptMembers_replace (operator : Operator) (operand : Operand) :
    (operand.replace r).acceptMembers operator = operand.acceptMembers operator := by
  unfold acceptMembers
  congr 1
  cases operand with
  | subquery query => rfl
  | value literal =>
    rcases literal.list_or_single with ⟨items, rfl⟩ | hsingle
    · rw [replace, Value.replace_list]
      simp only [members?, Value.scalarElements, find_unbound_replace h]
      cases items.find? fun item => !item.kind.isScalar with
      | none => rfl
      | some item => simp only [Option.map_some, Value.kind_replace h]
    · have hkind := Value.kind_replace h literal
      rw [replace, members?_single operator hsingle, members?_single operator (by rwa [hkind]),
        hkind]

theorem Filter.hasValue_replace (filter : Filter) :
    (filter.replace r).hasValue = filter.hasValue := by
  obtain ⟨logic, field, operator, value, filters⟩ := filter
  cases value with
  | none => rfl
  | some operand => simp [replace, hasValue, replaceRight, Operand.isNull_replace h]

theorem Filter.checkCondition_replace (filter : Filter) :
    (filter.replace r).checkCondition = filter.checkCondition := by
  have hvalue := filter.hasValue_replace h
  obtain ⟨logic, field, operator, value, filters⟩ := filter
  rw [replace] at hvalue ⊢
  unfold checkCondition
  rw [hvalue]
  have hfield : (replaceLeft r field).isSome = field.isSome := by cases field <;> rfl
  simp only [hfield]
  congr 1
  funext _
  cases operator with
  | none => rfl
  | some operator =>
    cases value with
    | none => rfl
    | some operand =>
      cases operand with
      | subquery query => rfl
      | value literal =>
        simp only [replaceRight, Operand.replace, Value.isNull_replace h,
          Operator.checkValue_replace h]

theorem Filter.checkShape_replace (filter : Filter) :
    (filter.replace r).checkShape = filter.checkShape := by
  have hvalue := filter.hasValue_replace h
  have hcondition := filter.checkCondition_replace h
  obtain ⟨logic, field, operator, value, filters⟩ := filter
  rw [replace] at hvalue hcondition ⊢
  unfold checkShape
  rw [hvalue, hcondition]
  have hfield : (replaceLeft r field).isNone = field.isNone := by cases field <;> rfl
  simp only [hfield, isEmpty_replaceChildren]

end Acceptance

section Refusal

variable {r : Replacement}

mutual

theorem Filter.validate_replace (h : r.KeepsKinds) (context : Context) : ∀ (filter : Filter),
    (filter.replace r).validate context = filter.validate context
  | ⟨logic, field, operator, value, filters⟩ => by
    have hshape := Filter.checkShape_replace h ⟨logic, field, operator, value, filters⟩
    rw [Filter.replace] at hshape ⊢
    rw [Filter.validate, Filter.validate, hshape, any_isSome_replaceChildren]
    congr 1
    funext _
    split
    · congr 1
      funext inner
      exact validateAll_replace h inner filters
    · rfl

theorem validateAll_replace (h : r.KeepsKinds) (context : Context) :
    ∀ (filters : List (Option Filter)),
      Filter.validateAll context (replaceChildren r filters) = Filter.validateAll context filters
  | [] => rfl
  | none :: rest => validateAll_replace h context rest
  | some child :: rest => by
    rw [replaceChildren, Filter.validateAll, Filter.validateAll, child.validate_replace h context,
      validateAll_replace h context rest]

end

theorem Select.validate_replace (h : r.KeepsKinds) (context : Context) (query : Select) :
    (query.replace r).validate context = query.validate context := by
  obtain ⟨fields, table, filter, sorts, take, aliasName⟩ := query
  have hfields : (replaceFields r fields).isEmpty = fields.isEmpty := by cases fields <;> rfl
  have htable : (replaceSource r table).isSome = table.isSome := by cases table <;> rfl
  simp only [replace, validate, hfields, htable, h.take]

mutual

theorem Field.accept_replace (h : r.KeepsKinds) (context : Context) : ∀ (field : Field),
    (field.replace r).accept context = field.accept context
  | .column _ _ _ => rfl
  | .subquery query aliasName => by
    rw [Field.replace, Field.accept, Field.accept]
    simp only [query.accept_replace h, Field.validate]

theorem Table.accept_replace (h : r.KeepsKinds) (context : Context) : ∀ (table : Table),
    (table.replace r).accept context = table.accept context
  | .named _ _ => rfl
  | .subquery query aliasName => by
    rw [Table.replace, Table.accept, Table.accept]
    simp only [query.accept_replace h, Table.validate]

theorem Operand.accept_replace (h : r.KeepsKinds) (context : Context) : ∀ (operand : Operand),
    (operand.replace r).accept context = operand.accept context
  | .value _ => rfl
  | .subquery query => by
    rw [Operand.replace, Operand.accept, Operand.accept]
    simp only [query.accept_replace h]

theorem acceptOperand_replace (h : r.KeepsKinds) (context : Context)
    (operator : Operator) : ∀ (value : Option Operand),
      acceptOperand context operator (replaceRight r value) = acceptOperand context operator value
  | none => rfl
  | some operand => by
    rw [replaceRight, acceptOperand, acceptOperand, operand.acceptMembers_replace h,
      operand.accept_replace h context]

theorem Filter.acceptNode_replace (h : r.KeepsKinds) (context : Context) : ∀ (filter : Filter),
    (filter.replace r).acceptNode context = filter.acceptNode context
  | ⟨logic, field, none, value, filters⟩ => by
    rw [Filter.replace, Filter.acceptNode, Filter.acceptNode, isEmpty_replaceChildren]
    simp only [acceptChildren_replace h]
  | ⟨_, none, some _, _, _⟩ => rfl
  | ⟨logic, some field, some operator, value, filters⟩ => by
    rw [Filter.replace, replaceLeft, Filter.acceptNode, Filter.acceptNode,
      field.accept_replace h context, acceptOperand_replace h context operator value]

theorem acceptChildren_replace (h : r.KeepsKinds) (context : Context) :
    ∀ (filters : List (Option Filter)),
      acceptChildren context (replaceChildren r filters) = acceptChildren context filters
  | [] => rfl
  | none :: rest => acceptChildren_replace h context rest
  | some child :: rest => by
    rw [replaceChildren, acceptChildren, acceptChildren, child.acceptNode_replace h context,
      acceptChildren_replace h context rest]

theorem acceptFields_replace (h : r.KeepsKinds) (context : Context) : ∀ (fields : List Field),
    acceptFields context (replaceFields r fields) = acceptFields context fields
  | [] => rfl
  | field :: rest => by
    rw [replaceFields, acceptFields, acceptFields, field.accept_replace h context,
      acceptFields_replace h context rest]

theorem acceptTable_replace (h : r.KeepsKinds) (context : Context) : ∀ (table : Option Table),
    acceptTable context (replaceSource r table) = acceptTable context table
  | none => rfl
  | some table => table.accept_replace h context

theorem acceptWhere_replace (h : r.KeepsKinds) (context : Context) : ∀ (filter : Option Filter),
    acceptWhere context (replaceWhere r filter) = acceptWhere context filter
  | none => rfl
  | some filter => by
    rw [replaceWhere, acceptWhere, acceptWhere, filter.validate_replace h context,
      filter.acceptNode_replace h context]

theorem Select.accept_replace (h : r.KeepsKinds) (context : Context) : ∀ (query : Select),
    (query.replace r).accept context = query.accept context
  | ⟨fields, table, filter, sorts, take, aliasName⟩ => by
    have hvalid :=
      Select.validate_replace h context ⟨fields, table, filter, sorts, take, aliasName⟩
    rw [Select.replace] at hvalid ⊢
    rw [Select.accept, Select.accept, hvalid, acceptFields_replace h context fields,
      acceptTable_replace h context table, acceptWhere_replace h context filter]

end

theorem checkAllBindable_replace (h : r.KeepsKinds) (values : List Value) :
    checkAllBindable (values.map (Value.replace r)) = checkAllBindable values := by
  induction values with
  | nil => rfl
  | cons value rest ih =>
    rw [List.map_cons, checkAllBindable, checkAllBindable, ih, Value.checkBindable_replace h]

theorem Insert.checkRows_replace (h : r.KeepsKinds) (width : Nat) (rows : List (List Value)) :
    checkRows width (rows.map (List.map (Value.replace r))) = checkRows width rows := by
  induction rows with
  | nil => rfl
  | cons row rest ih =>
    rw [List.map_cons, checkRows, checkRows, ih, checkAllBindable_replace h, List.length_map]

theorem Insert.validate_replace (h : r.KeepsKinds) (query : Insert) :
    (query.replace r).validate = query.validate := by
  simp only [replace, validate, Columns.names_map, Columns.rows_map, checkRows_replace h,
    List.isEmpty_map]

theorem Update.checkAssignments_replace (h : r.KeepsKinds) (assignments : List (String × Value)) :
    checkAssignments (assignments.map fun (column, value) => (column, value.replace r)) =
      checkAssignments assignments := by
  induction assignments with
  | nil => rfl
  | cons assignment rest ih =>
    rw [List.map_cons, checkAssignments, checkAssignments, ih, Value.checkBindable_replace h]

theorem Statement.accept_replace (h : r.KeepsKinds) (context : Context) (statement : Statement) :
    (statement.replace r).accept context = statement.accept context := by
  cases statement with
  | select query => exact query.accept_replace h context
  | insert query => exact query.validate_replace h
  | update query =>
    simp only [replace, accept, Update.replace, Update.accept, Update.validate, List.isEmpty_map,
      Update.checkAssignments_replace h, isSome_replaceWhere, acceptWhere_replace h]
  | delete query =>
    simp only [replace, accept, Delete.replace, Delete.accept, Delete.validate,
      isSome_replaceWhere, acceptWhere_replace h]

end Refusal

/-- Every literal becomes null, and of every limit it is kept whether there is one. -/
def Replacement.shape : Replacement where
  literal _ := .null
  take n := if n = 0 then 0 else 1
  literal_ne_list _ _ := nofun
  take_eq_zero n := by split <;> simp_all

/-- A literal of the kind. There is none for objects, which are never bound. -/
def Kind.sample : Kind → Value
  | .null | .map => .null
  | .bool => .bool false
  | .int => .int 0
  | .uint => .uint 0
  | .float => .float ⟨0⟩
  | .string => .string ""
  | .list => .list []

theorem Kind.kind_sample (value : Value) : value.kind.sample.kind = value.kind := by
  cases value <;> rfl

/-- Of every literal its kind is kept, and limits are kept. -/
def Replacement.kinds : Replacement where
  literal value := value.kind.sample
  take n := n
  literal_ne_list value h := by rwa [Kind.kind_sample]
  take_eq_zero _ := .rfl

theorem Replacement.kinds_keepsKinds : Replacement.kinds.KeepsKinds :=
  ⟨fun value _ => Kind.kind_sample value, fun _ => rfl⟩

namespace Statement

/-- The statements differ in their literals only, and in limits that are both there. -/
def SameShape (left right : Statement) : Prop :=
  left.replace .shape = right.replace .shape

/-- The statements differ in literals of the same kinds only. -/
def SameKinds (left right : Statement) : Prop :=
  left.replace .kinds = right.replace .kinds

theorem sql_of_compile {context : Context} {statement : Statement} {compiled : Compiled}
    (h : statement.compile context = .ok compiled) (r : Replacement) :
    compiled.sql = fill context.dialect 0 (erase (statement.replace r).pieces) := by
  rw [compile_eq, map_eq_ok] at h
  obtain ⟨_, -, rfl⟩ := h
  rw [erase_replace, fill_erase]
  rfl

/-- Statements of the same shape compile to the same text, and if their literals are of the same
kinds they are refused for the same reason or not at all. -/
theorem literals_do_not_interfere (context : Context) {left right : Statement}
    (hshape : left.SameShape right) :
    (∀ {first second : Compiled}, left.compile context = .ok first →
      right.compile context = .ok second → first.sql = second.sql) ∧
    (left.SameKinds right →
      (∃ first second, left.compile context = .ok first ∧ right.compile context = .ok second) ∨
      ∃ error, left.compile context = .error error ∧ right.compile context = .error error) := by
  constructor
  · intro first second hfirst hsecond
    rw [sql_of_compile hfirst .shape, sql_of_compile hsecond .shape, hshape]
  · intro hkinds
    have haccept : left.accept context = right.accept context := by
      rw [← accept_replace Replacement.kinds_keepsKinds context left, hkinds,
        accept_replace Replacement.kinds_keepsKinds]
    rw [left.compile_eq, right.compile_eq, haccept]
    cases right.accept context with
    | error error => exact .inr ⟨error, rfl, rfl⟩
    | ok _ => exact .inl ⟨_, _, rfl, rfl⟩

/-- A lookup by a name, which a caller may have chosen to do harm. -/
def lookup (name : String) (take : UInt64) : Statement :=
  let named : Filter := .condition (.ofColumn "name") .equal (.string name)
  let query := (Select.ofFields [.ofColumn "id"]).fromTable (.ofName "users")
  .select ((query.filteredBy (.any [named, .isNull (.ofColumn "role")])).limitedTo take)

theorem lookup_keeps_text :
    ∃ first second, (lookup "ann" 1).compile ⟨.mysql, 0, {}⟩ = .ok first ∧
      (lookup "' or 1 = 1; --" 1).compile ⟨.mysql, 0, {}⟩ = .ok second ∧
      first.sql = second.sql := by
  have hshape : (lookup "ann" 1).SameShape (lookup "' or 1 = 1; --" 1) := rfl
  have hkinds : (lookup "ann" 1).SameKinds (lookup "' or 1 = 1; --" 1) := rfl
  obtain ⟨hsame, houtcome⟩ := literals_do_not_interfere ⟨.mysql, 0, {}⟩ hshape
  rcases houtcome hkinds with ⟨first, second, hfirst, hsecond⟩ | ⟨error, herror, -⟩
  · exact ⟨first, second, hfirst, hsecond, hsame hfirst hsecond⟩
  · rw [compile_eq] at herror
    cases herror

end Statement

end QueryTree
