import QueryTree.Proofs.Conversion
import QueryTree.Proofs.Replacement
import QueryTree.Tree.Build

/-!
Describing statements. Every part of a tree has a place in a description, so a tree is read back as
it was from its description. Literals are written as JSON there, which holds all of them but the
unsigned numbers that a signed one can hold and the floats that are not finite.
-/

namespace QueryTree

section Literals

mutual

/-- The literal is the one that its JSON form is read as. -/
def Value.Representable : Value → Prop
  | .uint n => 2 ^ 63 ≤ n.toNat
  | .float x => x.isFinite = true
  | .list items => itemsRepresentable items
  | _ => True

def itemsRepresentable : List Value → Prop
  | [] => True
  | item :: rest => item.Representable ∧ itemsRepresentable rest

end

/-- A number that is not negative is written as an unsigned one, and is too small to stay one. -/
theorem JsonNumber.toValue_ofInt (n : Int64) : (JsonNumber.ofInt n).toValue = .int n := by
  unfold ofInt
  by_cases hneg : n < 0
  · rw [dif_pos hneg]
    rfl
  · have hnonneg : 0 ≤ n := by simpa using hneg
    have hsmall : n.toUInt64.toNat < Nat.pow 2 63 := by
      rw [Int64.toNat_toUInt64_of_le hnonneg]
      exact n.toNatClampNeg_lt
    rw [dif_neg hneg, toValue, if_pos hsmall, Int64.toInt64_toUInt64]

mutual

theorem Value.ofJson_toJson : ∀ (value : Value), value.Representable →
    Value.ofJson value.toJson = .ok value
  | .null, _ => rfl
  | .bool _, _ => rfl
  | .int n, _ => congrArg Except.ok (JsonNumber.toValue_ofInt n)
  | .uint n, h => by
    have hlarge : ¬ n.toNat < Nat.pow 2 63 := Nat.not_lt.mpr h
    rw [Value.toJson, Value.ofJson, JsonNumber.toValue, if_neg hlarge]
  | .float x, h => by
    have hfinite : x.isFinite = true := h
    rw [Value.toJson, dif_pos hfinite]
    rfl
  | .string _, _ => rfl
  | .list items, h => by
    rw [Value.toJson, Value.ofJson, Value.ofJsonItems_toJsonItems items h]
    rfl

theorem Value.ofJsonItems_toJsonItems : ∀ (items : List Value), itemsRepresentable items →
    Value.ofJsonItems (Value.toJsonItems items) = .ok items
  | [], _ => rfl
  | item :: rest, h => by
    rw [Value.toJsonItems, Value.ofJsonItems, Value.ofJson_toJson item h.1,
      Value.ofJsonItems_toJsonItems rest h.2]
    rfl

end

theorem itemValues_toJsonItems (operator : Operator) {items : List Value}
    (h : itemsRepresentable items) :
    itemValues operator (Value.toJsonItems items) = .ok items := by
  induction items with
  | nil => rfl
  | cons item rest ih =>
    rw [Value.toJsonItems, itemValues, item.ofJson_toJson h.1, ih h.2]
    rfl

/-- The operator of a condition decides about errors alone. -/
theorem conditionValue_toJson (operator : Option Operator) {literal : Value}
    (h : literal.Representable) : conditionValue operator literal.toJson = .ok literal := by
  cases operator with
  | none => exact literal.ofJson_toJson h
  | some operator =>
    have hscalar := literal.ofJson_toJson h
    cases literal with
    | list items =>
      rw [Value.toJson, conditionValue, itemValues_toJsonItems operator h]
      rfl
    | float x =>
      have hfinite : x.isFinite = true := h
      rw [Value.toJson, dif_pos hfinite]
      rfl
    | _ => exact hscalar

end Literals

mutual

/-- The literals of a tree are representable, on every level. -/
def Field.Representable : Field → Prop
  | .column _ _ _ => True
  | .subquery query _ => query.Representable

def Table.Representable : Table → Prop
  | .named _ _ => True
  | .subquery query _ => query.Representable

def Filter.Representable : Filter → Prop
  | ⟨_, field, _, value, filters⟩ =>
    leftRepresentable field ∧ rightRepresentable value ∧ childrenRepresentable filters

def leftRepresentable : Option Field → Prop
  | none => True
  | some field => field.Representable

def rightRepresentable : Option Operand → Prop
  | none => True
  | some (.value literal) => literal.Representable
  | some (.subquery query) => query.Representable

def childrenRepresentable : List (Option Filter) → Prop
  | [] => True
  | none :: rest => childrenRepresentable rest
  | some child :: rest => child.Representable ∧ childrenRepresentable rest

def fieldsRepresentable : List Field → Prop
  | [] => True
  | field :: rest => field.Representable ∧ fieldsRepresentable rest

def sourceRepresentable : Option Table → Prop
  | none => True
  | some table => table.Representable

def whereRepresentable : Option Filter → Prop
  | none => True
  | some filter => filter.Representable

def Select.Representable : Select → Prop
  | ⟨fields, table, filter, _, _, _⟩ =>
    fieldsRepresentable fields ∧ sourceRepresentable table ∧ whereRepresentable filter

end

mutual

/-- A column is described in full, since its table and its alias have to be named. -/
def Field.describe : Field → FieldDescription
  | .column table name aliasName => .full table (some name) none aliasName
  | .subquery query aliasName => .full none none (some query.describe) aliasName

def Table.describe : Table → TableDescription
  | .named name aliasName => .full (some name) none aliasName
  | .subquery query aliasName => .full none (some query.describe) aliasName

def Filter.describe : Filter → FilterDescription
  | ⟨logic, field, operator, value, filters⟩ =>
    ⟨logic, describeLeft field, operator, describeLiteral value, describeSubquery value,
      describeChildren filters⟩

def describeLeft : Option Field → Option FieldDescription
  | none => none
  | some field => some field.describe

/-- A literal null is described as well: a condition with it is not one without a right side. -/
def describeLiteral : Option Operand → Option Json
  | none => none
  | some (.value literal) => some literal.toJson
  | some (.subquery _) => none

def describeSubquery : Option Operand → Option SelectDescription
  | none => none
  | some (.value _) => none
  | some (.subquery query) => some query.describe

def describeChildren : List (Option Filter) → List (Option FilterDescription)
  | [] => []
  | none :: rest => none :: describeChildren rest
  | some child :: rest => some child.describe :: describeChildren rest

def describeFields : List Field → List (Option FieldDescription)
  | [] => []
  | field :: rest => some field.describe :: describeFields rest

def describeSource : Option Table → Option TableDescription
  | none => none
  | some table => some table.describe

def describeWhere : Option Filter → Option FilterDescription
  | none => none
  | some filter => some filter.describe

def Select.describe : Select → SelectDescription
  | ⟨fields, table, filter, sorts, take, aliasName⟩ =>
    ⟨describeFields fields, describeSource table, describeWhere filter, sorts, take, aliasName⟩

end

mutual

theorem Field.toField_describe : ∀ (field : Field), field.Representable →
    field.describe.toField = .ok field
  | .column _ _ _, _ => rfl
  | .subquery query aliasName, h => by
    have hquery := query.toSelect_describe h
    rw [Field.describe]
    simp [FieldDescription.toField, hquery, shownAlias]

theorem Table.toTable_describe : ∀ (table : Table), table.Representable →
    table.describe.toTable = .ok table
  | .named _ _, _ => rfl
  | .subquery query aliasName, h => by
    have hquery := query.toSelect_describe h
    rw [Table.describe]
    simp [TableDescription.toTable, hquery, shownAlias]

theorem Filter.toFilter_describe : ∀ (filter : Filter), filter.Representable →
    filter.describe.toFilter = .ok filter
  | ⟨logic, field, operator, value, filters⟩, h => by
    obtain ⟨hfield, hvalue, hfilters⟩ := h
    rw [Filter.describe, FilterDescription.toFilter_eq, right_describe operator value hvalue,
      children_describe filters hfilters, left_describe field hfield]
    rfl

theorem left_describe : ∀ (field : Option Field), leftRepresentable field →
    toField? (describeLeft field) = .ok field
  | none, _ => rfl
  | some field, h => by
    rw [describeLeft, toField?, field.toField_describe h]
    rfl

theorem right_describe (operator : Option Operator) : ∀ (value : Option Operand),
    rightRepresentable value →
      toOperand? operator (describeLiteral value) (describeSubquery value) = .ok value
  | none, _ => rfl
  | some (.value literal), h => by
    rw [describeLiteral, describeSubquery, toOperand?, conditionValue_toJson operator h]
    rfl
  | some (.subquery query), h => by
    rw [describeSubquery, toOperand?, query.toSelect_describe h]
    rfl

theorem children_describe : ∀ (filters : List (Option Filter)), childrenRepresentable filters →
    toFilters (describeChildren filters) = .ok filters
  | [], _ => rfl
  | none :: rest, h => by
    rw [describeChildren, toFilters, children_describe rest h]
    rfl
  | some child :: rest, h => by
    rw [describeChildren, toFilters, child.toFilter_describe h.1, children_describe rest h.2]
    rfl

theorem fields_describe : ∀ (fields : List Field), fieldsRepresentable fields →
    toFields (describeFields fields) = .ok fields
  | [], _ => rfl
  | field :: rest, h => by
    rw [describeFields, toFields, field.toField_describe h.1, fields_describe rest h.2]
    rfl

theorem source_describe : ∀ (table : Option Table), sourceRepresentable table →
    toTable? (describeSource table) = .ok table
  | none, _ => rfl
  | some table, h => by
    rw [describeSource, toTable?, table.toTable_describe h]
    rfl

theorem where_describe : ∀ (filter : Option Filter), whereRepresentable filter →
    toFilter? (describeWhere filter) = .ok filter
  | none, _ => rfl
  | some filter, h => by
    rw [describeWhere, toFilter?, filter.toFilter_describe h]
    rfl

theorem Select.toSelect_describe : ∀ (query : Select), query.Representable →
    query.describe.toSelect = .ok query
  | ⟨fields, table, filter, sorts, take, aliasName⟩, h => by
    obtain ⟨hfields, htable, hfilter⟩ := h
    rw [Select.describe, SelectDescription.toSelect_eq, fields_describe fields hfields,
      source_describe table htable, where_describe filter hfilter]
    rfl

end

section Statements

/-- The literals of a statement are representable. An update names no column twice, since only the
last of two assignments would be read. -/
def Statement.Representable : Statement → Prop
  | .select query => query.Representable
  | .insert query => ∀ entry ∈ query.cells.entries, itemsRepresentable entry.2
  | .update query =>
    ((query.assignments.map Prod.fst).Nodup ∧
      ∀ assignment ∈ query.assignments, assignment.2.Representable) ∧
      whereRepresentable query.filter
  | .delete query => whereRepresentable query.filter

def describeAssignments (assignments : List (String × Value)) : List (String × Json) :=
  assignments.map fun (column, value) => (column, value.toJson)

def Statement.describe : Statement → Description
  | .select query => .select query.describe
  | .insert query => .insert ⟨query.table, query.cells.map Value.toJson⟩
  | .update query =>
    .update ⟨query.table, describeAssignments query.assignments, describeWhere query.filter⟩
  | .delete query => .delete ⟨query.table, describeWhere query.filter⟩

theorem Value.toJsonItems_eq_map (items : List Value) :
    Value.toJsonItems items = items.map Value.toJson := by
  induction items with
  | nil => rfl
  | cons item rest ih => rw [toJsonItems, ih, List.map_cons]

/-- A column that is not assigned yet is assigned behind the others. -/
theorem assign_of_notMem {column : String} (value : Value) {assigned : List (String × Value)}
    (h : column ∉ assigned.map Prod.fst) :
    assign column value assigned = assigned ++ [(column, value)] := by
  induction assigned with
  | nil => rfl
  | cons first rest ih =>
    obtain ⟨name, old⟩ := first
    simp only [List.map_cons, List.mem_cons, not_or] at h
    rw [assign, if_neg (Ne.symm h.1), ih h.2, List.cons_append]

/-- Columns that are pairwise distinct are assigned one behind the other. -/
theorem assignAll_describe (assignments assigned : List (String × Value))
    (hdistinct : ((assigned ++ assignments).map Prod.fst).Nodup)
    (hvalues : ∀ assignment ∈ assignments, assignment.2.Representable) :
    assignAll (describeAssignments assignments) assigned = .ok (assigned ++ assignments) := by
  induction assignments generalizing assigned with
  | nil => rw [List.append_nil]; rfl
  | cons assignment rest ih =>
    obtain ⟨column, value⟩ := assignment
    obtain ⟨hvalue, hrest⟩ := List.forall_mem_cons.mp hvalues
    have hnew : column ∉ assigned.map Prod.fst := by
      rw [List.map_append, List.nodup_append] at hdistinct
      intro hmem
      exact hdistinct.2.2 column hmem column (by simp) rfl
    have hnext : assigned ++ (column, value) :: rest = (assigned ++ [(column, value)]) ++ rest := by
      simp
    rw [hnext] at hdistinct ⊢
    rw [describeAssignments, List.map_cons, assignAll, value.ofJson_toJson hvalue, ok_bind,
      assign_of_notMem value hnew]
    exact ih _ hdistinct hrest

theorem traverseEntries_describe (entries : List (String × List Value))
    (h : ∀ entry ∈ entries, itemsRepresentable entry.2) :
    Columns.traverseEntries Value.ofJsonItems
        (entries.map fun (name, cells) => (name, cells.map Value.toJson)) =
      .ok entries := by
  induction entries with
  | nil => rfl
  | cons entry rest ih =>
    obtain ⟨name, cells⟩ := entry
    obtain ⟨hcells, hrest⟩ := List.forall_mem_cons.mp h
    rw [List.map_cons, Columns.traverseEntries, ← Value.toJsonItems_eq_map,
      Value.ofJsonItems_toJsonItems cells hcells, ih hrest]
    rfl

theorem traverse_describe (cells : Columns Value)
    (h : ∀ entry ∈ cells.entries, itemsRepresentable entry.2) :
    (cells.map Value.toJson).traverse Value.ofJsonItems = .ok cells := by
  have hentries := traverseEntries_describe cells.entries h
  unfold Columns.traverse
  split
  next heq => cases heq.symm.trans hentries
  next heq =>
    cases heq.symm.trans hentries
    rfl

/-- A statement is what its description is converted to, so whatever it compiles to is compiled from
a description as well. -/
theorem Statement.toStatement_describe (statement : Statement) (h : statement.Representable) :
    statement.describe.toStatement = .ok statement ∧
      ∀ context, (statement.describe.toStatement >>= fun described => described.compile context) =
        statement.compile context := by
  have hconverted : statement.describe.toStatement = .ok statement := by
    cases statement with
    | select query =>
      have hquery := query.toSelect_describe h
      rw [describe, Description.toStatement, hquery]
      rfl
    | insert query =>
      have hcells := traverse_describe query.cells h
      rw [describe, Description.toStatement, InsertDescription.toInsert, hcells]
      rfl
    | update query =>
      obtain ⟨⟨hdistinct, hvalues⟩, hfilter⟩ := h
      have hassignments := assignAll_describe query.assignments [] hdistinct hvalues
      rw [describe, Description.toStatement, UpdateDescription.toUpdate, hassignments, ok_bind,
        where_describe query.filter hfilter]
      rfl
    | delete query =>
      have hfilter := where_describe query.filter h
      rw [describe, Description.toStatement, DeleteDescription.toDelete, hfilter]
      rfl
  refine ⟨hconverted, fun context => ?_⟩
  rw [hconverted, ok_bind]

end Statements

/-- An update with literals of several kinds, restricted by a sub-query. -/
def repricedItems : Statement :=
  let sold := ((Select.ofFields [.ofColumn "item"]).fromTable (.ofName "sales")).filteredBy
    (.condition (.ofColumn "shop") .isIn (.list [.int (-1), .string "web"]))
  .update
    { table := "items"
      assignments := [("price", .float (.zero false)), ("stock", .uint 9223372036854775808),
        ("note", .null)]
      filter := some (.conditionOn (.ofColumn "id") .isNotIn (.subquery sold)) }

theorem repricedItems_described :
    repricedItems.Representable ∧ repricedItems.describe.toStatement = .ok repricedItems := by
  have hprice : Value.Representable (.float (.zero false)) := by
    exact (by decide : (Binary64.zero false).isFinite = true)
  have hstock : Value.Representable (.uint 9223372036854775808) := by
    exact (by decide : 2 ^ 63 ≤ (9223372036854775808 : UInt64).toNat)
  have hshops : Value.Representable (.list [.int (-1), .string "web"]) :=
    ⟨trivial, trivial, trivial⟩
  have h : repricedItems.Representable := by
    refine ⟨⟨by decide, ?_⟩, ?_⟩
    · simp only [List.forall_mem_cons]
      exact ⟨hprice, hstock, trivial, nofun⟩
    · exact ⟨trivial, ⟨⟨trivial, trivial⟩, trivial, trivial, hshops, trivial⟩, trivial⟩
  exact ⟨h, (repricedItems.toStatement_describe h).1⟩

end QueryTree
