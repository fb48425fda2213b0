import QueryTree.Proofs.Conversion

/-!
Which descriptions have a statement. Convertible descriptions are described by recursion over the
description, sub-queries included, and a conversion succeeds for them and for no others. What it
says about another one names what is wrong with it: a part that is null, missing or given twice, or
a value with an object in it, for which it names an operator of the description if it names any.
-/

namespace QueryTree

mutual

/-- There is no object in the tree, however deep. -/
def Json.ObjectFree : Json → Prop
  | .array items => itemsObjectFree items
  | .object _ => False
  | _ => True

def itemsObjectFree : List Json → Prop
  | [] => True
  | item :: rest => item.ObjectFree ∧ itemsObjectFree rest

end

mutual

/-- A field that is described in full has a column or a sub-query. Next to a sub-query the column
may only be empty. -/
def FieldDescription.Convertible : FieldDescription → Prop
  | .column _ => True
  | .full _ column none _ => column ≠ none
  | .full _ column (some query) _ => (∀ name, column = some name → name = "") ∧ query.Convertible

def TableDescription.Convertible : TableDescription → Prop
  | .named _ => True
  | .full name none _ => name ≠ none
  | .full name (some query) _ => (∀ given, name = some given → given = "") ∧ query.Convertible

def FilterDescription.Convertible : FilterDescription → Prop
  | ⟨_, field, _, value, subquery, filters⟩ =>
    rightConvertible value subquery ∧ childrenConvertible filters ∧ leftConvertible field

/-- A value that stands next to a sub-query is not looked at. -/
def rightConvertible (value : Option Json) : Option SelectDescription → Prop
  | none => ∀ json, value = some json → json.ObjectFree
  | some query => query.Convertible

def leftConvertible : Option FieldDescription → Prop
  | none => True
  | some field => field.Convertible

def childrenConvertible : List (Option FilterDescription) → Prop
  | [] => True
  | none :: rest => childrenConvertible rest
  | some child :: rest => child.Convertible ∧ childrenConvertible rest

/-- None of the fields that are listed is null. -/
def fieldsConvertible : List (Option FieldDescription) → Prop
  | [] => True
  | none :: _ => False
  | some field :: rest => field.Convertible ∧ fieldsConvertible rest

def sourceConvertible : Option TableDescription → Prop
  | none => True
  | some table => table.Convertible

def whereConvertible : Option FilterDescription → Prop
  | none => True
  | some filter => filter.Convertible

def SelectDescription.Convertible : SelectDescription → Prop
  | ⟨fields, table, filter, _, _, _⟩ =>
    fieldsConvertible fields ∧ sourceConvertible table ∧ whereConvertible filter

end

def Description.Convertible : Description → Prop
  | .select description => description.Convertible
  | .insert description =>
    ∀ column ∈ description.cells.values, ∀ cell ∈ column, cell.ObjectFree
  | .update description =>
    (∀ assignment ∈ description.assignments, assignment.2.ObjectFree) ∧
      whereConvertible description.filter
  | .delete description => whereConvertible description.filter

mutual

/-- The operators that are named in a description, on every level. -/
def FieldDescription.operators : FieldDescription → List Operator
  | .column _ => []
  | .full _ _ subquery _ => subqueryOperators subquery

def TableDescription.operators : TableDescription → List Operator
  | .named _ => []
  | .full _ subquery _ => subqueryOperators subquery

def FilterDescription.operators : FilterDescription → List Operator
  | ⟨_, field, operator, _, subquery, filters⟩ =>
    operator.toList ++ subqueryOperators subquery ++ childOperators filters ++ leftOperators field

def subqueryOperators : Option SelectDescription → List Operator
  | none => []
  | some query => query.operators

def leftOperators : Option FieldDescription → List Operator
  | none => []
  | some field => field.operators

def childOperators : List (Option FilterDescription) → List Operator
  | [] => []
  | none :: rest => childOperators rest
  | some child :: rest => child.operators ++ childOperators rest

def fieldOperators : List (Option FieldDescription) → List Operator
  | [] => []
  | none :: rest => fieldOperators rest
  | some field :: rest => field.operators ++ fieldOperators rest

def sourceOperators : Option TableDescription → List Operator
  | none => []
  | some table => table.operators

def whereOperators : Option FilterDescription → List Operator
  | none => []
  | some filter => filter.operators

def SelectDescription.operators : SelectDescription → List Operator
  | ⟨fields, table, filter, _, _, _⟩ =>
    fieldOperators fields ++ sourceOperators table ++ whereOperators filter

end

def Description.operators : Description → List Operator
  | .select description => description.operators
  | .insert _ => []
  | .update description => whereOperators description.filter
  | .delete description => whereOperators description.filter

/-- What a conversion may say when it refuses a description with some operators. -/
inductive Refusal (operators : List Operator) : QueryError → Prop
  | fieldNull : Refusal operators .fieldNull
  | columnRequired : Refusal operators .columnRequired
  | nameRequired : Refusal operators .nameRequired
  | columnAndSubquery : Refusal operators .columnAndSubquery
  | nameAndSubquery : Refusal operators .nameAndSubquery
  | object : Refusal operators (.kindUnbound .map)
  | value {kind : Kind} {operator : Operator} (hkind : kind = .map ∨ kind = .list)
      (hoperator : operator ∈ operators) : Refusal operators (.kindForOperator kind operator)
  | element {kind : Kind} {operator : Operator} (hkind : kind = .map ∨ kind = .list)
      (hoperator : operator ∈ operators) : Refusal operators (.elementForOperator kind operator)

/-- A conversion that succeeds exactly if a description is convertible. -/
inductive Decides {α : Type} (operators : List Operator) (convertible : Prop) :
    Except QueryError α → Prop
  | ok {converted : α} (holds : convertible) : Decides operators convertible (.ok converted)
  | error {error : QueryError} (fails : ¬ convertible) (refusal : Refusal operators error) :
      Decides operators convertible (.error error)

section Decides

variable {α β : Type} {operators others : List Operator} {convertible further : Prop}
  {result : Except QueryError α}

theorem Refusal.mono {error : QueryError} (h : Refusal operators error)
    (hsubset : operators ⊆ others) : Refusal others error := by
  cases h with
  | fieldNull => exact .fieldNull
  | columnRequired => exact .columnRequired
  | nameRequired => exact .nameRequired
  | columnAndSubquery => exact .columnAndSubquery
  | nameAndSubquery => exact .nameAndSubquery
  | object => exact .object
  | value hkind hoperator => exact .value hkind (hsubset hoperator)
  | element hkind hoperator => exact .element hkind (hsubset hoperator)

theorem Decides.congr (h : Decides operators convertible result) (hiff : convertible ↔ further) :
    Decides operators further result := by
  rw [← hiff]
  exact h

theorem Decides.mono (h : Decides operators convertible result) (hsubset : operators ⊆ others) :
    Decides others convertible result := by
  cases h with
  | ok holds => exact .ok holds
  | error fails refusal => exact .error fails (refusal.mono hsubset)

theorem Decides.map (h : Decides operators convertible result) (f : α → β) :
    Decides operators convertible (result >>= fun converted => .ok (f converted)) := by
  cases h with
  | ok holds => exact .ok holds
  | error fails refusal => exact .error fails refusal

/-- Two parts are converted one after the other, and the first that fails decides. -/
theorem Decides.bind {next : α → Except QueryError β} (h : Decides operators convertible result)
    (hnext : ∀ converted, Decides others further (next converted)) :
    Decides (operators ++ others) (convertible ∧ further) (result >>= next) := by
  cases h with
  | error fails refusal =>
    exact .error (fun hboth => fails hboth.1) (refusal.mono (List.subset_append_left _ _))
  | @ok converted holds =>
    have hrest := hnext converted
    rw [ok_bind]
    generalize next converted = last at hrest ⊢
    cases hrest with
    | ok hfurther => exact .ok ⟨holds, hfurther⟩
    | error fails refusal =>
      exact .error (fun hboth => fails hboth.2) (refusal.mono (List.subset_append_right _ _))

end Decides

section Values

mutual

theorem Value.ofJson_decides : ∀ (json : Json), Decides [] json.ObjectFree (Value.ofJson json)
  | .null => .ok trivial
  | .bool _ => .ok trivial
  | .number _ => .ok trivial
  | .string _ => .ok trivial
  | .array items => (Value.ofJsonItems_decides items).map Value.list
  | .object _ => .error id .object

theorem Value.ofJsonItems_decides : ∀ (items : List Json),
    Decides [] (itemsObjectFree items) (Value.ofJsonItems items)
  | [] => .ok trivial
  | item :: rest =>
    (Value.ofJson_decides item).bind fun value =>
      (Value.ofJsonItems_decides rest).map fun values => value :: values

end

theorem itemsObjectFree_iff (items : List Json) :
    itemsObjectFree items ↔ ∀ item ∈ items, item.ObjectFree := by
  induction items with
  | nil => simp [itemsObjectFree]
  | cons item rest ih => simp [itemsObjectFree, ih]

theorem itemError_refusal (operator : Operator) (item : Json) :
    Refusal [operator] (itemError operator item) := by
  have hoperator : operator ∈ [operator] := List.mem_singleton_self operator
  unfold itemError
  by_cases hclass : operator.operatorClass = .membership
  · rw [if_pos hclass]
    cases item with
    | array items => exact .element (.inr rfl) hoperator
    | _ => exact .element (.inl rfl) hoperator
  · rw [if_neg hclass]
    exact .value (.inr rfl) hoperator

/-- The items of a list fail with an error that names the operator, whatever is wrong inside. -/
theorem itemValues_decides (operator : Operator) : ∀ (items : List Json),
    Decides [operator] (itemsObjectFree items) (itemValues operator items)
  | [] => .ok trivial
  | item :: rest => by
    have hitem := Value.ofJson_decides item
    have hrest := itemValues_decides operator rest
    rw [itemValues]
    generalize Value.ofJson item = result at hitem ⊢
    cases hitem with
    | error fails =>
      exact .error (fun hfree => fails hfree.1) (itemError_refusal operator item)
    | @ok value holds =>
      exact (hrest.map (value :: ·)).congr (and_iff_right holds).symm

theorem conditionValue_decides (operator : Option Operator) (json : Json) :
    Decides operator.toList json.ObjectFree (conditionValue operator json) := by
  cases operator with
  | none => exact Value.ofJson_decides json
  | some operator =>
    cases json with
    | object members => exact .error id (.value (.inl rfl) (List.mem_singleton_self operator))
    | array items => exact (itemValues_decides operator items).map Value.list
    | _ => exact .ok trivial

end Values

theorem shownAlias_isSome_iff (name : Option String) :
    (shownAlias name).isSome = true ↔ ¬ ∀ given, name = some given → given = "" := by
  cases name <;> simp [shownAlias, Option.filter]

mutual

theorem FieldDescription.decides : ∀ (description : FieldDescription),
    Decides description.operators description.Convertible description.toField
  | .column _ => .ok trivial
  | .full _ none none _ => .error (fun hcolumn => hcolumn rfl) .columnRequired
  | .full _ (some name) none _ => .ok (Option.some_ne_none name)
  | .full _ column (some query) aliasName => by
    have hquery := query.decides
    simp only [FieldDescription.toField]
    by_cases hshown : (shownAlias column).isSome = true
    · rw [if_pos hshown]
      rw [shownAlias_isSome_iff] at hshown
      exact .error (fun hboth => hshown hboth.1) .columnAndSubquery
    · rw [if_neg hshown]
      rw [shownAlias_isSome_iff, Classical.not_not] at hshown
      exact (hquery.map (Field.subquery · aliasName)).congr (and_iff_right hshown).symm

theorem TableDescription.decides : ∀ (description : TableDescription),
    Decides description.operators description.Convertible description.toTable
  | .named _ => .ok trivial
  | .full none none _ => .error (fun hname => hname rfl) .nameRequired
  | .full (some name) none _ => .ok (Option.some_ne_none name)
  | .full name (some query) aliasName => by
    have hquery := query.decides
    simp only [TableDescription.toTable]
    by_cases hshown : (shownAlias name).isSome = true
    · rw [if_pos hshown]
      rw [shownAlias_isSome_iff] at hshown
      exact .error (fun hboth => hshown hboth.1) .nameAndSubquery
    · rw [if_neg hshown]
      rw [shownAlias_isSome_iff, Classical.not_not] at hshown
      exact (hquery.map (Table.subquery · aliasName)).congr (and_iff_right hshown).symm

theorem FilterDescription.decides : ∀ (description : FilterDescription),
    Decides description.operators description.Convertible description.toFilter
  | ⟨logic, field, operator, value, subquery, filters⟩ => by
    rw [FilterDescription.toFilter_eq, FilterDescription.operators, List.append_assoc]
    exact (right_decides operator value subquery).bind fun operand =>
      (children_decides filters).bind fun filters =>
        (left_decides field).map fun field => Filter.mk logic field operator operand filters

theorem right_decides (operator : Option Operator) (value : Option Json) :
    ∀ (subquery : Option SelectDescription),
      Decides (operator.toList ++ subqueryOperators subquery) (rightConvertible value subquery)
        (toOperand? operator value subquery)
  | some query => (query.decides.map fun query => some (Operand.subquery query)).mono
    (List.subset_append_right operator.toList query.operators)
  | none => by
    rw [subqueryOperators, List.append_nil]
    cases value with
    | none => exact .ok nofun
    | some json =>
      have hjson := (conditionValue_decides operator json).map fun literal =>
        some (Operand.value literal)
      exact hjson.congr ⟨fun hfree _ heq => Option.some.inj heq ▸ hfree, fun h => h json rfl⟩

theorem left_decides : ∀ (field : Option FieldDescription),
    Decides (leftOperators field) (leftConvertible field) (toField? field)
  | none => .ok trivial
  | some field => field.decides.map some

theorem children_decides : ∀ (filters : List (Option FilterDescription)),
    Decides (childOperators filters) (childrenConvertible filters) (toFilters filters)
  | [] => .ok trivial
  | none :: rest => (children_decides rest).map fun filters => none :: filters
  | some child :: rest =>
    child.decides.bind fun filter =>
      (children_decides rest).map fun filters => some filter :: filters

theorem fields_decide : ∀ (fields : List (Option FieldDescription)),
    Decides (fieldOperators fields) (fieldsConvertible fields) (toFields fields)
  | [] => .ok trivial
  | none :: _ => .error id .fieldNull
  | some field :: rest =>
    field.decides.bind fun field => (fields_decide rest).map fun fields => field :: fields

theorem source_decides : ∀ (table : Option TableDescription),
    Decides (sourceOperators table) (sourceConvertible table) (toTable? table)
  | none => .ok trivial
  | some table => table.decides.map some

theorem where_decides : ∀ (filter : Option FilterDescription),
    Decides (whereOperators filter) (whereConvertible filter) (toFilter? filter)
  | none => .ok trivial
  | some filter => filter.decides.map some

theorem SelectDescription.decides : ∀ (description : SelectDescription),
    Decides description.operators description.Convertible description.toSelect
  | ⟨fields, table, filter, sorts, take, aliasName⟩ => by
    rw [SelectDescription.toSelect_eq, SelectDescription.operators, List.append_assoc]
    exact (fields_decide fields).bind fun fields =>
      (source_decides table).bind fun table =>
        (where_decides filter).map fun filter => Select.mk fields table filter sorts take aliasName

end

section Statements

theorem traverseEntries_decides (entries : List (String × List Json)) :
    Decides [] (∀ entry ∈ entries, ∀ cell ∈ entry.2, cell.ObjectFree)
      (Columns.traverseEntries Value.ofJsonItems entries) := by
  induction entries with
  | nil => exact .ok nofun
  | cons entry rest ih =>
    obtain ⟨name, cells⟩ := entry
    have hcells := (Value.ofJsonItems_decides cells).congr (itemsObjectFree_iff cells)
    rw [Columns.traverseEntries, List.forall_mem_cons]
    exact hcells.bind fun values => ih.map fun entries => (name, values) :: entries

theorem traverse_decides (cells : Columns Json) :
    Decides [] (∀ column ∈ cells.values, ∀ cell ∈ column, cell.ObjectFree)
      (cells.traverse Value.ofJsonItems) := by
  have hentries := traverseEntries_decides cells.entries
  rw [Columns.values, List.forall_mem_map]
  unfold Columns.traverse
  split
  next heq =>
    rw [heq] at hentries
    cases hentries with
    | error fails refusal => exact .error fails refusal
  next heq =>
    rw [heq] at hentries
    cases hentries with
    | ok holds => exact .ok holds

theorem assignAll_decides (assignments : List (String × Json)) (assigned : List (String × Value)) :
    Decides [] (∀ assignment ∈ assignments, assignment.2.ObjectFree)
      (assignAll assignments assigned) := by
  induction assignments generalizing assigned with
  | nil => exact .ok nofun
  | cons assignment rest ih =>
    obtain ⟨column, json⟩ := assignment
    rw [assignAll, List.forall_mem_cons]
    exact (Value.ofJson_decides json).bind fun value => ih (assign column value assigned)

theorem Description.decides (description : Description) :
    Decides description.operators description.Convertible description.toStatement := by
  cases description with
  | select description => exact description.decides.map Statement.select
  | insert description =>
    have hcells := traverse_decides description.cells
    exact (hcells.map (Insert.mk description.table)).map Statement.insert
  | update description =>
    have hassignments := assignAll_decides description.assignments []
    have hupdate := hassignments.bind fun assignments =>
      (where_decides description.filter).map (Update.mk description.table assignments)
    exact hupdate.map Statement.update
  | delete description =>
    have hfilter := where_decides description.filter
    exact (hfilter.map (Delete.mk description.table)).map Statement.delete

end Statements

/-- A description has a statement exactly if it is convertible, and otherwise the error names what
is wrong with it and no operator but one of its own. -/
theorem Description.converts_iff_convertible (description : Description) :
    ((∃ statement, description.toStatement = .ok statement) ↔ description.Convertible) ∧
      ∀ error, description.toStatement = .error error → Refusal description.operators error := by
  have hdecides := description.decides
  generalize description.toStatement = result at hdecides
  cases hdecides with
  | @ok statement holds => exact ⟨iff_of_true ⟨statement, rfl⟩ holds, nofun⟩
  | error fails refusal =>
    refine ⟨iff_of_false (fun ⟨_, hok⟩ => nomatch hok) fails, ?_⟩
    rintro _ ⟨⟩
    exact refusal

/-- A delete whose filter asks for a list with an object in it, inside of a sub-query. -/
def describedDelete : Description :=
  let banned : FilterDescription :=
    { field := some (.column "ip"), operator := some .isIn,
      value := some (.array [.string "127.0.0.1", .object []]) }
  let visits : SelectDescription :=
    { fields := [some (.column "user_id")], table := some (.named "visits"), filter := some banned }
  .delete
    { table := "users"
      filter := some { field := some (.column "id"), operator := some .isIn,
                       subquery := some visits } }

theorem describedDelete_refused :
    ¬ describedDelete.Convertible ∧
      ∃ error, describedDelete.toStatement = .error error ∧
        Refusal describedDelete.operators error := by
  have herror : describedDelete.toStatement = .error (.elementForOperator .map .isIn) := rfl
  obtain ⟨hiff, hrefusal⟩ := describedDelete.converts_iff_convertible
  refine ⟨?_, _, herror, hrefusal _ herror⟩
  rw [← hiff, herror]
  exact fun ⟨_, hok⟩ => nomatch hok

end QueryTree
