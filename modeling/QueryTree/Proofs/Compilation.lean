import QueryTree.Proofs.Acceptance
import QueryTree.Proofs.Filling
import QueryTree.Proofs.Levels

/-!
Compilation taken apart. Compiling a node is accepting it and, if it is accepted, filling its
rendering after the arguments that were bound before: whether and why a node is refused has nothing
to do with the arguments, and its text is known from its rendering.

This one equation for each kind of node is all that later modules use of the compiler.
-/

namespace QueryTree

open Piece

theorem Operand.members?_query (operator : Operator) (query : Select) :
    (Operand.subquery query).members? operator = .ok none := rfl

/-- The elements of an accepted list, or no list at all if a sub-query stands there. -/
theorem Operand.members?_value {operator : Operator} {literal : Value}
    {members : Option (List Value)} (h : (Operand.value literal).members? operator = .ok members) :
    ∃ items, literal = .list items ∧ members = some items := by
  cases literal with
  | list items =>
    refine ⟨items, rfl, ?_⟩
    unfold members? Value.scalarElements at h
    cases hfind : items.find? fun item => !item.kind.isScalar with
    | none => simpa [hfind] using h.symm
    | some item => simp [hfind] at h
  | _ => simp [members?] at h

section Condition

variable (context : Context) {operator : Operator} (args : Array Value)

/-- A single operand leaves in its condition what its rendering is filled to. -/
theorem Operand.compile_single (h : operator.operatorClass ≠ .membership) (operand : Operand)
    (hquery : ∀ query, operand = .subquery query → operand.compile context args =
      (operand.accept context).map fun _ =>
        .ofPieces context.dialect args (operand.pieces operator)) :
    (∃ error, operand.compile context args = .error error ∧
      operand.accept context = .error error) ∨
    ∃ right, operand.compile context args = .ok right ∧ operand.accept context = .ok () ∧
      operand.text context.dialect right =
        fill context.dialect args.size (operand.pieces operator) ∧
      right.args = args ++ slots (operand.pieces operator) := by
  cases operand with
  | value literal =>
    right
    refine ⟨⟨"", args.push literal⟩, rfl, rfl, ?_, ?_⟩
    · simp [Operand.text, Operand.pieces, ofLiteral_single h, lastPlaceholder_eq_mark, fill]
    · simp [Operand.pieces, ofLiteral_single h]
  | subquery query =>
    rw [hquery query rfl]
    cases Operand.accept context (.subquery query) with
    | error error => exact .inl ⟨error, rfl, rfl⟩
    | ok _ => exact .inr ⟨_, rfl, rfl, rfl, rfl⟩

variable (root : Bool) (logic : Option Logic) (field : Field) (value : Option Operand)
  (filters : List (Option Filter))

/-- What is to be shown of a condition, where the parts of it are known to compile as they are
accepted and rendered. -/
theorem Filter.compileNode_condition
    (hfield : ∀ args, field.compile context args =
      (field.accept context).map fun _ => .ofPieces context.dialect args field.pieces)
    (hquery : ∀ query, value = some (.subquery query) → ∀ args,
      (Operand.subquery query).compile context args =
        ((Operand.subquery query).accept context).map fun _ =>
          .ofPieces context.dialect args ((Operand.subquery query).pieces operator)) :
    Filter.compileNode context root ⟨logic, some field, some operator, value, filters⟩ args =
      (Filter.acceptNode context ⟨logic, some field, some operator, value, filters⟩).map fun _ =>
        .ofPieces context.dialect args
          (Filter.pieces root ⟨logic, some field, some operator, value, filters⟩) := by
  rw [Filter.acceptNode, Filter.pieces]
  cases haccept : field.accept context with
  | error error =>
    cases value <;> simp [Filter.compileNode, hfield, haccept]
  | ok _ =>
    cases value with
    | none =>
      cases hclass : operator.operatorClass <;>
        simp [Filter.compileNode, hfield, haccept, hclass, acceptOperand, ensure]
      exact (ofPieces_nullCheck _ _ _ _ hclass).symm
    | some operand =>
      rw [Filter.compileNode]
      simp only [hfield, haccept, map_ok, ok_bind, acceptOperand, operandPieces,
        Operand.acceptMembers]
      cases hclass : operator.operatorClass with
      | nullCheck => exact congrArg Except.ok (ofPieces_nullCheck _ _ _ _ hclass).symm
      | comparison =>
        rw [ofPieces_comparison _ _ _ _ hclass]
        have hsingle : operator.operatorClass ≠ .membership := by simp [hclass]
        rcases operand.compile_single context (args ++ slots field.pieces) hsingle
          (fun query heq => by subst heq; exact hquery query rfl _) with
          ⟨error, hcompile, hoperand⟩ | ⟨right, hcompile, hoperand, htext, hargs⟩
        · simp [Compiled.ofPieces, hcompile, hoperand]
        · simp [hcompile, hoperand, htext, hargs, Compiled.ofPieces]
      | pattern =>
        rw [ofPieces_pattern _ _ _ _ hclass]
        have hsingle : operator.operatorClass ≠ .membership := by simp [hclass]
        rcases operand.compile_single context (args ++ slots field.pieces) hsingle
          (fun query heq => by subst heq; exact hquery query rfl _) with
          ⟨error, hcompile, hoperand⟩ | ⟨right, hcompile, hoperand, htext, hargs⟩
        · simp [Compiled.ofPieces, hcompile, hoperand]
        · simp [hcompile, hoperand, htext, hargs, Compiled.ofPieces]
      | membership =>
        rw [ofPieces_membership _ _ _ _ hclass]
        cases operand with
        | subquery query =>
          simp only [Operand.members?_query, hquery query rfl, map_ok, ok_bind]
          cases (Operand.subquery query).accept context with
          | error _ => simp
          | ok _ => simp [Compiled.ofPieces]
        | value literal =>
          cases hmembers : (Operand.value literal).members? operator with
          | error _ => simp
          | ok members =>
            obtain ⟨items, rfl, rfl⟩ := Operand.members?_value hmembers
            have hfirst (n : Nat) : n + items.length + 1 - items.length = n + 1 := by omega
            have hopen (s : String) : " " ++ ("(" ++ s) = " (" ++ s := by
              rw [← String.append_assoc]
              rfl
            simp [Operand.accept, Operand.pieces, fill_ofLiteral_list _ _ hclass,
              slots_ofLiteral_list hclass, Compiled.ofPieces, hfirst, hopen, String.append_assoc]

end Condition

/-- A select compiles as it is accepted and rendered, if its parts do. -/
theorem Select.compile_clauses (context : Context) (query : Select)
    (hfields : ∀ args, compileFields context query.fields args =
      (acceptFields context query.fields).map fun _ =>
        (fillEach context.dialect args.size (fieldPieces query.fields),
          args ++ (fieldPieces query.fields).flatMap slots))
    (htable : ∀ table, query.table = some table → ∀ args, table.compile context args =
      (table.accept context).map fun _ => .ofPieces context.dialect args table.pieces)
    (hfilter : ∀ filter, query.filter = some filter → ∀ args, filter.compileNode context true args =
      (filter.acceptNode context).map fun _ => .ofPieces context.dialect args (filter.pieces true))
    (args : Array Value) :
    query.compile context args =
      (query.accept context).map fun _ => .ofPieces context.dialect args query.pieces := by
  obtain ⟨fields, table, filter, sorts, take, aliasName⟩ := query
  rw [Select.compile, Select.accept, Select.pieces]
  cases Select.validate context ⟨fields, table, filter, sorts, take, aliasName⟩ with
  | error error => rfl
  | ok _ =>
    rw [ok_bind, ok_bind, hfields]
    cases acceptFields context fields with
    | error error => rfl
    | ok _ =>
      cases table with
      | none => rfl
      | some table =>
        simp only [map_ok, ok_bind, acceptTable, htable table rfl]
        cases table.accept context with
        | error error => rfl
        | ok _ =>
          simp only [map_ok, ok_bind, ← ofPieces_renamed]
          cases filter with
          | none =>
            cases hkeys : sortTexts sorts with
            | error error => rfl
            | ok keys =>
              cases sortTexts_eq_keyTexts hkeys
              have hclauses := ofPieces_clauses context.dialect args (fieldPieces fields)
                (sourcePieces (some table)) [] (keyTexts sorts) take (by simp)
              rw [slots_nil, Array.appendList_nil] at hclauses
              exact congrArg Except.ok hclauses.symm
          | some filter =>
            simp only [acceptWhere, hfilter filter rfl]
            cases filter.validate context with
            | error error => rfl
            | ok _ =>
              cases filter.acceptNode context with
              | error error => rfl
              | ok _ =>
                cases hkeys : sortTexts sorts with
                | error error => rfl
                | ok keys =>
                  cases sortTexts_eq_keyTexts hkeys
                  have hclauses := ofPieces_clauses context.dialect args (fieldPieces fields)
                    (sourcePieces (some table)) (filter.pieces true) (keyTexts sorts) take
                    (filter.fill_root_ne_empty context.dialect)
                  exact congrArg Except.ok hclauses.symm

theorem Field.compile_column (context : Context) (table : Option String) (name : String)
    (aliasName : Option String) (args : Array Value) :
    (Field.column table name aliasName).compile context args =
      ((Field.column table name aliasName).accept context).map fun _ =>
        .ofPieces context.dialect args (Field.column table name aliasName).pieces := by
  rw [Field.compile, Field.accept, Field.pieces]
  cases (Field.column table name aliasName).validate with
  | error error => rfl
  | ok _ => simp [Compiled.ofPieces, fill]

theorem Table.compile_name (context : Context) (name : String) (aliasName : Option String)
    (args : Array Value) :
    (Table.named name aliasName).compile context args =
      ((Table.named name aliasName).accept context).map fun _ =>
        .ofPieces context.dialect args (Table.named name aliasName).pieces := by
  rw [Table.compile, Table.accept, Table.pieces]
  cases (Table.named name aliasName).validate with
  | error error => rfl
  | ok _ => simp [Compiled.ofPieces, fill]

/-- A select that is embedded in another tree compiles one level further down. -/
theorem Select.compile_embedded (context : Context) (query : Select) (args : Array Value)
    (hquery : ∀ inner, query.compile inner args =
      (query.accept inner).map fun _ => .ofPieces inner.dialect args query.pieces) :
    (do
      let inner ← context.descend
      let compiled ← query.compile inner args
      .ok (compiled.namedQuery query.aliasName).parenthesized) =
    (do
      let inner ← context.descend
      query.accept inner : Except QueryError Unit).map fun _ =>
        .ofPieces context.dialect args (embedded query.aliasName query.pieces) := by
  cases hinner : context.descend with
  | error error => rfl
  | ok inner =>
    rw [ok_bind, ok_bind, hquery, Context.dialect_of_descend hinner]
    cases query.accept inner with
    | error error => rfl
    | ok _ => exact congrArg Except.ok (ofPieces_embedded _ _ _ _).symm

theorem compileChildren_cons (context : Context) (child : Filter) (rest : List (Option Filter))
    (args : Array Value)
    (hchild : child.compileNode context false args =
      (child.acceptNode context).map fun _ => .ofPieces context.dialect args (child.pieces false))
    (hrest : ∀ args, compileChildren context rest args =
      (acceptChildren context rest).map fun _ =>
        (fillEach context.dialect args.size (childPieces rest),
          args ++ (childPieces rest).flatMap slots)) :
    compileChildren context (some child :: rest) args =
      (acceptChildren context (some child :: rest)).map fun _ =>
        (fillEach context.dialect args.size (childPieces (some child :: rest)),
          args ++ (childPieces (some child :: rest)).flatMap slots) := by
  rw [compileChildren, acceptChildren, childPieces, hchild]
  cases child.acceptNode context with
  | error error => rfl
  | ok _ =>
    simp only [map_ok, ok_bind, hrest]
    cases acceptChildren context rest with
    | error error => rfl
    | ok _ => simp [Compiled.ofPieces, fillEach, append_values_append]

theorem compileFields_cons (context : Context) (field : Field) (rest : List Field)
    (args : Array Value)
    (hfield : field.compile context args =
      (field.accept context).map fun _ => .ofPieces context.dialect args field.pieces)
    (hrest : ∀ args, compileFields context rest args =
      (acceptFields context rest).map fun _ =>
        (fillEach context.dialect args.size (fieldPieces rest),
          args ++ (fieldPieces rest).flatMap slots)) :
    compileFields context (field :: rest) args =
      (acceptFields context (field :: rest)).map fun _ =>
        (fillEach context.dialect args.size (fieldPieces (field :: rest)),
          args ++ (fieldPieces (field :: rest)).flatMap slots) := by
  rw [compileFields, acceptFields, fieldPieces, hfield]
  cases field.accept context with
  | error error => rfl
  | ok _ =>
    simp only [map_ok, ok_bind, hrest, ← ofPieces_renamed]
    cases acceptFields context rest with
    | error error => rfl
    | ok _ => simp [Compiled.ofPieces, fillEach, append_values_append, slots_renamed]

theorem Filter.compileNode_logic (context : Context) (root : Bool) (logic : Option Logic)
    (field : Option Field) (value : Option Operand) (filters : List (Option Filter))
    (args : Array Value)
    (hchildren : ∀ inner, compileChildren inner filters args =
      (acceptChildren inner filters).map fun _ =>
        (fillEach inner.dialect args.size (childPieces filters),
          args ++ (childPieces filters).flatMap slots)) :
    Filter.compileNode context root ⟨logic, field, none, value, filters⟩ args =
      (Filter.acceptNode context ⟨logic, field, none, value, filters⟩).map fun _ =>
        .ofPieces context.dialect args
          (Filter.pieces root ⟨logic, field, none, value, filters⟩) := by
  rw [Filter.compileNode, Filter.acceptNode, Filter.pieces]
  cases filters with
  | nil => simp [Compiled.ofPieces, childPieces, joined, fill]
  | cons entry rest =>
    cases hinner : context.descend with
    | error error => rfl
    | ok inner =>
      simp only [List.isEmpty_cons, Bool.false_eq_true, if_false, ok_bind, hchildren,
        Context.dialect_of_descend hinner]
      cases acceptChildren inner (entry :: rest) with
      | error error => rfl
      | ok _ =>
        have hfill := fill_joined context.dialect args.size logic root (childPieces (entry :: rest))
          fun part hpart hne count => fill_child_ne_empty hpart hne context.dialect count
        simp only [map_ok, ok_bind, Compiled.ofPieces, hfill, slots_joined]

mutual

theorem Field.compile_eq (context : Context) : ∀ (field : Field) (args : Array Value),
    field.compile context args =
      (field.accept context).map fun _ => .ofPieces context.dialect args field.pieces
  | .column table name aliasName, args => Field.compile_column context table name aliasName args
  | .subquery query aliasName, args => by
    have hquery := query.compile_embedded context args fun inner => query.compile_eq inner args
    rw [Field.compile, Field.accept, Field.pieces]
    cases (Field.subquery query aliasName).validate with
    | error error => rfl
    | ok _ => exact hquery

theorem Table.compile_eq (context : Context) : ∀ (table : Table) (args : Array Value),
    table.compile context args =
      (table.accept context).map fun _ => .ofPieces context.dialect args table.pieces
  | .named name aliasName, args => Table.compile_name context name aliasName args
  | .subquery query aliasName, args => by
    have hquery := query.compile_embedded context args fun inner => query.compile_eq inner args
    rw [Table.compile, Table.accept, Table.pieces]
    cases (Table.subquery query aliasName).validate with
    | error error => rfl
    | ok _ => exact hquery

theorem Filter.compileNode_eq (context : Context) (root : Bool) :
    ∀ (filter : Filter) (args : Array Value),
      filter.compileNode context root args =
        (filter.acceptNode context).map fun _ =>
          .ofPieces context.dialect args (filter.pieces root)
  | ⟨logic, field, none, value, filters⟩, args =>
    Filter.compileNode_logic context root logic field value filters args
      fun inner => compileChildren_eq inner filters args
  | ⟨_, none, some _, _, _⟩, args => rfl
  | ⟨logic, some field, some operator, none, filters⟩, args =>
    Filter.compileNode_condition context args root logic field none filters
      (field.compile_eq context) nofun
  | ⟨logic, some field, some operator, some (.value literal), filters⟩, args =>
    Filter.compileNode_condition context args root logic field (some (.value literal)) filters
      (field.compile_eq context) nofun
  | ⟨logic, some field, some operator, some (.subquery query), filters⟩, args =>
    Filter.compileNode_condition context args root logic field (some (.subquery query)) filters
      (field.compile_eq context) fun other hother args => by
        cases hother
        exact query.compile_embedded context args fun inner => query.compile_eq inner args

theorem compileChildren_eq (context : Context) :
    ∀ (filters : List (Option Filter)) (args : Array Value),
      compileChildren context filters args =
        (acceptChildren context filters).map fun _ =>
          (fillEach context.dialect args.size (childPieces filters),
            args ++ (childPieces filters).flatMap slots)
  | [], args => by simp [compileChildren, acceptChildren, childPieces, fillEach]
  | none :: rest, args => compileChildren_eq context rest args
  | some child :: rest, args =>
    compileChildren_cons context child rest args (child.compileNode_eq context false args)
      (compileChildren_eq context rest)

theorem compileFields_eq (context : Context) : ∀ (fields : List Field) (args : Array Value),
    compileFields context fields args =
      (acceptFields context fields).map fun _ =>
        (fillEach context.dialect args.size (fieldPieces fields),
          args ++ (fieldPieces fields).flatMap slots)
  | [], args => by simp [compileFields, acceptFields, fieldPieces, fillEach]
  | field :: rest, args =>
    compileFields_cons context field rest args (field.compile_eq context args)
      (compileFields_eq context rest)

theorem Select.compile_eq (context : Context) : ∀ (query : Select) (args : Array Value),
    query.compile context args =
      (query.accept context).map fun _ => .ofPieces context.dialect args query.pieces
  | ⟨fields, none, none, sorts, take, aliasName⟩, args =>
    Select.compile_clauses context _ (compileFields_eq context fields) (by simp) (by simp) args
  | ⟨fields, none, some filter, sorts, take, aliasName⟩, args =>
    Select.compile_clauses context _ (compileFields_eq context fields) (by simp)
      (fun other hother => by cases hother; exact filter.compileNode_eq context true) args
  | ⟨fields, some table, none, sorts, take, aliasName⟩, args =>
    Select.compile_clauses context _ (compileFields_eq context fields)
      (fun other hother => by cases hother; exact table.compile_eq context) (by simp) args
  | ⟨fields, some table, some filter, sorts, take, aliasName⟩, args =>
    Select.compile_clauses context _ (compileFields_eq context fields)
      (fun other hother => by cases hother; exact table.compile_eq context)
      (fun other hother => by cases hother; exact filter.compileNode_eq context true) args

end

/-- A filter by itself, as the root of a condition or as a part of one. -/
theorem Filter.compile_eq (context : Context) (filter : Filter) (args : Array Value) :
    filter.compile context args =
      (filter.accept context).map fun _ => .ofPieces context.dialect args (filter.pieces true) := by
  unfold compile accept
  rw [compileNode_eq]
  cases filter.validate context <;> rfl

theorem Filter.compileNested_eq (context : Context) (filter : Filter) (args : Array Value) :
    filter.compileNested context args =
      (filter.accept context).map fun _ =>
        .ofPieces context.dialect args (filter.pieces false) := by
  unfold compileNested accept
  rw [compileNode_eq]
  cases filter.validate context <;> rfl

/-- The condition of a statement goes behind what was written before it. -/
theorem compileWhere_eq (context : Context) (filter : Option Filter) (args : Array Value)
    (pieces : List Piece) :
    compileWhere context filter (.ofPieces context.dialect args pieces) =
      (acceptWhere context filter).map fun _ =>
        .ofPieces context.dialect args (pieces ++ wherePieces filter) := by
  cases filter with
  | none => simp [compileWhere, acceptWhere, wherePieces]
  | some filter =>
    have haccept : acceptWhere context (some filter) = filter.accept context := rfl
    rw [compileWhere, filter.compile_eq, haccept, wherePieces]
    cases filter.accept context with
    | error error => rfl
    | ok _ =>
      simp only [map_ok, ok_bind, Compiled.ofPieces, fill_append, slots_append, slots_ofWhere,
        fill_ofWhere _ _ _ fun hne => filter.fill_root_ne_empty context.dialect hne _,
        append_values_append, size_append_values]
      split <;> simp [String.append_assoc]

theorem assignmentTexts_eq (dialect : Dialect) (count : Nat) (assignments : List (String × Value)) :
    Update.assignmentTexts dialect count assignments =
      fillEach dialect count (assignmentPieces assignments) := by
  induction assignments generalizing count with
  | nil => rfl
  | cons assignment rest ih =>
    obtain ⟨column, literal⟩ := assignment
    simp only [assignmentPieces, List.map_cons] at ih ⊢
    simp [Update.assignmentTexts, fillEach, fill, ih, lastPlaceholder_eq_mark]

/-- The assigned values are the literals of their spots. -/
theorem slots_assignmentPieces (assignments : List (String × Value)) :
    (assignmentPieces assignments).flatMap slots = assignments.map Prod.snd := by
  induction assignments with
  | nil => rfl
  | cons assignment rest ih => simpa [assignmentPieces] using ih

/-- Whether an update compiles: it is validated by itself, and then its filter is. -/
def Update.accept (context : Context) (query : Update) : Except QueryError Unit := do
  query.validate
  acceptWhere context query.filter

def Delete.accept (context : Context) (query : Delete) : Except QueryError Unit := do
  query.validate
  acceptWhere context query.filter

theorem Update.compile_eq (context : Context) (query : Update) :
    query.compile context =
      (query.accept context).map fun _ => .ofPieces context.dialect #[] query.pieces := by
  have hstart : Compiled.mk
      ("update " ++ query.table ++ " set "
        ++ ", ".intercalate (assignmentTexts context.dialect 0 query.assignments))
      (query.assignments.map Prod.snd).toArray =
      .ofPieces context.dialect #[] ([.text ("update " ++ query.table ++ " set ")]
        ++ commaSeparated (assignmentPieces query.assignments)) := by
    simp [Compiled.ofPieces, fill, fill_commaSeparated, assignmentTexts_eq,
      slots_assignmentPieces, String.append_assoc]
  unfold compile accept
  rw [hstart, compileWhere_eq]
  cases query.validate <;> rfl

theorem Delete.compile_eq (context : Context) (query : Delete) :
    query.compile context =
      (query.accept context).map fun _ => .ofPieces context.dialect #[] query.pieces := by
  have hstart : Compiled.mk ("delete from " ++ query.table) #[] =
      .ofPieces context.dialect #[] [.text ("delete from " ++ query.table)] := by
    simp [Compiled.ofPieces, fill]
  unfold compile accept
  rw [hstart, compileWhere_eq]
  cases query.validate <;> rfl

theorem slots_rowPieces (row : List Value) : slots (rowPieces row) = row := by
  rw [rowPieces, slots_grouped, slots_commaSeparated, flatMap_slots_map_slot]

theorem rowMarks_eq (dialect : Dialect) (count : Nat) (rows : List (List Value)) :
    Insert.rowMarks dialect count rows = fillEach dialect count (rows.map rowPieces) := by
  induction rows generalizing count with
  | nil => rfl
  | cons row rest ih =>
    have hrow : fill dialect count (rowPieces row) =
        "(" ++ dialect.placeholder (count + 1) (count + row.length) ++ ")" := by
      rw [rowPieces, fill_grouped, placeholder_eq_fill]
    rw [Insert.rowMarks, List.map_cons, fillEach, slots_rowPieces, hrow, ih]

/-- The arguments of an insert are its rows one after the other. -/
theorem Insert.compile_eq (context : Context) (query : Insert) :
    query.compile context =
      query.validate.map fun _ => .ofPieces context.dialect #[] query.pieces := by
  have hslots : (query.cells.rows.map rowPieces).flatMap slots = query.cells.rows.flatten := by
    rw [List.flatMap_map]
    simp [slots_rowPieces, List.flatMap_id']
  unfold compile
  cases query.validate with
  | error error => rfl
  | ok _ =>
    simp [Compiled.ofPieces, pieces, fill, fill_commaSeparated, rowMarks_eq, hslots,
      String.append_assoc]

def Statement.accept (context : Context) : Statement → Except QueryError Unit
  | .select query => query.accept context
  | .insert query => query.validate
  | .update query => query.accept context
  | .delete query => query.accept context

theorem Statement.compile_eq (context : Context) (statement : Statement) :
    statement.compile context =
      (statement.accept context).map fun _ => .ofPieces context.dialect #[] statement.pieces := by
  cases statement with
  | select query => exact query.compile_eq context #[]
  | insert query => exact query.compile_eq context
  | update query => exact query.compile_eq context
  | delete query => exact query.compile_eq context

end QueryTree
