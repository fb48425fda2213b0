import QueryTree.Tree.Validate

/-!
Compiling a query tree to text and arguments. Every node takes the arguments bound so far and gives
them back with its own at the end, so the arguments stand in the order in which their marks are
written: fields, table, filter, limit.
-/

namespace QueryTree

/-- The text of a node, and all arguments bound up to its end. -/
structure Compiled where
  sql : String
  args : Array Value
deriving BEq, Repr

namespace Compiled

/-- The text in parentheses. -/
def parenthesized (compiled : Compiled) : Compiled :=
  { compiled with sql := "(" ++ compiled.sql ++ ")" }

/-- The text, renamed if there is an alias to write. -/
def named (compiled : Compiled) (aliasName : Option String) : Compiled :=
  match shownAlias aliasName with
  | some name => { compiled with sql := compiled.sql ++ " as " ++ name }
  | none => compiled

/-- A select as it stands by itself: in parentheses only if it is renamed. -/
def namedQuery (compiled : Compiled) (aliasName : Option String) : Compiled :=
  match shownAlias aliasName with
  | some _ => compiled.parenthesized.named aliasName
  | none => compiled

end Compiled

/-- A column, qualified by a table unless the table has no name. -/
def columnText (table : Option String) (name : String) : String :=
  match shownAlias table with
  | some table => table ++ "." ++ name
  | none => name

/-- The text of one sort key. -/
def SortKey.sql (key : SortKey) : Except QueryError String := do
  ensure (!key.field.isEmpty) .fieldRequired
  .ok (key.field ++ " " ++ (key.direction.getD .standard).keyword)

/-- The texts of the sort keys that are present. -/
def sortTexts : List (Option SortKey) → Except QueryError (List String)
  | [] => .ok []
  | none :: rest => sortTexts rest
  | some key :: rest => do
    let text ← key.sql
    let texts ← sortTexts rest
    .ok (text :: texts)

/-- The list on the right of a membership operator, unless a sub-query stands there. -/
def Operand.members? (operator : Operator) : Operand → Except QueryError (Option (List Value))
  | .subquery _ => .ok none
  | .value (.list items) =>
    match (Value.list items).scalarElements with
    | .ok items => .ok (some items)
    | .error (.kindUnbound kind) => .error (.elementForOperator kind operator)
    | .error error => .error error
  | .value literal => .error (.kindForOperator literal.kind operator)

/-- What stands for a compiled operand in a condition: the mark of the literal that was bound last,
or the text of the sub-query. -/
def Operand.text (dialect : Dialect) (operand : Operand) (compiled : Compiled) : String :=
  match operand with
  | .value _ => dialect.lastPlaceholder compiled.args.size
  | .subquery _ => compiled.sql

/-- The children of a logic joined by its keyword, in parentheses unless the logic is the root.
Children without a text leave no trace. -/
def joinChildren (logic : Option Logic) (root : Bool) (parts : List String) : String :=
  match parts.filter (fun part => !part.isEmpty) with
  | [] => ""
  | parts =>
    let joined := (" " ++ (logic.getD .standard).keyword ++ " ").intercalate parts
    if root then joined else "(" ++ joined ++ ")"

/-- A select but for its limit. The clauses without a text are left out. -/
def selectText (columns : List String) (source condition : String) (keys : List String) : String :=
  "select " ++ ", ".intercalate columns ++ " from " ++ source
    ++ (if condition.isEmpty then "" else " where " ++ condition)
    ++ (if keys.isEmpty then "" else " order by " ++ ", ".intercalate keys)

/-- Adds the limit, which is bound as an argument. Zero stands for no limit. -/
def Compiled.limitedTo (dialect : Dialect) (take : UInt64) (compiled : Compiled) : Compiled :=
  if take = 0 then compiled
  else
    let args := compiled.args.push (.uint take)
    ⟨compiled.sql ++ " limit " ++ dialect.lastPlaceholder args.size, args⟩

mutual

/-- A field without its alias. -/
def Field.compile (context : Context) :
    Field → (args : Array Value) → Except QueryError Compiled
  | .column table name aliasName, args => do
    (Field.column table name aliasName).validate
    .ok ⟨columnText table name, args⟩
  | .subquery query aliasName, args => do
    (Field.subquery query aliasName).validate
    let inner ← context.descend
    let compiled ← query.compile inner args
    .ok (compiled.namedQuery query.aliasName).parenthesized

/-- A table without its alias. -/
def Table.compile (context : Context) :
    Table → (args : Array Value) → Except QueryError Compiled
  | .named name aliasName, args => do
    (Table.named name aliasName).validate
    .ok ⟨name, args⟩
  | .subquery query aliasName, args => do
    (Table.subquery query aliasName).validate
    let inner ← context.descend
    let compiled ← query.compile inner args
    .ok (compiled.namedQuery query.aliasName).parenthesized

/-- The right side of a condition. A literal is bound and has no text of its own; its mark depends
on the condition. -/
def Operand.compile (context : Context) :
    Operand → (args : Array Value) → Except QueryError Compiled
  | .value literal, args => .ok ⟨"", args.push literal⟩
  | .subquery query, args => do
    let inner ← context.descend
    let compiled ← query.compile inner args
    .ok (compiled.namedQuery query.aliasName).parenthesized

/-- A filter that has been validated. -/
def Filter.compileNode (context : Context) (root : Bool) :
    Filter → (args : Array Value) → Except QueryError Compiled
  | ⟨_, none, some _, _, _⟩, _ => .error .fieldRequired
  | ⟨_, some field, some operator, value, _⟩, args => do
    let column ← field.compile context args
    match operator.operatorClass with
    | .nullCheck => .ok { column with sql := column.sql ++ " " ++ operator.symbol }
    | .comparison =>
      match value with
      | none => .error .valueRequired
      | some operand => do
        let right ← operand.compile context column.args
        .ok { right with
          sql := column.sql ++ " " ++ operator.symbol ++ " " ++ operand.text context.dialect right }
    | .pattern =>
      match value with
      | none => .error .valueRequired
      | some operand => do
        let right ← operand.compile context column.args
        let keyword := context.dialect.likeKeyword (operator == .notLike)
        .ok { right with
          sql := column.sql ++ " " ++ keyword ++ " concat('%', "
            ++ operand.text context.dialect right ++ ", '%')" }
    | .membership =>
      match value with
      | none => .error .valueRequired
      | some operand => do
        match ← operand.members? operator with
        | none => do
          let right ← operand.compile context column.args
          .ok { right with sql := column.sql ++ " " ++ operator.symbol ++ " " ++ right.sql }
        | some items =>
          let args := column.args ++ items
          let marks := context.dialect.placeholder (args.size + 1 - items.length) args.size
          .ok ⟨column.sql ++ " " ++ operator.symbol ++ " (" ++ marks ++ ")", args⟩
  | ⟨logic, _, none, _, filters⟩, args =>
    if filters.isEmpty then .ok ⟨"", args⟩
    else do
      let inner ← context.descend
      let (parts, args) ← compileChildren inner filters args
      .ok ⟨joinChildren logic root parts, args⟩

/-- The children of a logic that are present, from left to right. -/
def compileChildren (context : Context) :
    List (Option Filter) → (args : Array Value) → Except QueryError (List String × Array Value)
  | [], args => .ok ([], args)
  | none :: rest, args => compileChildren context rest args
  | some child :: rest, args => do
    let compiled ← child.compileNode context false args
    let (texts, args) ← compileChildren context rest compiled.args
    .ok (compiled.sql :: texts, args)

/-- The fields of a select with their aliases, from left to right. -/
def compileFields (context : Context) :
    List Field → (args : Array Value) → Except QueryError (List String × Array Value)
  | [], args => .ok ([], args)
  | field :: rest, args => do
    let compiled ← field.compile context args
    let (texts, args) ← compileFields context rest compiled.args
    .ok ((compiled.named field.aliasName).sql :: texts, args)

/-- A select without its alias. -/
def Select.compile (context : Context) :
    Select → (args : Array Value) → Except QueryError Compiled
  | ⟨fields, table, filter, sorts, take, aliasName⟩, args => do
    Select.validate context ⟨fields, table, filter, sorts, take, aliasName⟩
    let (columns, args) ← compileFields context fields args
    match table with
    | none => .error .tableRequired
    | some table => do
      let source ← table.compile context args
      let source := source.named table.aliasName
      let condition ← (match filter with
        | none => .ok ⟨"", source.args⟩
        | some filter => do
          filter.validate context
          filter.compileNode context true source.args)
      let keys ← sortTexts sorts
      .ok (Compiled.limitedTo context.dialect take
        ⟨selectText columns source.sql condition.sql keys, condition.args⟩)

end

namespace Field

/-- A field as a select lists it. -/
def compileNamed (context : Context) (field : Field) (args : Array Value) :
    Except QueryError Compiled := do
  let compiled ← field.compile context args
  .ok (compiled.named field.aliasName)

end Field

namespace Table

/-- A table as a select reads from it. -/
def compileNamed (context : Context) (table : Table) (args : Array Value) :
    Except QueryError Compiled := do
  let compiled ← table.compile context args
  .ok (compiled.named table.aliasName)

end Table

namespace Filter

/-- A filter as the condition of a statement, where the outermost logic needs no parentheses. -/
def compile (context : Context) (filter : Filter) (args : Array Value) :
    Except QueryError Compiled := do
  filter.validate context
  filter.compileNode context true args

/-- A filter as a part of a larger condition. -/
def compileNested (context : Context) (filter : Filter) (args : Array Value) :
    Except QueryError Compiled := do
  filter.validate context
  filter.compileNode context false args

end Filter

namespace Select

/-- A select as it is embedded, with its alias. -/
def compileNamed (context : Context) (query : Select) (args : Array Value) :
    Except QueryError Compiled := do
  let compiled ← query.compile context args
  .ok (compiled.namedQuery query.aliasName)

end Select

end QueryTree
