import QueryTree.Proofs.Embedding

/-!
The SQL that a statement derives, as a grammar. Each nonterminal goes along with the part of the
tree that it is written for, so a derivation says which of its brackets stand for which select:

    query     := select item, ... from source [where condition] [order by key, ...] [limit mark]
    item      := name [as alias] | (query) as alias
    source    := name [as alias] | (query) as alias
    left      := name | (query)
    right     := mark | (mark, ...) | (query)
    condition := left operator [right] | condition and ... | condition or ...

No nonterminal has a place for the alias that a select carries itself. What is compiled from a
statement is derived from it where no select that stands inside of it has such an alias; where one
has, its text stands in two pairs of parentheses with an alias between them.
-/

namespace QueryTree

open Piece

namespace Grammar

mutual

inductive Query : Select → List Piece → Prop
  | select {fields : List Field} {table : Table} {filter : Option Filter}
      {sorts : List (Option SortKey)} {take : UInt64} {aliasName : Option String}
      {items : List (List Piece)} {source restriction : List Piece}
      (listed : Items fields items) (read : Source table source)
      (restricted : Where filter restriction) :
      Query ⟨fields, some table, filter, sorts, take, aliasName⟩
        ([.text "select "] ++ commaSeparated items ++ [.text " from "] ++ source ++ restriction
          ++ ofSorts (keyTexts sorts) ++ ofTake take)

inductive Items : List Field → List (List Piece) → Prop
  | nil : Items [] []
  | cons {field : Field} {rest : List Field} {item : List Piece} {items : List (List Piece)}
      (first : Item field item) (others : Items rest items) :
      Items (field :: rest) (item :: items)

inductive Item : Field → List Piece → Prop
  | column (table : Option String) (name : String) (aliasName : Option String) :
      Item (.column table name aliasName) (renamed aliasName [.text (columnText table name)])
  | subquery {query : Select} {aliasName : Option String} {name : String} {pieces : List Piece}
      (inside : Query query pieces) (shown : shownAlias aliasName = some name) :
      Item (.subquery query aliasName) (grouped pieces ++ [.text (" as " ++ name)])

inductive Source : Table → List Piece → Prop
  | named (name : String) (aliasName : Option String) :
      Source (.named name aliasName) (renamed aliasName [.text name])
  | subquery {query : Select} {aliasName : Option String} {name : String} {pieces : List Piece}
      (inside : Query query pieces) (shown : shownAlias aliasName = some name) :
      Source (.subquery query aliasName) (grouped pieces ++ [.text (" as " ++ name)])

inductive Left : Field → List Piece → Prop
  | column (table : Option String) (name : String) (aliasName : Option String) :
      Left (.column table name aliasName) [.text (columnText table name)]
  | subquery {query : Select} {pieces : List Piece} (aliasName : Option String)
      (inside : Query query pieces) : Left (.subquery query aliasName) (grouped pieces)

/-- What stands on the right of an operator, which asks for one mark, for a list of them, or for
nothing. -/
inductive Right : Operator → Option Operand → List Piece → Prop
  | absent (operator : Operator) : Right operator none []
  | literal (operator : Operator) (literal : Value) :
      Right operator (some (.value literal)) (ofLiteral operator literal)
  | subquery {query : Select} {operator : Operator} {pieces : List Piece}
      (inside : Query query pieces) (asked : operator.operatorClass ≠ .nullCheck) :
      Right operator (some (.subquery query)) (grouped pieces)

/-- A condition, which is in parentheses if it is joined and not the root. -/
inductive Condition : (root : Bool) → Filter → List Piece → Prop
  | compared {field : Field} {operator : Operator} {value : Option Operand}
      {left right : List Piece} (root : Bool) (onLeft : Left field left)
      (onRight : Right operator value right) :
      Condition root ⟨none, some field, some operator, value, []⟩ (ofCondition operator left right)
  | joined {filters : List (Option Filter)} {parts : List (List Piece)} (root : Bool)
      (logic : Logic) {value : Option Operand}
      (nothing : ∀ operand, value = some operand → operand = .value .null)
      (children : Conditions filters parts) :
      Condition root ⟨some logic, none, none, value, filters⟩ (joined (some logic) root parts)

inductive Conditions : List (Option Filter) → List (List Piece) → Prop
  | nil : Conditions [] []
  | absent {rest : List (Option Filter)} {parts : List (List Piece)}
      (others : Conditions rest parts) : Conditions (none :: rest) parts
  | present {child : Filter} {rest : List (Option Filter)} {part : List Piece}
      {parts : List (List Piece)} (first : Condition false child part)
      (others : Conditions rest parts) : Conditions (some child :: rest) (part :: parts)

inductive Where : Option Filter → List Piece → Prop
  | absent : Where none []
  | present {filter : Filter} {pieces : List Piece} (condition : Condition true filter pieces) :
      Where (some filter) (ofWhere pieces)

end

/-- A select is a query. The other statements put clauses of their own in front of a condition. -/
inductive Statement : QueryTree.Statement → List Piece → Prop
  | select {query : Select} {pieces : List Piece} (derived : Query query pieces) :
      Statement (.select query) pieces
  | insert (query : Insert) : Statement (.insert query) query.pieces
  | update {query : Update} {restriction : List Piece}
      (restricted : Where query.filter restriction) :
      Statement (.update query) ([.text ("update " ++ query.table ++ " set ")]
        ++ commaSeparated (assignmentPieces query.assignments) ++ restriction)
  | delete {query : Delete} {restriction : List Piece}
      (restricted : Where query.filter restriction) :
      Statement (.delete query) ([.text ("delete from " ++ query.table)] ++ restriction)

end Grammar

/-- The select has no alias of its own, or an empty one. -/
def Embedding.Plain (site : Embedding) : Prop :=
  shownAlias site.query.aliasName = none

instance : DecidablePred Embedding.Plain :=
  fun site => inferInstanceAs (Decidable (shownAlias site.query.aliasName = none))

open Grammar

/-- A select without an alias of its own that stands inside of another tree, which is known to be
derived by itself. -/
theorem Select.derives_embedded {context : Context} {query : Select} {place : Place}
    (h : (context.descend >>= query.accept) = .ok ())
    (hplain : ∀ site ∈ ⟨query, place⟩ :: query.embeddings, site.Plain)
    (hinner : ∀ inner, query.accept inner = .ok () → (∀ site ∈ query.embeddings, site.Plain) →
      Query query query.pieces) :
    Query query query.pieces ∧ embedded query.aliasName query.pieces = grouped query.pieces := by
  obtain ⟨inner, -, haccept⟩ := bind_eq_ok.mp h
  obtain ⟨hown, hinside⟩ := List.forall_mem_cons.mp hplain
  have hnone : shownAlias query.aliasName = none := hown
  exact ⟨hinner inner haccept hinside, by simp [embedded, hnone]⟩

mutual

theorem Field.derives (context : Context) : ∀ (field : Field), field.accept context = .ok () →
    (∀ site ∈ field.embeddings (.source field.aliasName), site.Plain) →
      Item field (renamed field.aliasName field.pieces)
  | .column table name aliasName, _, _ => .column table name aliasName
  | .subquery query aliasName, h, hplain => by
    rw [Field.accept, check_bind_eq_ok, Field.validate, ensure_eq_ok] at h
    obtain ⟨name, hname⟩ := Option.isSome_iff_exists.mp h.1
    obtain ⟨hquery, hpieces⟩ := Select.derives_embedded h.2 hplain query.derives
    rw [Field.pieces, Field.aliasName, renamed_of_closes ⟨name, hname, rfl⟩, hpieces]
    exact .subquery hquery hname

theorem Field.derives_left (context : Context) : ∀ (field : Field),
    field.accept context = .ok () → (∀ site ∈ field.embeddings .side, site.Plain) →
      Left field field.pieces
  | .column table name aliasName, _, _ => .column table name aliasName
  | .subquery query aliasName, h, hplain => by
    rw [Field.accept, check_bind_eq_ok] at h
    obtain ⟨hquery, hpieces⟩ := Select.derives_embedded h.2 hplain query.derives
    rw [Field.pieces, hpieces]
    exact .subquery aliasName hquery

theorem Table.derives (context : Context) : ∀ (table : Table), table.accept context = .ok () →
    (∀ site ∈ table.embeddings, site.Plain) →
      Source table (renamed table.aliasName table.pieces)
  | .named name aliasName, _, _ => .named name aliasName
  | .subquery query aliasName, h, hplain => by
    rw [Table.accept, check_bind_eq_ok, Table.validate, ensure_eq_ok] at h
    obtain ⟨name, hname⟩ := Option.isSome_iff_exists.mp h.1
    obtain ⟨hquery, hpieces⟩ := Select.derives_embedded h.2 hplain query.derives
    rw [Table.pieces, Table.aliasName, renamed_of_closes ⟨name, hname, rfl⟩, hpieces]
    exact .subquery hquery hname

theorem right_derives (context : Context) (operator : Operator) : ∀ (value : Option Operand),
    operator.Accepts value → (∀ right, value = some right → right.accept context = .ok ()) →
      (∀ site ∈ rightEmbeddings value, site.Plain) →
        Right operator value (operandPieces operator value)
  | none, _, _, _ => .absent operator
  | some (.value literal), _, _, _ => .literal operator literal
  | some (.subquery query), hasked, h, hplain => by
    have haccept := h _ rfl
    rw [Operand.accept] at haccept
    obtain ⟨hquery, hpieces⟩ := Select.derives_embedded haccept hplain query.derives
    rw [operandPieces, Operand.pieces, hpieces]
    exact .subquery hquery hasked

theorem Filter.derives (context : Context) (root : Bool) : ∀ (filter : Filter),
    filter.accept context = .ok () → (∀ site ∈ filter.embeddings, site.Plain) →
      Condition root filter (filter.pieces root)
  | ⟨none, none, operator, value, filters⟩, h, _ => by
    simp [Filter.accept_condition_iff] at h
  | ⟨none, some field, operator, value, filters⟩, h, hplain => by
    obtain ⟨rfl, ⟨left, hfield, hleft⟩, ⟨present, rfl, haccepts⟩, hright⟩ :=
      (Filter.accept_condition_iff context (some field) operator value filters).mp h
    cases hfield
    rw [Filter.embeddings, List.forall_mem_append, List.forall_mem_append] at hplain
    exact .compared root (field.derives_left context hleft hplain.1.1)
      (right_derives context present value haccepts hright hplain.1.2)
  | ⟨some logic, field, operator, value, filters⟩, h, hplain => by
    obtain ⟨rfl, rfl, hnull, -, hchildren⟩ :=
      (Filter.accept_logic_iff context logic field operator value filters).mp h
    obtain ⟨inner, -, hchildren⟩ := bind_eq_ok.mp hchildren
    rw [Filter.embeddings, List.forall_mem_append] at hplain
    exact .joined root logic hnull (children_derive inner filters hchildren hplain.2)

theorem children_derive (context : Context) : ∀ (filters : List (Option Filter)),
    acceptAll context filters = .ok () → (∀ site ∈ childEmbeddings filters, site.Plain) →
      Conditions filters (childPieces filters)
  | [], _, _ => .nil
  | none :: rest, h, hplain => .absent (children_derive context rest h hplain)
  | some child :: rest, h, hplain => by
    obtain ⟨hchild, hrest⟩ := (acceptAll_cons_iff context child rest).mp h
    rw [childEmbeddings, List.forall_mem_append] at hplain
    exact .present (child.derives context false hchild hplain.1)
      (children_derive context rest hrest hplain.2)

theorem fields_derive (context : Context) : ∀ (fields : List Field),
    acceptFields context fields = .ok () → (∀ site ∈ fieldEmbeddings fields, site.Plain) →
      Items fields (fieldPieces fields)
  | [], _, _ => .nil
  | field :: rest, h, hplain => by
    rw [acceptFields, check_bind_eq_ok] at h
    rw [fieldEmbeddings, List.forall_mem_append] at hplain
    exact .cons (field.derives context h.1 hplain.1) (fields_derive context rest h.2 hplain.2)

theorem where_derives (context : Context) : ∀ (filter : Option Filter),
    acceptWhere context filter = .ok () → (∀ site ∈ whereEmbeddings filter, site.Plain) →
      Where filter (wherePieces filter)
  | none, _, _ => .absent
  | some filter, h, hplain => .present (filter.derives context true h hplain)

theorem Select.derives (context : Context) : ∀ (query : Select),
    query.accept context = .ok () → (∀ site ∈ query.embeddings, site.Plain) →
      Query query query.pieces
  | ⟨fields, none, filter, sorts, take, aliasName⟩, h, _ => by
    simp [Select.accept_clauses_iff, acceptTable] at h
  | ⟨fields, some table, filter, sorts, take, aliasName⟩, h, hplain => by
    obtain ⟨-, hfields, htable, hfilter, -⟩ :=
      (Select.accept_clauses_iff context fields (some table) filter sorts take aliasName).mp h
    rw [Select.embeddings, List.forall_mem_append, List.forall_mem_append] at hplain
    exact .select (fields_derive context fields hfields hplain.1.1)
      (table.derives context htable hplain.1.2) (where_derives context filter hfilter hplain.2)

end

theorem Statement.derives {context : Context} {statement : QueryTree.Statement}
    (h : statement.accept context = .ok ())
    (hplain : ∀ site ∈ statement.embeddings, site.Plain) :
    Grammar.Statement statement statement.pieces := by
  cases statement with
  | select query => exact .select (query.derives context h hplain)
  | insert query => exact .insert query
  | update query =>
    obtain ⟨filter, hfilter, haccept⟩ := query.filter_of_accept h
    apply Grammar.Statement.update
    rw [Statement.embeddings, hfilter] at hplain
    rw [hfilter]
    exact where_derives context (some filter) haccept hplain
  | delete query =>
    obtain ⟨filter, hfilter, haccept⟩ := query.filter_of_accept h
    apply Grammar.Statement.delete
    rw [Statement.embeddings, hfilter] at hplain
    rw [hfilter]
    exact where_derives context (some filter) haccept hplain

end QueryTree
