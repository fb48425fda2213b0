import QueryTree.Proofs.WellFormed
import QueryTree.Proofs.WhereClause

/-!
Selects that stand inside of other trees. Each of them is written in parentheses, and behind the
parentheses stands the alias of the field or table that it is, or nothing where it is a side of a
condition. What lies between the parentheses is the select as it compiles by itself, unless it has
an alias of its own: then that alias is written as well, inside of the outer parentheses and behind
inner ones.
-/

namespace QueryTree

open Piece

/-- What a select is to the tree that it stands in. -/
inductive Place where
  /-- A field that is listed or a table, which has an alias of its own. -/
  | source (aliasName : Option String)
  /-- A side of a condition. -/
  | side

/-- A select that stands inside of a tree. -/
structure Embedding where
  query : Select
  place : Place

mutual

/-- The selects that stand inside of a tree, on every level. -/
def Field.embeddings (place : Place) : Field → List Embedding
  | .column _ _ _ => []
  | .subquery query _ => ⟨query, place⟩ :: query.embeddings

def Table.embeddings : Table → List Embedding
  | .named _ _ => []
  | .subquery query aliasName => ⟨query, .source aliasName⟩ :: query.embeddings

def Operand.embeddings : Operand → List Embedding
  | .value _ => []
  | .subquery query => ⟨query, .side⟩ :: query.embeddings

def Filter.embeddings : Filter → List Embedding
  | ⟨_, field, _, value, filters⟩ =>
    leftEmbeddings field ++ rightEmbeddings value ++ childEmbeddings filters

def leftEmbeddings : Option Field → List Embedding
  | none => []
  | some field => field.embeddings .side

def rightEmbeddings : Option Operand → List Embedding
  | none => []
  | some operand => operand.embeddings

def childEmbeddings : List (Option Filter) → List Embedding
  | [] => []
  | none :: rest => childEmbeddings rest
  | some child :: rest => child.embeddings ++ childEmbeddings rest

def fieldEmbeddings : List Field → List Embedding
  | [] => []
  | field :: rest => field.embeddings (.source field.aliasName) ++ fieldEmbeddings rest

def sourceEmbeddings : Option Table → List Embedding
  | none => []
  | some table => table.embeddings

def whereEmbeddings : Option Filter → List Embedding
  | none => []
  | some filter => filter.embeddings

def Select.embeddings : Select → List Embedding
  | ⟨fields, table, filter, _, _, _⟩ =>
    fieldEmbeddings fields ++ sourceEmbeddings table ++ whereEmbeddings filter

end

def Statement.embeddings : Statement → List Embedding
  | .select query => query.embeddings
  | .insert _ => []
  | .update query => whereEmbeddings query.filter
  | .delete query => whereEmbeddings query.filter

/-- What is written behind the parentheses. -/
def Place.Closes : Place → (closing : List Piece) → Prop
  | .source aliasName, closing => ∃ name, shownAlias aliasName = some name ∧
      closing = [.text (" as " ++ name)]
  | .side, closing => closing = []

namespace Embedding

/-- The select is accepted by itself, and stands in a rendering as its place asks for. -/
def Found (site : Embedding) (dialect : Dialect) (pieces : List Piece) : Prop :=
  ∃ inner closing, inner.dialect = dialect ∧ site.query.accept inner = .ok () ∧
    site.place.Closes closing ∧
    embedded site.query.aliasName site.query.pieces ++ closing <:+: pieces

theorem Found.mono {site : Embedding} {dialect : Dialect} {part pieces : List Piece}
    (h : site.Found dialect part) (hpart : part <:+: pieces) : site.Found dialect pieces := by
  obtain ⟨inner, closing, hdialect, haccept, hcloses, hinfix⟩ := h
  exact ⟨inner, closing, hdialect, haccept, hcloses, hinfix.trans hpart⟩

end Embedding

theorem infix_embedded (aliasName : Option String) (pieces : List Piece) :
    pieces <:+: embedded aliasName pieces := by
  unfold embedded renamed
  cases shownAlias aliasName with
  | none => exact infix_grouped pieces
  | some name =>
    exact (List.infix_append_of_infix_left (infix_grouped pieces)).trans (infix_grouped _)

/-- A field or a table with an alias, as it is written with it. -/
theorem renamed_of_closes {aliasName : Option String} {closing : List Piece}
    (h : (Place.source aliasName).Closes closing) (pieces : List Piece) :
    renamed aliasName pieces = pieces ++ closing := by
  obtain ⟨name, hname, rfl⟩ := h
  simp [renamed, hname]

theorem closes_of_isSome {aliasName : Option String}
    (h : (shownAlias aliasName).isSome = true) :
    ∃ closing, (Place.source aliasName).Closes closing := by
  obtain ⟨name, hname⟩ := Option.isSome_iff_exists.mp h
  exact ⟨_, name, hname, rfl⟩

section Found

variable {context : Context}

/-- What is to be shown of an embedded select, whose own parts are known to be found in it. -/
theorem Select.found_embedded {query : Select} {place : Place} {closing : List Piece}
    (haccept : (context.descend >>= query.accept) = .ok ())
    (hinner : ∀ inner, query.accept inner = .ok () →
      ∀ site ∈ query.embeddings, site.Found inner.dialect query.pieces)
    (hcloses : place.Closes closing) :
    ∀ site ∈ ⟨query, place⟩ :: query.embeddings,
      site.Found context.dialect (embedded query.aliasName query.pieces ++ closing) := by
  obtain ⟨inner, hdescend, haccept⟩ := bind_eq_ok.mp haccept
  have hdialect := Context.dialect_of_descend hdescend
  intro site hsite
  rcases List.mem_cons.mp hsite with rfl | hsite
  · exact ⟨inner, closing, hdialect, haccept, hcloses, List.infix_refl _⟩
  · have hfound := hinner inner haccept site hsite
    rw [hdialect] at hfound
    exact (hfound.mono (infix_embedded _ _)).mono List.infix_append_left

/-- A select that is a side of a condition has nothing behind its parentheses. -/
theorem Select.found_side {query : Select}
    (haccept : (context.descend >>= query.accept) = .ok ())
    (hinner : ∀ inner, query.accept inner = .ok () →
      ∀ site ∈ query.embeddings, site.Found inner.dialect query.pieces) :
    ∀ site ∈ ⟨query, .side⟩ :: query.embeddings,
      site.Found context.dialect (embedded query.aliasName query.pieces) := by
  have hcloses : Place.side.Closes [] := rfl
  have hfound := Select.found_embedded haccept hinner hcloses
  rwa [List.append_nil] at hfound

theorem infix_ofCondition_left (operator : Operator) (left right : List Piece) :
    left <:+: ofCondition operator left right := by
  unfold ofCondition
  cases operator.operatorClass with
  | nullCheck => exact List.infix_append_left
  | comparison => exact List.infix_append_of_infix_left List.infix_append_left
  | membership => exact List.infix_append_of_infix_left List.infix_append_left
  | pattern =>
    exact List.infix_append_of_infix_left (List.infix_append_of_infix_left List.infix_append_left)

theorem infix_ofCondition_right {operator : Operator} (h : operator.operatorClass ≠ .nullCheck)
    (left right : List Piece) : right <:+: ofCondition operator left right := by
  unfold ofCondition
  cases hclass : operator.operatorClass with
  | nullCheck => exact absurd hclass h
  | comparison => exact List.infix_append_right
  | membership => exact List.infix_append_right
  | pattern => exact List.infix_append _ _ _

/-- Where a literal null is all that may stand, no select does. -/
theorem rightEmbeddings_of_null {value : Option Operand}
    (h : ∀ operand, value = some operand → operand = .value .null) :
    rightEmbeddings value = [] := by
  cases value with
  | none => rfl
  | some operand =>
    obtain rfl := h operand rfl
    rfl

theorem found_cons {sites others : List Embedding} {part : List Piece} {parts : List (List Piece)}
    (hpart : ∀ site ∈ sites, site.Found context.dialect part)
    (hparts : ∀ site ∈ others, ∃ other ∈ parts, site.Found context.dialect other) :
    ∀ site ∈ sites ++ others, ∃ other ∈ part :: parts, site.Found context.dialect other := by
  intro site hsite
  rcases List.mem_append.mp hsite with hsite | hsite
  · exact ⟨part, by simp, hpart site hsite⟩
  · obtain ⟨other, hother, hfound⟩ := hparts site hsite
    exact ⟨other, List.mem_cons_of_mem _ hother, hfound⟩

theorem found_where {filter : Filter}
    (h : ∀ site ∈ filter.embeddings, site.Found context.dialect (filter.pieces true)) :
    ∀ site ∈ whereEmbeddings (some filter),
      site.Found context.dialect (wherePieces (some filter)) := by
  intro site hsite
  refine (h site hsite).mono ?_
  rw [wherePieces, ofWhere]
  cases filter.pieces true with
  | nil => exact List.nil_infix
  | cons piece rest => exact List.infix_append_right

/-- A select that is found in a clause is found in the whole. -/
theorem Select.found_clauses {fields : List Field} {table : Table} {filter : Option Filter}
    {sorts : List (Option SortKey)} {take : UInt64} {aliasName : Option String}
    (hfields : ∀ site ∈ fieldEmbeddings fields, ∃ part ∈ fieldPieces fields,
      site.Found context.dialect part)
    (htable : ∀ site ∈ table.embeddings,
      site.Found context.dialect (renamed table.aliasName table.pieces))
    (hfilter : ∀ site ∈ whereEmbeddings filter, site.Found context.dialect (wherePieces filter)) :
    ∀ site ∈ Select.embeddings ⟨fields, some table, filter, sorts, take, aliasName⟩,
      site.Found context.dialect
        (Select.pieces ⟨fields, some table, filter, sorts, take, aliasName⟩) := by
  intro site hsite
  rw [Select.embeddings, List.mem_append, List.mem_append] at hsite
  rw [Select.pieces]
  -- The limit and the sort keys are written behind all of them.
  refine Embedding.Found.mono ?_ List.infix_append_left
  refine Embedding.Found.mono ?_ List.infix_append_left
  rcases hsite with (hsite | hsite) | hsite
  · obtain ⟨part, hpart, hfound⟩ := hfields site hsite
    have hcolumns : part <:+: commaSeparated (fieldPieces fields) := infix_intercalate hpart
    have hhead : part <:+: [.text "select "] ++ commaSeparated (fieldPieces fields) :=
      List.infix_append_of_infix_right hcolumns
    exact hfound.mono (List.infix_append_of_infix_left
      (List.infix_append_of_infix_left (List.infix_append_of_infix_left hhead)))
  · exact (htable site hsite).mono (List.infix_append_of_infix_left List.infix_append_right)
  · exact (hfilter site hsite).mono List.infix_append_right

end Found

mutual

/-- A field that is listed is written with its alias. -/
theorem Field.found (context : Context) : ∀ (field : Field), field.accept context = .ok () →
    ∀ site ∈ field.embeddings (.source field.aliasName),
      site.Found context.dialect (renamed field.aliasName field.pieces)
  | .column _ _ _, _ => nofun
  | .subquery query aliasName, h => by
    rw [Field.accept, check_bind_eq_ok, Field.validate, ensure_eq_ok] at h
    obtain ⟨closing, hcloses⟩ := closes_of_isSome h.1
    rw [Field.aliasName, renamed_of_closes hcloses]
    exact Select.found_embedded h.2 query.found hcloses

/-- A field that is the left side of a condition is written without its alias. -/
theorem Field.found_left (context : Context) : ∀ (field : Field), field.accept context = .ok () →
    ∀ site ∈ field.embeddings .side, site.Found context.dialect field.pieces
  | .column _ _ _, _ => nofun
  | .subquery query aliasName, h => by
    rw [Field.accept, check_bind_eq_ok] at h
    exact Select.found_side h.2 query.found

theorem Table.found (context : Context) : ∀ (table : Table), table.accept context = .ok () →
    ∀ site ∈ table.embeddings, site.Found context.dialect (renamed table.aliasName table.pieces)
  | .named _ _, _ => nofun
  | .subquery query aliasName, h => by
    rw [Table.accept, check_bind_eq_ok, Table.validate, ensure_eq_ok] at h
    obtain ⟨closing, hcloses⟩ := closes_of_isSome h.1
    rw [Table.aliasName, renamed_of_closes hcloses]
    exact Select.found_embedded h.2 query.found hcloses

theorem right_found (context : Context) (operator : Operator) : ∀ (value : Option Operand),
    (∀ right, value = some right → right.accept context = .ok ()) →
      ∀ site ∈ rightEmbeddings value, site.Found context.dialect (operandPieces operator value)
  | none, _ => nofun
  | some (.value _), _ => nofun
  | some (.subquery query), h => Select.found_side (h _ rfl) query.found

theorem Filter.found (context : Context) (root : Bool) : ∀ (filter : Filter),
    filter.accept context = .ok () →
      ∀ site ∈ filter.embeddings, site.Found context.dialect (filter.pieces root)
  | ⟨none, none, operator, value, filters⟩, h => by
    simp [Filter.accept_condition_iff] at h
  | ⟨none, some field, operator, value, filters⟩, h => by
    obtain ⟨rfl, ⟨left, hfield, hleft⟩, ⟨present, rfl, haccepts⟩, hright⟩ :=
      (Filter.accept_condition_iff context (some field) operator value filters).mp h
    cases hfield
    have hleftFound := field.found_left context hleft
    have hrightFound := right_found context present value hright
    rw [Filter.embeddings, childEmbeddings, List.append_nil, List.forall_mem_append, Filter.pieces]
    constructor
    · intro site hsite
      exact (hleftFound site hsite).mono (infix_ofCondition_left present field.pieces _)
    · intro site hsite
      by_cases hclass : present.operatorClass = .nullCheck
      · have hnull := (present.accepts_of_nullCheck value hclass).mp haccepts
        rw [rightEmbeddings_of_null hnull] at hsite
        cases hsite
      · exact (hrightFound site hsite).mono (infix_ofCondition_right hclass field.pieces _)
  | ⟨some logic, field, operator, value, filters⟩, h => by
    obtain ⟨rfl, rfl, hnull, -, hchildren⟩ :=
      (Filter.accept_logic_iff context logic field operator value filters).mp h
    obtain ⟨inner, hdescend, hchildren⟩ := bind_eq_ok.mp hchildren
    have hfound := children_found inner filters hchildren
    rw [Context.dialect_of_descend hdescend] at hfound
    rw [Filter.embeddings, leftEmbeddings, rightEmbeddings_of_null hnull, Filter.pieces]
    intro site hsite
    obtain ⟨part, hpart, hsiteFound⟩ := hfound site hsite
    exact hsiteFound.mono (infix_joined hpart (List.infix_refl part))

theorem children_found (context : Context) : ∀ (filters : List (Option Filter)),
    acceptAll context filters = .ok () →
      ∀ site ∈ childEmbeddings filters, ∃ part ∈ childPieces filters,
        site.Found context.dialect part
  | [], _ => nofun
  | none :: rest, h => children_found context rest h
  | some child :: rest, h => by
    obtain ⟨hchild, hrest⟩ := (acceptAll_cons_iff context child rest).mp h
    rw [childEmbeddings, childPieces]
    exact found_cons (child.found context false hchild) (children_found context rest hrest)

theorem fields_found (context : Context) : ∀ (fields : List Field),
    acceptFields context fields = .ok () →
      ∀ site ∈ fieldEmbeddings fields, ∃ part ∈ fieldPieces fields,
        site.Found context.dialect part
  | [], _ => nofun
  | field :: rest, h => by
    rw [acceptFields, check_bind_eq_ok] at h
    rw [fieldEmbeddings, fieldPieces]
    exact found_cons (field.found context h.1) (fields_found context rest h.2)

theorem where_found (context : Context) : ∀ (filter : Option Filter),
    acceptWhere context filter = .ok () →
      ∀ site ∈ whereEmbeddings filter, site.Found context.dialect (wherePieces filter)
  | none, _ => nofun
  | some filter, h => found_where (filter.found context true h)

theorem Select.found (context : Context) : ∀ (query : Select), query.accept context = .ok () →
    ∀ site ∈ query.embeddings, site.Found context.dialect query.pieces
  | ⟨fields, none, filter, sorts, take, aliasName⟩, h => by
    simp [Select.accept_clauses_iff, acceptTable] at h
  | ⟨fields, some table, filter, sorts, take, aliasName⟩, h => by
    obtain ⟨-, hfields, htable, hfilter, -⟩ :=
      (Select.accept_clauses_iff context fields (some table) filter sorts take aliasName).mp h
    exact Select.found_clauses (fields_found context fields hfields) (table.found context htable)
      (where_found context filter hfilter)

end

theorem Statement.found {context : Context} {statement : Statement}
    (h : statement.accept context = .ok ()) :
    ∀ site ∈ statement.embeddings, site.Found context.dialect statement.pieces := by
  cases statement with
  | select query => exact query.found context h
  | insert query => exact nofun
  | update query =>
    obtain ⟨filter, hfilter, haccept⟩ := query.filter_of_accept h
    rw [embeddings, hfilter, pieces, Update.pieces, hfilter]
    intro site hsite
    exact (where_found context (some filter) haccept site hsite).mono List.infix_append_right
  | delete query =>
    obtain ⟨filter, hfilter, haccept⟩ := query.filter_of_accept h
    rw [embeddings, hfilter, pieces, Delete.pieces, hfilter]
    intro site hsite
    exact (where_found context (some filter) haccept site hsite).mono List.infix_append_right

/-- What the text goes on with behind the parentheses: the alias of a field or a table, and nothing
behind a side of a condition. -/
inductive Place.Ends : Place → (ending : String) → Prop
  | source {aliasName : Option String} {name : String} (shown : shownAlias aliasName = some name) :
    Ends (.source aliasName) (" as " ++ name)
  | side : Ends .side ""

/-- What is written between the parentheses around a select that compiles to `plain` by itself. -/
def Select.inside (query : Select) (plain : String) : String :=
  match shownAlias query.aliasName with
  | none => plain
  | some own => "(" ++ plain ++ ") as " ++ own

/-- The select compiles by itself, behind some arguments, and stands in the text in parentheses,
which end as its place asks for. -/
def Embedding.StandsIn (site : Embedding) (context : Context) (text : String) : Prop :=
  ∃ inner args plain ending before after,
    inner.dialect = context.dialect ∧ site.query.compile inner args = .ok plain ∧
      site.place.Ends ending ∧
      text = before ++ "(" ++ site.query.inside plain.sql ++ ")" ++ ending ++ after

theorem Place.Closes.ends {place : Place} {closing : List Piece} (h : place.Closes closing)
    (dialect : Dialect) (count : Nat) : place.Ends (fill dialect count closing) := by
  cases place with
  | source aliasName =>
    obtain ⟨name, hname, rfl⟩ := h
    have hfill : fill dialect count [.text (" as " ++ name)] = " as " ++ name := by simp [fill]
    rw [hfill]
    exact .source hname
  | side =>
    cases h
    exact .side

theorem fill_embedded (dialect : Dialect) (count : Nat) (query : Select) :
    fill dialect count (embedded query.aliasName query.pieces) =
      "(" ++ query.inside (fill dialect count query.pieces) ++ ")" := by
  unfold embedded Select.inside renamed
  cases shownAlias query.aliasName with
  | none => exact fill_grouped dialect count query.pieces
  | some own =>
    have hclose (rest : String) : ")" ++ (" as " ++ rest) = ") as " ++ rest := by
      rw [← String.append_assoc]
      rfl
    simp only [fill_grouped, fill_append, fill, String.append_empty, String.append_assoc, hclose]

theorem Embedding.Found.standsIn {site : Embedding} {context : Context} {pieces : List Piece}
    (h : site.Found context.dialect pieces) (args : Array Value) :
    site.StandsIn context (fill context.dialect args.size pieces) := by
  obtain ⟨inner, closing, hdialect, haccept, hcloses, before, after, rfl⟩ := h
  have hcompile : site.query.compile inner (args ++ slots before) =
      .ok (.ofPieces inner.dialect (args ++ slots before) site.query.pieces) := by
    rw [Select.compile_eq, haccept, map_ok]
  have hplain : fill context.dialect (args.size + (slots before).length) site.query.pieces =
      (Compiled.ofPieces inner.dialect (args ++ slots before) site.query.pieces).sql := by
    rw [Compiled.ofPieces, size_append_values, hdialect]
  simp only [fill_append, fill_embedded, hplain, ← String.append_assoc]
  exact ⟨inner, args ++ slots before, _, _, _, _, hdialect, hcompile, hcloses.ends _ _, rfl⟩

end QueryTree
