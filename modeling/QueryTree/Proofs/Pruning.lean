import QueryTree.Proofs.Conditions
import QueryTree.Proofs.WellFormed
import QueryTree.Tree.Build

/-!
Pruning a query tree. Sort keys that are absent, children that are absent or hold no condition, and
filters of selects that hold no condition are taken away on every level, and what is left compiles
to the same text and the same arguments. A filter compiles to nothing exactly if it holds no
condition, and then a select goes without its `where` clause.
-/

namespace QueryTree

open Piece

mutual

def Field.prune : Field → Field
  | .column table name aliasName => .column table name aliasName
  | .subquery query aliasName => .subquery query.prune aliasName

def Table.prune : Table → Table
  | .named name aliasName => .named name aliasName
  | .subquery query aliasName => .subquery query.prune aliasName

def Operand.prune : Operand → Operand
  | .value literal => .value literal
  | .subquery query => .subquery query.prune

def Filter.prune : Filter → Filter
  | ⟨logic, field, operator, value, filters⟩ =>
    ⟨logic, pruneLeft field, operator, pruneRight value, pruneChildren filters⟩

def pruneLeft : Option Field → Option Field
  | none => none
  | some field => some field.prune

def pruneRight : Option Operand → Option Operand
  | none => none
  | some operand => some operand.prune

/-- The children that hold a condition. -/
def pruneChildren : List (Option Filter) → List (Option Filter)
  | [] => []
  | none :: rest => pruneChildren rest
  | some child :: rest =>
    if child.conditions.isEmpty then pruneChildren rest
    else some child.prune :: pruneChildren rest

def pruneFields : List Field → List Field
  | [] => []
  | field :: rest => field.prune :: pruneFields rest

def pruneSource : Option Table → Option Table
  | none => none
  | some table => some table.prune

def pruneWhere : Option Filter → Option Filter
  | none => none
  | some filter => if filter.conditions.isEmpty then none else some filter.prune

def Select.prune : Select → Select
  | ⟨fields, table, filter, sorts, take, aliasName⟩ =>
    ⟨pruneFields fields, pruneSource table, pruneWhere filter, sorts.filter Option.isSome, take,
      aliasName⟩

end

mutual

/-- There is nothing left to take away. -/
def Field.Pruned : Field → Prop
  | .column _ _ _ => True
  | .subquery query _ => query.Pruned

def Table.Pruned : Table → Prop
  | .named _ _ => True
  | .subquery query _ => query.Pruned

def Operand.Pruned : Operand → Prop
  | .value _ => True
  | .subquery query => query.Pruned

def Filter.Pruned : Filter → Prop
  | ⟨_, field, _, value, filters⟩ =>
    leftPruned field ∧ rightPruned value ∧ childrenPruned filters

def leftPruned : Option Field → Prop
  | none => True
  | some field => field.Pruned

def rightPruned : Option Operand → Prop
  | none => True
  | some operand => operand.Pruned

def childrenPruned : List (Option Filter) → Prop
  | [] => True
  | none :: _ => False
  | some child :: rest => (child.conditions ≠ [] ∧ child.Pruned) ∧ childrenPruned rest

def fieldsPruned : List Field → Prop
  | [] => True
  | field :: rest => field.Pruned ∧ fieldsPruned rest

def sourcePruned : Option Table → Prop
  | none => True
  | some table => table.Pruned

def wherePruned : Option Filter → Prop
  | none => True
  | some filter => filter.conditions ≠ [] ∧ filter.Pruned

def Select.Pruned : Select → Prop
  | ⟨fields, table, filter, sorts, _, _⟩ =>
    fieldsPruned fields ∧ sourcePruned table ∧ wherePruned filter ∧ none ∉ sorts

end

section Shape

theorem Field.aliasName_prune (field : Field) : field.prune.aliasName = field.aliasName := by
  cases field <;> rfl

theorem Table.aliasName_prune (table : Table) : table.prune.aliasName = table.aliasName := by
  cases table <;> rfl

theorem Select.aliasName_prune (query : Select) : query.prune.aliasName = query.aliasName := by
  cases query
  rfl

theorem pruneFields_ne_nil {fields : List Field} (h : fields ≠ []) : pruneFields fields ≠ [] := by
  cases fields with
  | nil => exact absurd rfl h
  | cons field rest => exact nofun

section Kept

variable {filter : Filter}

theorem pruneChildren_of_conditions (h : filter.conditions ≠ []) (rest : List (Option Filter)) :
    pruneChildren (some filter :: rest) = some filter.prune :: pruneChildren rest := by
  rw [pruneChildren, if_neg (by simpa using h)]

theorem pruneChildren_of_hollow (h : filter.conditions = []) (rest : List (Option Filter)) :
    pruneChildren (some filter :: rest) = pruneChildren rest := by
  rw [pruneChildren, if_pos (by simpa using h)]

theorem pruneWhere_of_conditions (h : filter.conditions ≠ []) :
    pruneWhere (some filter) = some filter.prune := by
  rw [pruneWhere, if_neg (by simpa using h)]

theorem pruneWhere_of_hollow (h : filter.conditions = []) : pruneWhere (some filter) = none := by
  rw [pruneWhere, if_pos (by simpa using h)]

end Kept

mutual

/-- A filter that holds a condition still holds one. -/
theorem Filter.conditions_prune : ∀ (filter : Filter), filter.conditions ≠ [] →
    filter.prune.conditions ≠ []
  | ⟨logic, field, some operator, value, filters⟩, _ => by
    rw [Filter.prune, Filter.conditions]
    exact List.cons_ne_nil _ _
  | ⟨logic, field, none, value, filters⟩, h => childConditions_prune filters h

theorem childConditions_prune : ∀ (filters : List (Option Filter)), childConditions filters ≠ [] →
    childConditions (pruneChildren filters) ≠ []
  | [], h => h
  | none :: rest, h => childConditions_prune rest h
  | some child :: rest, h => by
    by_cases hconditions : child.conditions = []
    · rw [childConditions, hconditions] at h
      rw [pruneChildren_of_hollow hconditions]
      exact childConditions_prune rest h
    · rw [pruneChildren_of_conditions hconditions, childConditions]
      exact List.append_ne_nil_of_left_ne_nil (child.conditions_prune hconditions) _

end

/-- A logic that holds a condition keeps one of its children. -/
theorem pruneChildren_ne_nil {filters : List (Option Filter)} (h : childConditions filters ≠ []) :
    pruneChildren filters ≠ [] := by
  intro hnil
  apply childConditions_prune filters h
  rw [hnil]
  rfl

theorem Operator.accepts_prune {operator : Operator} {value : Option Operand}
    (h : operator.Accepts value) : operator.Accepts (pruneRight value) := by
  cases value with
  | none => exact h
  | some operand => cases operand <;> exact h

theorem keyTexts_filter (sorts : List (Option SortKey)) :
    keyTexts (sorts.filter Option.isSome) = keyTexts sorts := by
  induction sorts with
  | nil => rfl
  | cons entry rest ih =>
    cases entry with
    | none => exact ih
    | some key => exact congrArg (key.text :: ·) ih

/-- Joining leaves out what renders nothing, so it may be left out before. -/
theorem Piece.joined_filter (logic : Option Logic) (root : Bool) (parts : List (List Piece)) :
    joined logic root (parts.filter fun part => !part.isEmpty) = joined logic root parts := by
  simp only [joined, List.filter_filter, Bool.and_self]

end Shape

mutual

theorem Field.pruned_prune : ∀ (field : Field), field.prune.Pruned
  | .column _ _ _ => trivial
  | .subquery query _ => query.pruned_prune

theorem Table.pruned_prune : ∀ (table : Table), table.prune.Pruned
  | .named _ _ => trivial
  | .subquery query _ => query.pruned_prune

theorem Operand.pruned_prune : ∀ (operand : Operand), operand.prune.Pruned
  | .value _ => trivial
  | .subquery query => query.pruned_prune

theorem Filter.pruned_prune : ∀ (filter : Filter), filter.prune.Pruned
  | ⟨_, field, _, value, filters⟩ =>
    ⟨left_pruned_prune field, right_pruned_prune value, children_pruned_prune filters⟩

theorem left_pruned_prune : ∀ (field : Option Field), leftPruned (pruneLeft field)
  | none => trivial
  | some field => field.pruned_prune

theorem right_pruned_prune : ∀ (value : Option Operand), rightPruned (pruneRight value)
  | none => trivial
  | some operand => operand.pruned_prune

theorem children_pruned_prune : ∀ (filters : List (Option Filter)),
    childrenPruned (pruneChildren filters)
  | [] => trivial
  | none :: rest => children_pruned_prune rest
  | some child :: rest => by
    by_cases hconditions : child.conditions = []
    · rw [pruneChildren_of_hollow hconditions]
      exact children_pruned_prune rest
    · rw [pruneChildren_of_conditions hconditions]
      exact ⟨⟨child.conditions_prune hconditions, child.pruned_prune⟩, children_pruned_prune rest⟩

theorem fields_pruned_prune : ∀ (fields : List Field), fieldsPruned (pruneFields fields)
  | [] => trivial
  | field :: rest => ⟨field.pruned_prune, fields_pruned_prune rest⟩

theorem source_pruned_prune : ∀ (table : Option Table), sourcePruned (pruneSource table)
  | none => trivial
  | some table => table.pruned_prune

theorem where_pruned_prune : ∀ (filter : Option Filter), wherePruned (pruneWhere filter)
  | none => trivial
  | some filter => by
    by_cases hconditions : filter.conditions = []
    · rw [pruneWhere_of_hollow hconditions]
      exact trivial
    · rw [pruneWhere_of_conditions hconditions]
      exact ⟨filter.conditions_prune hconditions, filter.pruned_prune⟩

theorem Select.pruned_prune : ∀ (query : Select), query.prune.Pruned
  | ⟨fields, table, filter, sorts, _, _⟩ => by
    have hsorts : none ∉ sorts.filter Option.isSome := by simp
    exact ⟨fields_pruned_prune fields, source_pruned_prune table, where_pruned_prune filter, hsorts⟩

end

/-- A select inside of another tree, whose pruning is known to keep what it renders. -/
theorem Select.prune_embedded {context : Context} {query : Select}
    (h : (context.descend >>= query.accept) = .ok ())
    (hinner : ∀ inner, query.accept inner = .ok () →
      query.prune.accept inner = .ok () ∧ query.prune.pieces = query.pieces) :
    (context.descend >>= query.prune.accept) = .ok () ∧
      embedded query.prune.aliasName query.prune.pieces =
        embedded query.aliasName query.pieces := by
  obtain ⟨inner, hdescend, haccept⟩ := bind_eq_ok.mp h
  obtain ⟨hpruned, hpieces⟩ := hinner inner haccept
  exact ⟨bind_eq_ok.mpr ⟨inner, hdescend, hpruned⟩, by rw [aliasName_prune, hpieces]⟩

mutual

theorem Field.prune_kept (context : Context) : ∀ (field : Field), field.accept context = .ok () →
    field.prune.accept context = .ok () ∧ field.prune.pieces = field.pieces
  | .column table name aliasName, h => ⟨h, rfl⟩
  | .subquery query aliasName, h => by
    rw [Field.accept, check_bind_eq_ok] at h
    obtain ⟨hpruned, hpieces⟩ := Select.prune_embedded h.2 query.prune_kept
    rw [Field.prune, Field.accept, check_bind_eq_ok]
    exact ⟨⟨h.1, hpruned⟩, hpieces⟩

theorem Table.prune_kept (context : Context) : ∀ (table : Table), table.accept context = .ok () →
    table.prune.accept context = .ok () ∧ table.prune.pieces = table.pieces
  | .named name aliasName, h => ⟨h, rfl⟩
  | .subquery query aliasName, h => by
    rw [Table.accept, check_bind_eq_ok] at h
    obtain ⟨hpruned, hpieces⟩ := Select.prune_embedded h.2 query.prune_kept
    rw [Table.prune, Table.accept, check_bind_eq_ok]
    exact ⟨⟨h.1, hpruned⟩, hpieces⟩

theorem Operand.prune_kept (context : Context) (operator : Operator) : ∀ (operand : Operand),
    operand.accept context = .ok () →
      operand.prune.accept context = .ok () ∧
        operand.prune.pieces operator = operand.pieces operator
  | .value literal, h => ⟨h, rfl⟩
  | .subquery query, h => by
    rw [Operand.accept] at h
    exact Select.prune_embedded h query.prune_kept

theorem right_prune_kept (context : Context) (operator : Operator) : ∀ (value : Option Operand),
    (∀ right, value = some right → right.accept context = .ok ()) →
      (∀ right, pruneRight value = some right → right.accept context = .ok ()) ∧
        operandPieces operator (pruneRight value) = operandPieces operator value
  | none, _ => ⟨nofun, rfl⟩
  | some operand, h => by
    obtain ⟨hpruned, hpieces⟩ := operand.prune_kept context operator (h operand rfl)
    refine ⟨?_, hpieces⟩
    rintro _ ⟨⟩
    exact hpruned

theorem Filter.prune_kept (context : Context) : ∀ (filter : Filter),
    filter.accept context = .ok () → filter.conditions ≠ [] →
      filter.prune.accept context = .ok () ∧
        ∀ root, filter.prune.pieces root = filter.pieces root
  | ⟨none, none, operator, value, filters⟩, h, _ => by
    simp [Filter.accept_condition_iff] at h
  | ⟨none, some field, operator, value, filters⟩, h, _ => by
    obtain ⟨rfl, ⟨left, hfield, hleft⟩, ⟨present, rfl, haccepts⟩, hright⟩ :=
      (Filter.accept_condition_iff context (some field) operator value filters).mp h
    cases hfield
    obtain ⟨hleftKept, hleftPieces⟩ := field.prune_kept context hleft
    obtain ⟨hrightKept, hrightPieces⟩ := right_prune_kept context present value hright
    constructor
    · rw [Filter.prune, Filter.accept_condition_iff]
      exact ⟨rfl, ⟨_, rfl, hleftKept⟩, ⟨present, rfl, present.accepts_prune haccepts⟩, hrightKept⟩
    · intro root
      rw [Filter.prune, pruneLeft, Filter.pieces, Filter.pieces, hleftPieces, hrightPieces]
  | ⟨some logic, field, operator, value, filters⟩, h, hconditions => by
    obtain ⟨rfl, rfl, hnull, -, hchildren⟩ :=
      (Filter.accept_logic_iff context logic field operator value filters).mp h
    obtain ⟨inner, hdescend, hchildren⟩ := bind_eq_ok.mp hchildren
    obtain ⟨hkept, hpieces⟩ := children_prune_kept inner filters hchildren
    have hnothing : ∀ operand, pruneRight value = some operand → operand = .value .null := by
      cases value with
      | none => exact nofun
      | some operand =>
        obtain rfl := hnull operand rfl
        rintro _ ⟨⟩
        rfl
    constructor
    · rw [Filter.prune, Filter.accept_logic_iff]
      exact ⟨rfl, rfl, hnothing, pruneChildren_ne_nil hconditions,
        bind_eq_ok.mpr ⟨inner, hdescend, hkept⟩⟩
    · intro root
      rw [Filter.prune, Filter.pieces, Filter.pieces, hpieces, joined_filter]

theorem children_prune_kept (context : Context) : ∀ (filters : List (Option Filter)),
    acceptAll context filters = .ok () →
      acceptAll context (pruneChildren filters) = .ok () ∧
        childPieces (pruneChildren filters) =
          (childPieces filters).filter fun part => !part.isEmpty
  | [], h => ⟨h, rfl⟩
  | none :: rest, h => children_prune_kept context rest h
  | some child :: rest, h => by
    obtain ⟨hchild, hrest⟩ := (acceptAll_cons_iff context child rest).mp h
    obtain ⟨hrestKept, hrestPieces⟩ := children_prune_kept context rest hrest
    have hnil : child.pieces false = [] ↔ child.conditions = [] := Filter.pieces_eq_nil_iff hchild
    rw [childPieces, List.filter_cons]
    by_cases hconditions : child.conditions = []
    · rw [pruneChildren_of_hollow hconditions, hnil.mpr hconditions]
      exact ⟨hrestKept, hrestPieces⟩
    · obtain ⟨hchildKept, hchildPieces⟩ := child.prune_kept context hchild hconditions
      rw [pruneChildren_of_conditions hconditions, if_pos (by simpa [hnil] using hconditions)]
      exact ⟨(acceptAll_cons_iff context _ _).mpr ⟨hchildKept, hrestKept⟩,
        congrArg₂ List.cons (hchildPieces false) hrestPieces⟩

theorem fields_prune_kept (context : Context) : ∀ (fields : List Field),
    acceptFields context fields = .ok () →
      acceptFields context (pruneFields fields) = .ok () ∧
        fieldPieces (pruneFields fields) = fieldPieces fields
  | [], h => ⟨h, rfl⟩
  | field :: rest, h => by
    rw [acceptFields, check_bind_eq_ok] at h
    obtain ⟨hfield, hfieldPieces⟩ := field.prune_kept context h.1
    obtain ⟨hrest, hrestPieces⟩ := fields_prune_kept context rest h.2
    rw [pruneFields, acceptFields, check_bind_eq_ok, fieldPieces, fieldPieces,
      Field.aliasName_prune, hfieldPieces, hrestPieces]
    exact ⟨⟨hfield, hrest⟩, rfl⟩

theorem source_prune_kept (context : Context) : ∀ (table : Option Table),
    acceptTable context table = .ok () →
      acceptTable context (pruneSource table) = .ok () ∧
        sourcePieces (pruneSource table) = sourcePieces table
  | none, h => ⟨h, rfl⟩
  | some table, h => by
    obtain ⟨hpruned, hpieces⟩ := table.prune_kept context h
    rw [pruneSource, sourcePieces, sourcePieces, Table.aliasName_prune, hpieces]
    exact ⟨hpruned, rfl⟩

theorem where_prune_kept (context : Context) : ∀ (filter : Option Filter),
    acceptWhere context filter = .ok () →
      acceptWhere context (pruneWhere filter) = .ok () ∧
        wherePieces (pruneWhere filter) = wherePieces filter
  | none, h => ⟨h, rfl⟩
  | some filter, h => by
    have hnil : filter.pieces true = [] ↔ filter.conditions = [] := Filter.pieces_eq_nil_iff h
    rw [wherePieces]
    by_cases hconditions : filter.conditions = []
    · rw [pruneWhere_of_hollow hconditions, hnil.mpr hconditions]
      exact ⟨rfl, rfl⟩
    · obtain ⟨hpruned, hpieces⟩ := filter.prune_kept context h hconditions
      rw [pruneWhere_of_conditions hconditions, ← hpieces true]
      exact ⟨hpruned, rfl⟩

theorem Select.prune_kept (context : Context) : ∀ (query : Select),
    query.accept context = .ok () →
      query.prune.accept context = .ok () ∧ query.prune.pieces = query.pieces
  | ⟨fields, table, filter, sorts, take, aliasName⟩, h => by
    obtain ⟨⟨hfields, htable, htake⟩, hlisted, hread, hfilter, hsorts⟩ :=
      (Select.accept_clauses_iff context fields table filter sorts take aliasName).mp h
    obtain ⟨hlistedKept, hlistedPieces⟩ := fields_prune_kept context fields hlisted
    obtain ⟨hreadKept, hreadPieces⟩ := source_prune_kept context table hread
    obtain ⟨hfilterKept, hfilterPieces⟩ := where_prune_kept context filter hfilter
    have hsource : (pruneSource table).isSome = true := by
      cases table with
      | none => cases htable
      | some table => rfl
    constructor
    · rw [Select.prune, Select.accept_clauses_iff]
      refine ⟨⟨pruneFields_ne_nil hfields, hsource, htake⟩, hlistedKept, hreadKept, hfilterKept, ?_⟩
      intro key hkey
      exact hsorts key (List.mem_of_mem_filter hkey)
    · rw [Select.prune, Select.pieces, Select.pieces, hlistedPieces, hreadPieces, hfilterPieces,
        keyTexts_filter]

end

/-- The select with nothing behind its table. -/
def Select.head (query : Select) : Select :=
  { query with filter := none, sorts := [], take := 0 }

/-- What a filter is to the text of its select. Without a condition the select compiles as it does
without the filter. With one it goes on behind its table with a where clause, which holds what the
filter compiles to. -/
structure Select.Restricts (query : Select) (context : Context) (args : Array Value)
    (compiled : Compiled) : Prop where
  unrestricted : (∀ filter, query.filter = some filter → filter.conditions = []) →
    Select.compile context { query with filter := none } args = .ok compiled
  restricted (filter : Filter) : query.filter = some filter → filter.conditions ≠ [] →
    ∃ head condition tail, query.head.compile context args = .ok head ∧
      filter.compile context head.args = .ok condition ∧ condition.sql ≠ "" ∧
      compiled.sql = head.sql ++ " where " ++ condition.sql ++ tail

section Compiled

variable {context : Context}

theorem Filter.wherePieces_eq_nil {filter : Filter} (h : filter.accept context = .ok ())
    (hconditions : filter.conditions = []) : wherePieces (some filter) = [] := by
  have hnil : filter.pieces true = [] := (pieces_eq_nil_iff h).mpr hconditions
  rw [wherePieces, hnil]
  rfl

theorem Filter.compile_eq_empty_iff {filter : Filter} {args : Array Value} {compiled : Compiled}
    (h : filter.compile context args = .ok compiled) :
    (compiled.sql = "" ↔ filter.conditions = []) ∧
      (filter.conditions = [] → compiled.args = args) := by
  rw [compile_eq, map_eq_ok] at h
  obtain ⟨_, haccept, rfl⟩ := h
  have hnil : filter.pieces true = [] ↔ filter.conditions = [] := pieces_eq_nil_iff haccept
  have hvisible := filter.fill_root_ne_empty context.dialect
  rw [← hnil]
  constructor
  · constructor
    · intro hempty
      by_contra hpieces
      exact hvisible hpieces args.size hempty
    · intro hpieces
      rw [Compiled.ofPieces, hpieces]
      rfl
  · intro hpieces
    rw [Compiled.ofPieces, hpieces]
    exact Array.append_empty

theorem Select.restricts_of_accept {query : Select} (args : Array Value)
    (h : query.accept context = .ok ()) :
    query.Restricts context args (.ofPieces context.dialect args query.pieces) := by
  obtain ⟨fields, table, filter, sorts, take, aliasName⟩ := query
  obtain ⟨⟨hfields, htable, htake⟩, hlisted, hread, hfilter, hsorts⟩ :=
    (accept_clauses_iff context fields table filter sorts take aliasName).mp h
  constructor
  · intro hconditions
    have hwhere : wherePieces filter = [] := by
      cases filter with
      | none => rfl
      | some filter => exact filter.wherePieces_eq_nil hfilter (hconditions filter rfl)
    have haccept : Select.accept context ⟨fields, table, none, sorts, take, aliasName⟩ = .ok () :=
      (accept_clauses_iff context fields table none sorts take aliasName).mpr
        ⟨⟨hfields, htable, htake⟩, hlisted, hread, rfl, hsorts⟩
    rw [compile_eq, haccept, map_ok, pieces, pieces, hwhere]
    rfl
  · rintro filter ⟨⟩ hconditions
    let head : Select := ⟨fields, table, none, [], 0, aliasName⟩
    have haccept : head.accept context = .ok () :=
      (accept_clauses_iff context fields table none [] 0 aliasName).mpr
        ⟨⟨hfields, htable, fun limit _ => UInt64.zero_le⟩, hlisted, hread, rfl, nofun⟩
    have hhead : head.compile context args = .ok (.ofPieces context.dialect args head.pieces) := by
      rw [compile_eq, haccept, map_ok]
    have hcondition : filter.compile context (args ++ slots head.pieces) =
        .ok (.ofPieces context.dialect (args ++ slots head.pieces) (filter.pieces true)) := by
      rw [Filter.compile_eq, show filter.accept context = .ok () from hfilter, map_ok]
    have hvisible := mt (Filter.compile_eq_empty_iff hcondition).1.mp hconditions
    have hpieces : Select.pieces ⟨fields, table, some filter, sorts, take, aliasName⟩ =
        head.pieces ++ wherePieces (some filter) ++ (ofSorts (keyTexts sorts) ++ ofTake take) := by
      simp [head, pieces, wherePieces, ofSorts, ofTake, keyTexts]
    have hwhere : fill context.dialect (args.size + (slots head.pieces).length)
        (wherePieces (some filter)) = " where " ++
          (Compiled.ofPieces context.dialect (args ++ slots head.pieces)
            (filter.pieces true)).sql := by
      rw [Compiled.ofPieces, size_append_values] at hvisible ⊢
      rw [wherePieces, fill_ofWhere _ _ _ fun _ => hvisible, if_neg (by simpa using hvisible)]
    rw [hpieces, Compiled.ofPieces, fill_append, fill_append, hwhere, ← String.append_assoc]
    exact ⟨_, _, _, hhead, hcondition, hvisible, rfl⟩

end Compiled

/-- Pruning leaves nothing more to take away, and a select compiles to what it compiled to before. A
filter compiles to nothing exactly if it holds no condition, and binds nothing then; so a select has
a where clause exactly if its filter holds a condition. -/
theorem compile_prune (context : Context) (args : Array Value) :
    (∀ query : Select, query.prune.Pruned ∧ ∀ compiled, query.compile context args = .ok compiled →
      query.prune.compile context args = .ok compiled ∧ query.Restricts context args compiled) ∧
    ∀ (filter : Filter) (compiled : Compiled), filter.compile context args = .ok compiled →
      (compiled.sql = "" ↔ filter.conditions = []) ∧
        (filter.conditions = [] → compiled.args = args) := by
  constructor
  · intro query
    refine ⟨query.pruned_prune, ?_⟩
    intro compiled hcompile
    rw [Select.compile_eq, map_eq_ok] at hcompile
    obtain ⟨_, haccept, rfl⟩ := hcompile
    obtain ⟨hpruned, hpieces⟩ := query.prune_kept context haccept
    constructor
    · rw [Select.compile_eq, hpruned, map_ok, hpieces]
    · exact Select.restricts_of_accept args haccept
  · intro filter compiled hcompile
    exact Filter.compile_eq_empty_iff hcompile

/-- The guests with a visit. The sub-query has a filter without a condition, and sort keys and
children are absent. -/
def returningGuests : Select :=
  let hollow := (Filter.any []).addOptional none
  let visits := ((Select.ofFields [.ofColumn "guest"]).fromTable (.ofName "visits")).filteredBy
    ((Filter.all [hollow]).addOptional none)
  let returning := Filter.conditionOn (.ofColumn "id") .isIn (.subquery visits)
  { fields := [.ofColumn "name"]
    table := some (.ofName "guests")
    filter := some (((Filter.all [hollow]).addOptional none).addFilters [returning])
    sorts := [none, some ⟨"name", none⟩]
    take := 5 }

theorem returningGuests_prune :
    ∃ compiled, returningGuests.compile ⟨.postgres, 0, {}⟩ #[] = .ok compiled ∧
      returningGuests.prune.compile ⟨.postgres, 0, {}⟩ #[] = .ok compiled ∧
      ∃ head condition tail, returningGuests.head.compile ⟨.postgres, 0, {}⟩ #[] = .ok head ∧
        compiled.sql = head.sql ++ " where " ++ condition ++ tail := by
  have hcompile : returningGuests.compile ⟨.postgres, 0, {}⟩ #[] =
      .ok (.ofPieces .postgres #[] returningGuests.pieces) := by
    rw [Select.compile_eq]
    rfl
  obtain ⟨-, hprune⟩ := (compile_prune ⟨.postgres, 0, {}⟩ #[]).1 returningGuests
  obtain ⟨hpruned, hrestricts⟩ := hprune _ hcompile
  obtain ⟨head, condition, tail, hhead, -, -, hsql⟩ := hrestricts.restricted _ rfl nofun
  exact ⟨_, hcompile, hpruned, head, condition.sql, tail, hhead, hsql⟩

end QueryTree
