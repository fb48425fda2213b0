import QueryTree.Proofs.Compilation
import QueryTree.Proofs.Shape
import QueryTree.Tree.Build

/-!
The literals of a query tree and their marks. A node that compiles binds its own literals, in the
order in which they stand in the tree, behind the arguments that were bound before; and its text is
its rendering, where each literal is marked at the spot of the condition or the limit that owns it.

The order of the literals is said by recursion over the tree and not by the rendering, so that the
two have to agree: no literal is lost, bound twice or marked in another's place.
-/

namespace QueryTree

open Piece

/-- What a value binds. A list stands for its elements, and a null for no value at all. -/
def Value.literals : Value → List Value
  | .null => []
  | .list items => items
  | literal => [literal]

mutual

def Field.literals : Field → List Value
  | .column _ _ _ => []
  | .subquery query _ => query.literals

def Table.literals : Table → List Value
  | .named _ _ => []
  | .subquery query _ => query.literals

def Operand.literals : Operand → List Value
  | .value literal => literal.literals
  | .subquery query => query.literals

/-- The literals of a node: its field, then its value, then its children. -/
def Filter.literals : Filter → List Value
  | ⟨_, field, _, value, filters⟩ =>
    leftLiterals field ++ rightLiterals value ++ childLiterals filters

def leftLiterals : Option Field → List Value
  | none => []
  | some field => field.literals

def rightLiterals : Option Operand → List Value
  | none => []
  | some operand => operand.literals

def childLiterals : List (Option Filter) → List Value
  | [] => []
  | none :: rest => childLiterals rest
  | some child :: rest => child.literals ++ childLiterals rest

def fieldLiterals : List Field → List Value
  | [] => []
  | field :: rest => field.literals ++ fieldLiterals rest

def sourceLiterals : Option Table → List Value
  | none => []
  | some table => table.literals

def whereLiterals : Option Filter → List Value
  | none => []
  | some filter => filter.literals

/-- The literals of a select: its fields, then its table, then its filter, then its limit. -/
def Select.literals : Select → List Value
  | ⟨fields, table, filter, _, take, _⟩ =>
    fieldLiterals fields ++ sourceLiterals table ++ whereLiterals filter
      ++ (if take = 0 then [] else [.uint take])

end

/-- The literals of an update: the assigned values, then its filter. -/
def Update.literals (query : Update) : List Value :=
  query.assignments.map Prod.snd ++ whereLiterals query.filter

def Delete.literals (query : Delete) : List Value :=
  whereLiterals query.filter

theorem slots_embedded (aliasName : Option String) (pieces : List Piece) :
    slots (embedded aliasName pieces) = slots pieces := by
  unfold embedded
  split <;> simp [slots_grouped, slots_renamed]

theorem slots_ofTake (take : UInt64) :
    slots (ofTake take) = if take = 0 then [] else [.uint take] := by
  unfold ofTake
  split <;> rfl

/-- A literal that an operator accepts is bound as it stands, or element by element. -/
theorem slots_ofLiteral {operator : Operator} {literal : Value}
    (h : operator.checkValue literal = .ok ()) (hclass : operator.operatorClass ≠ .nullCheck) :
    slots (ofLiteral operator literal) = literal.literals := by
  rcases Operator.fits_of_checkValue h hclass with
    ⟨hsingle, hscalar⟩ | ⟨hlist, items, rfl, -, -⟩
  · rw [ofLiteral_single hsingle]
    cases literal <;> first | rfl | cases hscalar
  · exact slots_ofLiteral_list hlist items

theorem slots_ofCondition (operator : Operator) (left right : List Piece) :
    slots (ofCondition operator left right) =
      slots left ++ if operator.operatorClass = .nullCheck then [] else slots right := by
  unfold ofCondition
  cases operator.operatorClass <;> simp

theorem rightLiterals_of_hasValue {filter : Filter} (h : filter.hasValue = false) :
    rightLiterals filter.value = [] := by
  unfold Filter.hasValue at h
  cases hvalue : filter.value with
  | none => rfl
  | some operand =>
    simp only [hvalue, Option.any_some, Bool.not_eq_false'] at h
    cases operand with
    | subquery query => cases h
    | value literal =>
      cases literal with
      | null => rfl
      | _ => cases h

/-- A condition that passed validation marks its own literals, if its parts do. -/
theorem Filter.IsCondition.slots_eq {filter : Filter} {field : Field} {operator : Operator}
    (h : filter.IsCondition field operator) (root : Bool)
    (hfield : slots field.pieces = field.literals)
    (hquery : ∀ query, operator.operatorClass ≠ .nullCheck →
      filter.value = some (.subquery query) → slots query.pieces = query.literals) :
    slots (filter.pieces root) = filter.literals := by
  have hvalue : (if operator.operatorClass = .nullCheck then []
      else slots (operandPieces operator filter.value)) = rightLiterals filter.value := by
    rcases h.value with ⟨hclass, hnone⟩ | ⟨hclass, ⟨query, heq⟩ | ⟨literal, heq, -, hcheck⟩⟩
    · rw [if_pos hclass, rightLiterals_of_hasValue hnone]
    · rw [if_neg hclass, heq, operandPieces, Operand.pieces, slots_embedded]
      exact hquery query hclass heq
    · rw [if_neg hclass, heq, operandPieces, Operand.pieces]
      exact slots_ofLiteral hcheck hclass
  obtain ⟨logic, left, op, value, filters⟩ := filter
  obtain ⟨-, rfl, rfl, rfl, -⟩ := h
  rw [pieces, literals, slots_ofCondition, hvalue, hfield]
  simp [leftLiterals, childLiterals]

/-- A logic that passed validation marks the literals of its children, if they mark their own. -/
theorem Filter.IsLogic.slots_eq {filter : Filter} (h : filter.IsLogic) (root : Bool)
    (hchildren : (childPieces filter.filters).flatMap slots = childLiterals filter.filters) :
    slots (filter.pieces root) = filter.literals := by
  have hvalue := rightLiterals_of_hasValue h.value
  obtain ⟨logic, field, operator, value, filters⟩ := filter
  obtain ⟨-, rfl, rfl, -, -⟩ := h
  rw [pieces, literals, slots_joined, hchildren, hvalue]
  rfl

theorem slots_logic {context : Context} {root : Bool} {filter : Filter}
    (hoperator : filter.operator = none) (hvalid : filter.validate context = .ok ())
    (haccept : filter.acceptNode context = .ok ())
    (hchildren : ∀ inner, Filter.validateAll inner filter.filters = .ok () →
      acceptChildren inner filter.filters = .ok () →
      (childPieces filter.filters).flatMap slots = childLiterals filter.filters) :
    slots (filter.pieces root) = filter.literals := by
  have hlogic := Filter.isLogic_of_checkShape (Filter.checkShape_of_validate hvalid) hoperator
  apply hlogic.slots_eq root
  have hfilters := hlogic.filters
  have hinside (inner : Context) (hinner : context.descend = .ok inner) :
      Filter.validateAll inner filter.filters = .ok () :=
    Filter.validateAll_of_validate hvalid hinner
  obtain ⟨logic, field, operator, value, filters⟩ := filter
  cases hoperator
  rw [Filter.acceptNode, if_neg (by simpa using hfilters), bind_eq_ok] at haccept
  obtain ⟨inner, hinner, haccept⟩ := haccept
  exact hchildren inner (hinside inner hinner) haccept

theorem slots_condition {context : Context} {root : Bool} {logic : Option Logic} {field : Field}
    {operator : Operator} {value : Option Operand} {filters : List (Option Filter)}
    (hvalid : Filter.validate context ⟨logic, some field, some operator, value, filters⟩ = .ok ())
    (haccept :
      Filter.acceptNode context ⟨logic, some field, some operator, value, filters⟩ = .ok ())
    (hfield : field.accept context = .ok () → slots field.pieces = field.literals)
    (hquery : ∀ query, value = some (.subquery query) → ∀ inner, query.accept inner = .ok () →
      slots query.pieces = query.literals) :
    slots (Filter.pieces root ⟨logic, some field, some operator, value, filters⟩) =
      Filter.literals ⟨logic, some field, some operator, value, filters⟩ := by
  obtain ⟨left, hcondition⟩ :=
    Filter.isCondition_of_checkShape (Filter.checkShape_of_validate hvalid) rfl
  cases hcondition.field
  rw [Filter.acceptNode, bind_eq_ok] at haccept
  obtain ⟨_, haccept, hoperand⟩ := haccept
  refine hcondition.slots_eq root (hfield haccept) ?_
  intro query hclass hvalue
  simp only [] at hvalue
  subst hvalue
  rw [acceptOperand, if_neg hclass, bind_eq_ok] at hoperand
  obtain ⟨_, -, hoperand⟩ := hoperand
  rw [Operand.accept, bind_eq_ok] at hoperand
  obtain ⟨inner, -, haccept⟩ := hoperand
  exact hquery query rfl inner haccept

mutual

theorem Field.slots_eq (context : Context) : ∀ (field : Field),
    field.accept context = .ok () → slots field.pieces = field.literals
  | .column _ _ _, _ => rfl
  | .subquery query aliasName, h => by
    rw [Field.accept, bind_eq_ok] at h
    obtain ⟨_, -, h⟩ := h
    obtain ⟨inner, -, hquery⟩ := bind_eq_ok.mp h
    rw [Field.pieces, Field.literals, slots_embedded]
    exact query.slots_eq inner hquery

theorem Table.slots_eq (context : Context) : ∀ (table : Table),
    table.accept context = .ok () → slots table.pieces = table.literals
  | .named _ _, _ => rfl
  | .subquery query aliasName, h => by
    rw [Table.accept, bind_eq_ok] at h
    obtain ⟨_, -, h⟩ := h
    obtain ⟨inner, -, hquery⟩ := bind_eq_ok.mp h
    rw [Table.pieces, Table.literals, slots_embedded]
    exact query.slots_eq inner hquery

theorem Filter.slots_eq (context : Context) (root : Bool) : ∀ (filter : Filter),
    filter.validate context = .ok () → filter.acceptNode context = .ok () →
      slots (filter.pieces root) = filter.literals
  | ⟨logic, field, none, value, filters⟩, hvalid, haccept =>
    slots_logic rfl hvalid haccept fun inner => slots_children inner filters
  | ⟨logic, none, some operator, value, filters⟩, _, haccept => nomatch haccept
  | ⟨logic, some field, some operator, none, filters⟩, hvalid, haccept =>
    slots_condition hvalid haccept (field.slots_eq context) (by simp)
  | ⟨logic, some field, some operator, some (.value literal), filters⟩, hvalid, haccept =>
    slots_condition hvalid haccept (field.slots_eq context) (by simp)
  | ⟨logic, some field, some operator, some (.subquery query), filters⟩, hvalid, haccept =>
    slots_condition hvalid haccept (field.slots_eq context) fun other hother inner hquery => by
      cases hother
      exact query.slots_eq inner hquery

theorem slots_children (context : Context) : ∀ (filters : List (Option Filter)),
    Filter.validateAll context filters = .ok () → acceptChildren context filters = .ok () →
      (childPieces filters).flatMap slots = childLiterals filters
  | [], _, _ => rfl
  | none :: rest, hvalid, haccept => slots_children context rest hvalid haccept
  | some child :: rest, hvalid, haccept => by
    rw [Filter.validateAll, bind_eq_ok] at hvalid
    obtain ⟨_, hchild, hrest⟩ := hvalid
    rw [acceptChildren, bind_eq_ok] at haccept
    obtain ⟨_, hchild', hrest'⟩ := haccept
    rw [childPieces, childLiterals, List.flatMap_cons, child.slots_eq context false hchild hchild',
      slots_children context rest hrest hrest']

theorem slots_fields (context : Context) : ∀ (fields : List Field),
    acceptFields context fields = .ok () →
      (fieldPieces fields).flatMap slots = fieldLiterals fields
  | [], _ => rfl
  | field :: rest, h => by
    rw [acceptFields, bind_eq_ok] at h
    obtain ⟨_, hfield, hrest⟩ := h
    rw [fieldPieces, fieldLiterals, List.flatMap_cons, slots_renamed,
      field.slots_eq context hfield, slots_fields context rest hrest]

theorem slots_source (context : Context) : ∀ (table : Option Table),
    acceptTable context table = .ok () → slots (sourcePieces table) = sourceLiterals table
  | none, h => nomatch h
  | some table, h => by
    rw [sourcePieces, sourceLiterals, slots_renamed, table.slots_eq context h]

theorem slots_where (context : Context) : ∀ (filter : Option Filter),
    acceptWhere context filter = .ok () → slots (wherePieces filter) = whereLiterals filter
  | none, _ => rfl
  | some filter, h => by
    rw [acceptWhere, bind_eq_ok] at h
    obtain ⟨_, hvalid, haccept⟩ := h
    rw [wherePieces, whereLiterals, slots_ofWhere, filter.slots_eq context true hvalid haccept]

theorem Select.slots_eq (context : Context) : ∀ (query : Select),
    query.accept context = .ok () → slots query.pieces = query.literals
  | ⟨fields, table, filter, sorts, take, aliasName⟩, h => by
    simp only [Select.accept, bind_eq_ok] at h
    obtain ⟨_, -, _, hfields, _, htable, _, hfilter, -⟩ := h
    rw [Select.pieces, Select.literals, ← slots_fields context fields hfields,
      ← slots_source context table htable, ← slots_where context filter hfilter]
    simp [slots_ofSorts, slots_ofTake]

end

theorem Update.slots_eq (context : Context) (query : Update)
    (h : query.accept context = .ok ()) : slots query.pieces = query.literals := by
  rw [accept, bind_eq_ok] at h
  obtain ⟨_, -, hfilter⟩ := h
  rw [pieces, literals, ← slots_where context query.filter hfilter]
  simp [slots_assignmentPieces]

theorem Delete.slots_eq (context : Context) (query : Delete)
    (h : query.accept context = .ok ()) : slots query.pieces = query.literals := by
  rw [accept, bind_eq_ok] at h
  obtain ⟨_, -, hfilter⟩ := h
  rw [pieces, literals, ← slots_where context query.filter hfilter]
  rfl

end QueryTree
