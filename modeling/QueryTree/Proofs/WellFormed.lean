import QueryTree.Proofs.Acceptance
import QueryTree.Proofs.Shape

/-!
Well-formed trees. They are described by recursion over the tree, sub-queries included, and without
reference to the checks that the compiler makes or to the order in which it makes them.

What the checks of a single node ask for is shown here as well. Validation looks at a filter before
it is compiled and compilation looks at it again, so each kind of node has one statement about both.
-/

namespace QueryTree

/-- The alias is there, and there is something to write. -/
def Aliased (aliasName : Option String) : Prop :=
  ∃ name, aliasName = some name ∧ name ≠ ""

/-- The literal is what the operator asks for: nothing, one scalar, one string, or a list of scalars
that is not empty. -/
def Operator.Fits (operator : Operator) (literal : Value) : Prop :=
  match operator.operatorClass, literal with
  | .nullCheck, literal => literal.kind = .null
  | .comparison, literal => literal.kind.isScalar = true
  | .pattern, literal => literal.kind = .string
  | .membership, .list items => items ≠ [] ∧ ∀ item ∈ items, item.kind.isScalar = true
  | .membership, _ => False

/-- The right side is what the operator asks for. A sub-query will do unless it asks for nothing. -/
def Operator.Accepts (operator : Operator) : Option Operand → Prop
  | none => operator.operatorClass = .nullCheck
  | some (.value literal) => operator.Fits literal
  | some (.subquery _) => operator.operatorClass ≠ .nullCheck

section Trees

variable (maxTake : Option UInt64)

mutual

/-- A column has a name. A sub-query has an alias and is well-formed itself. -/
def Field.WellFormed : Field → Prop
  | .column _ name _ => name ≠ ""
  | .subquery query aliasName => Aliased aliasName ∧ query.WellFormed

def Table.WellFormed : Table → Prop
  | .named name _ => name ≠ ""
  | .subquery query aliasName => Aliased aliasName ∧ query.WellFormed

/-- Whether a literal is well-formed depends on the operator alone. -/
def Operand.WellFormed : Operand → Prop
  | .value _ => True
  | .subquery query => query.WellFormed

/-- Without a logic a filter is a condition and has no places for children. With one it has such
places and nothing of a condition, where a literal null counts as no value. -/
def Filter.WellFormed : Filter → Prop
  | ⟨none, field, operator, value, filters⟩ =>
    filters = [] ∧ leftWellFormed field ∧
      (∃ present, operator = some present ∧ present.Accepts value) ∧ rightWellFormed value
  | ⟨some _, field, operator, value, filters⟩ =>
    field = none ∧ operator = none ∧ (∀ operand, value = some operand → operand = .value .null) ∧
      filters ≠ [] ∧ childrenWellFormed filters

def leftWellFormed : Option Field → Prop
  | none => False
  | some field => field.WellFormed

def rightWellFormed : Option Operand → Prop
  | none => True
  | some operand => operand.WellFormed

def childrenWellFormed : List (Option Filter) → Prop
  | [] => True
  | none :: rest => childrenWellFormed rest
  | some child :: rest => child.WellFormed ∧ childrenWellFormed rest

def fieldsWellFormed : List Field → Prop
  | [] => True
  | field :: rest => field.WellFormed ∧ fieldsWellFormed rest

def sourceWellFormed : Option Table → Prop
  | none => False
  | some table => table.WellFormed

def whereWellFormed : Option Filter → Prop
  | none => True
  | some filter => filter.WellFormed

/-- A select lists fields, reads from a table, asks for no more rows than allowed, names all of its
sort keys, and is made of well-formed parts. -/
def Select.WellFormed : Select → Prop
  | ⟨fields, table, filter, sorts, take, _⟩ =>
    (fields ≠ [] ∧ ∀ limit, maxTake = some limit → take ≤ limit) ∧
      fieldsWellFormed fields ∧ sourceWellFormed table ∧ whereWellFormed filter ∧
      ∀ key, some key ∈ sorts → key.field ≠ ""

end

end Trees

section Checks

theorem isSome_shownAlias_iff (aliasName : Option String) :
    (shownAlias aliasName).isSome = true ↔ Aliased aliasName := by
  unfold shownAlias Aliased
  cases aliasName <;> simp [Option.filter]

theorem sortTexts_eq_ok_iff (sorts : List (Option SortKey)) :
    (∃ texts, sortTexts sorts = .ok texts) ↔ ∀ key, some key ∈ sorts → key.field ≠ "" := by
  induction sorts with
  | nil => simp [sortTexts]
  | cons entry rest ih =>
    cases entry with
    | none => simpa [sortTexts] using ih
    | some key =>
      have htexts : (∃ texts, sortTexts (some key :: rest) = .ok texts) ↔
          key.field ≠ "" ∧ ∃ texts, sortTexts rest = .ok texts := by
        simp only [sortTexts, SortKey.sql, bind_eq_ok, ensure_eq_ok]
        constructor
        · rintro ⟨_, text, ⟨_, hname, -⟩, texts, hrest, -⟩
          exact ⟨by simpa using hname, texts, hrest⟩
        · rintro ⟨hname, texts, hrest⟩
          exact ⟨_, _, ⟨(), by simpa using hname, rfl⟩, texts, hrest, rfl⟩
      rw [htexts, ih]
      simp

theorem Select.validate_eq_ok_iff (context : Context) (query : Select) :
    query.validate context = .ok () ↔
      query.fields ≠ [] ∧ query.table.isSome = true ∧
        ∀ limit, context.limits.maxTake = some limit → query.take ≤ limit := by
  simp only [validate, check_bind_eq_ok, ensure_eq_ok]
  cases context.limits.maxTake <;> simp

theorem Operand.isNull_iff (operand : Operand) :
    operand.isNull = true ↔ operand = .value .null := by
  cases operand with
  | subquery query => simp [isNull]
  | value literal => cases literal <;> simp [isNull, Value.isNull, Value.kind]

theorem Filter.hasValue_eq_false_iff (filter : Filter) :
    filter.hasValue = false ↔ ∀ operand, filter.value = some operand → operand = .value .null := by
  unfold hasValue
  cases filter.value with
  | none => simp
  | some operand => simp [← operand.isNull_iff]

theorem Operator.checkValue_eq_ok_iff {operator : Operator} (literal : Value)
    (h : operator.operatorClass ≠ .nullCheck) :
    operator.checkValue literal = .ok () ↔ operator.Fits literal := by
  unfold checkValue Fits
  cases hclass : operator.operatorClass with
  | nullCheck => exact absurd hclass h
  | comparison => simp
  | pattern => simp
  | membership =>
    cases literal with
    | list items =>
      simp only [check_bind_eq_ok, ensure_eq_ok]
      cases hfind : items.find? fun item => !item.kind.isScalar with
      | none =>
        have hall : ∀ item ∈ items, item.kind.isScalar = true := by simpa using hfind
        simpa using fun _ => hall
      | some item =>
        have hitem := List.find?_some hfind
        have hmem := List.mem_of_find?_eq_some hfind
        simp only [reduceCtorEq, and_false, false_iff]
        rintro ⟨-, hall⟩
        simp [hall item hmem] at hitem
    | _ => simp

/-- No literal but null is taken for no value. -/
theorem Operator.Fits.isNull {operator : Operator} {literal : Value} (h : operator.Fits literal)
    (hclass : operator.operatorClass ≠ .nullCheck) : literal.isNull = false := by
  cases literal with
  | null =>
    unfold Fits at h
    cases hop : operator.operatorClass with
    | nullCheck => exact absurd hop hclass
    | _ => simp [hop, Value.kind, Kind.isScalar] at h
  | _ => rfl

theorem Operator.accepts_of_nullCheck {operator : Operator} (value : Option Operand)
    (h : operator.operatorClass = .nullCheck) :
    operator.Accepts value ↔ ∀ operand, value = some operand → operand = .value .null := by
  cases value with
  | none => simpa [Accepts] using h
  | some operand =>
    cases operand with
    | subquery query => simp [Accepts, h]
    | value literal => cases literal <;> simp [Accepts, Fits, h, Value.kind]

theorem Filter.checkCondition_eq_ok_iff (filter : Filter) :
    filter.checkCondition = .ok () ↔ filter.field.isSome = true ∧
      ∃ operator, filter.operator = some operator ∧ operator.Accepts filter.value := by
  have hnull := filter.hasValue_eq_false_iff
  simp only [checkCondition, check_bind_eq_ok, ensure_eq_ok]
  refine and_congr_right fun _ => ?_
  cases filter.operator with
  | none => simp
  | some operator =>
    simp only [Option.some.injEq, exists_eq_left']
    by_cases hclass : operator.operatorClass = .nullCheck
    · rw [if_pos hclass, ensure_eq_ok, Bool.not_eq_true', hnull,
        operator.accepts_of_nullCheck filter.value hclass]
    · rw [if_neg hclass]
      cases filter.value with
      | none => simpa [Operator.Accepts] using hclass
      | some operand =>
        cases operand with
        | subquery query => simpa [Operator.Accepts] using hclass
        | value literal =>
          have hvalue := operator.checkValue_eq_ok_iff literal hclass
          cases hnull : literal.isNull with
          | false => simpa [hnull, Operator.Accepts] using hvalue
          | true =>
            have hnone : ¬ operator.Fits literal := fun hfits => by
              simp [hfits.isNull hclass] at hnull
            simpa [hnull, Operator.Accepts] using hnone

theorem Operand.acceptMembers_of_accepts {operator : Operator} {operand : Operand}
    (h : operator.Accepts (some operand)) : operand.acceptMembers operator = .ok () := by
  unfold acceptMembers
  by_cases hclass : operator.operatorClass = .membership
  · rw [if_pos hclass]
    cases operand with
    | subquery query => rfl
    | value literal =>
      simp only [Operator.Accepts, Operator.Fits, hclass] at h
      cases literal with
      | list items =>
        have hfind : items.find? (fun item => !item.kind.isScalar) = none := by simpa using h.2
        simp [members?, Value.scalarElements, hfind]
      | _ => exact h.elim
  · rw [if_neg hclass]

/-- Of a right side that the operator accepts, compilation checks the sub-query only. -/
theorem acceptOperand_eq_ok_iff (context : Context) {operator : Operator} {value : Option Operand}
    (h : operator.Accepts value) :
    acceptOperand context operator value = .ok () ↔
      ∀ operand, value = some operand → operand.accept context = .ok () := by
  cases value with
  | none =>
    have hclass : operator.operatorClass = .nullCheck := h
    simp [acceptOperand, hclass]
  | some operand =>
    rw [acceptOperand]
    split
    next hclass =>
      obtain rfl := (operator.accepts_of_nullCheck _ hclass).mp h operand rfl
      simp [Operand.accept]
    next => simp [Operand.acceptMembers_of_accepts h]

section Filters

variable (context : Context) (field : Option Field) (operator : Option Operator)
  (value : Option Operand) (filters : List (Option Filter))

theorem Filter.checkShape_condition_iff :
    checkShape ⟨none, field, operator, value, filters⟩ = .ok () ↔
      filters = [] ∧ field.isSome = true ∧
        ∃ present, operator = some present ∧ present.Accepts value := by
  have hcondition := checkCondition_eq_ok_iff ⟨none, field, operator, value, filters⟩
  simp only [checkShape, check_bind_eq_ok, ensure_eq_ok, hcondition, List.isEmpty_iff]

theorem Filter.checkShape_logic_iff (logic : Logic) :
    checkShape ⟨some logic, field, operator, value, filters⟩ = .ok () ↔
      field = none ∧ operator = none ∧ (∀ operand, value = some operand → operand = .value .null) ∧
        filters ≠ [] := by
  have hvalue := hasValue_eq_false_iff ⟨some logic, field, operator, value, filters⟩
  simp [checkShape, check_bind_eq_ok, hvalue]

/-- A filter without a logic is accepted exactly if it is a condition whose parts are. -/
theorem Filter.accept_condition_iff :
    Filter.accept context ⟨none, field, operator, value, filters⟩ = .ok () ↔
      filters = [] ∧ (∃ left, field = some left ∧ left.accept context = .ok ()) ∧
        (∃ present, operator = some present ∧ present.Accepts value) ∧
        ∀ right, value = some right → right.accept context = .ok () := by
  have hshape := checkShape_condition_iff field operator value filters
  rw [accept, check_bind_eq_ok]
  constructor
  · rintro ⟨hvalid, hnode⟩
    obtain ⟨hfilters, hfield, present, rfl, haccepts⟩ := hshape.mp (checkShape_of_validate hvalid)
    obtain ⟨left, rfl⟩ := Option.isSome_iff_exists.mp hfield
    rw [acceptNode, check_bind_eq_ok] at hnode
    obtain ⟨hleft, hright⟩ := hnode
    exact ⟨hfilters, ⟨left, rfl, hleft⟩, ⟨present, rfl, haccepts⟩,
      (acceptOperand_eq_ok_iff context haccepts).mp hright⟩
  · rintro ⟨rfl, ⟨left, rfl, hleft⟩, ⟨present, rfl, haccepts⟩, hright⟩
    constructor
    · rw [validate, hshape.mpr ⟨rfl, rfl, present, rfl, haccepts⟩]
      rfl
    · rw [acceptNode, hleft, ok_bind]
      exact (acceptOperand_eq_ok_iff context haccepts).mpr hright

end Filters

/-- The children of a logic are validated before any of them is compiled. -/
def acceptAll (context : Context) (filters : List (Option Filter)) : Except QueryError Unit := do
  Filter.validateAll context filters
  acceptChildren context filters

theorem acceptAll_cons_iff (context : Context) (child : Filter) (rest : List (Option Filter)) :
    acceptAll context (some child :: rest) = .ok () ↔
      child.accept context = .ok () ∧ acceptAll context rest = .ok () := by
  simp only [acceptAll, Filter.accept, Filter.validateAll, acceptChildren, check_bind_eq_ok]
  constructor
  · rintro ⟨⟨hvalid, hrest⟩, hnode, hnodes⟩
    exact ⟨⟨hvalid, hnode⟩, hrest, hnodes⟩
  · rintro ⟨⟨hvalid, hnode⟩, hrest, hnodes⟩
    exact ⟨⟨hvalid, hrest⟩, hnode, hnodes⟩

/-- A filter with a logic is accepted exactly if it has nothing of a condition and its children are
accepted one level further down. -/
theorem Filter.accept_logic_iff (context : Context) (logic : Logic) (field : Option Field)
    (operator : Option Operator) (value : Option Operand) (filters : List (Option Filter)) :
    Filter.accept context ⟨some logic, field, operator, value, filters⟩ = .ok () ↔
      field = none ∧ operator = none ∧ (∀ operand, value = some operand → operand = .value .null) ∧
        filters ≠ [] ∧ (context.descend >>= fun inner => acceptAll inner filters) = .ok () := by
  have hshape := checkShape_logic_iff field operator value filters logic
  rw [accept, check_bind_eq_ok]
  simp only [acceptAll, bind_eq_ok (α := Context), check_bind_eq_ok]
  constructor
  · rintro ⟨hvalid, hnode⟩
    obtain ⟨rfl, rfl, hnull, hfilters⟩ := hshape.mp (checkShape_of_validate hvalid)
    rw [acceptNode, if_neg (by simpa using hfilters), bind_eq_ok] at hnode
    obtain ⟨inner, hinner, hchildren⟩ := hnode
    exact ⟨rfl, rfl, hnull, hfilters, inner, hinner, validateAll_of_validate hvalid hinner,
      hchildren⟩
  · rintro ⟨rfl, rfl, hnull, hfilters, inner, hinner, hvalid, hchildren⟩
    constructor
    · rw [validate, hshape.mpr ⟨rfl, rfl, hnull, hfilters⟩, ok_bind, hinner]
      split
      · exact hvalid
      · rfl
    · rw [acceptNode, if_neg (by simpa using hfilters), hinner]
      exact hchildren

theorem Select.accept_clauses_iff (context : Context) (fields : List Field) (table : Option Table)
    (filter : Option Filter) (sorts : List (Option SortKey)) (take : UInt64)
    (aliasName : Option String) :
    Select.accept context ⟨fields, table, filter, sorts, take, aliasName⟩ = .ok () ↔
      (fields ≠ [] ∧ table.isSome = true ∧
        ∀ limit, context.limits.maxTake = some limit → take ≤ limit) ∧
      acceptFields context fields = .ok () ∧ acceptTable context table = .ok () ∧
      acceptWhere context filter = .ok () ∧ ∀ key, some key ∈ sorts → key.field ≠ "" := by
  have hsorts : (sortTexts sorts >>= fun _ => Except.ok ()) = .ok () ↔
      ∀ key, some key ∈ sorts → key.field ≠ "" := by
    rw [← sortTexts_eq_ok_iff, bind_eq_ok]
    simp
  rw [accept, check_bind_eq_ok, check_bind_eq_ok, check_bind_eq_ok, check_bind_eq_ok,
    validate_eq_ok_iff, hsorts]

end Checks

end QueryTree
