import QueryTree.Proofs.Outcome

/-!
What validation establishes. A filter that passes is at every node either a logic without anything
of a condition or a condition without children, and the value of a condition fits its operator.

Each lemma reads the success of one check as the facts it stands for, so that later proofs need not
open the checks themselves.
-/

namespace QueryTree

namespace Filter

/-- What is known of a logic: it has places for children, and nothing of a condition. -/
structure IsLogic (filter : Filter) : Prop where
  logic : filter.logic.isSome = true
  field : filter.field = none
  operator : filter.operator = none
  value : filter.hasValue = false
  filters : filter.filters ≠ []

/-- What is known of a condition: it has a field and an operator whose demand on the value is met,
and neither a logic nor places for children. -/
structure IsCondition (filter : Filter) (field : Field) (operator : Operator) : Prop where
  logic : filter.logic = none
  field : filter.field = some field
  operator : filter.operator = some operator
  filters : filter.filters = []
  checked : filter.checkCondition = .ok ()

theorem shape_of_checkShape {filter : Filter} {u : Unit} (h : filter.checkShape = .ok u) :
    filter.IsLogic ∨ ∃ field operator, filter.IsCondition field operator := by
  unfold checkShape at h
  cases hlogic : filter.logic with
  | some logic =>
    left
    simp only [hlogic, bind_eq_ok, ensure_eq_ok] at h
    obtain ⟨-, hfield, -, hoperator, -, hvalue, hfilters⟩ := h
    exact ⟨by simp [hlogic], by simpa using hfield, by simpa using hoperator,
      by simpa using hvalue, by simpa using hfilters⟩
  | none =>
    right
    simp only [hlogic, bind_eq_ok, ensure_eq_ok] at h
    obtain ⟨-, hfilters, hcondition⟩ := h
    have hparts := hcondition
    simp only [checkCondition, bind_eq_ok, ensure_eq_ok] at hparts
    obtain ⟨-, hfield, hoperator⟩ := hparts
    obtain ⟨field, hfield⟩ := Option.isSome_iff_exists.mp hfield
    cases hop : filter.operator with
    | none => simp [hop] at hoperator
    | some operator =>
      exact ⟨field, operator, hlogic, hfield, hop, by simpa using hfilters, hcondition⟩

/-- A node without an operator that passes is a logic. -/
theorem isLogic_of_checkShape {filter : Filter} {u : Unit} (h : filter.checkShape = .ok u)
    (hoperator : filter.operator = none) : filter.IsLogic := by
  rcases shape_of_checkShape h with hlogic | ⟨field, operator, hcondition⟩
  · exact hlogic
  · have hsome := hcondition.operator
    rw [hoperator] at hsome
    cases hsome

/-- A node with an operator that passes is a condition on it. -/
theorem isCondition_of_checkShape {filter : Filter} {u : Unit} (h : filter.checkShape = .ok u)
    {operator : Operator} (hoperator : filter.operator = some operator) :
    ∃ field, filter.IsCondition field operator := by
  rcases shape_of_checkShape h with hlogic | ⟨field, other, hcondition⟩
  · have hnone := hlogic.operator
    rw [hoperator] at hnone
    cases hnone
  · have hsome := hcondition.operator
    rw [hoperator] at hsome
    cases hsome
    exact ⟨field, hcondition⟩

/-- What the value of a condition is: nothing for a null check, and otherwise a sub-query or a
literal that is accepted by the operator. -/
theorem IsCondition.value {filter : Filter} {field : Field} {operator : Operator}
    (h : filter.IsCondition field operator) :
    (operator.operatorClass = .nullCheck ∧ filter.hasValue = false) ∨
    (operator.operatorClass ≠ .nullCheck ∧
      ((∃ query, filter.value = some (.subquery query)) ∨
        ∃ literal, filter.value = some (.value literal) ∧ literal.isNull = false ∧
          operator.checkValue literal = .ok ())) := by
  have hchecked := h.checked
  simp only [checkCondition, bind_eq_ok, h.operator] at hchecked
  obtain ⟨-, -, hvalue⟩ := hchecked
  by_cases hclass : operator.operatorClass = .nullCheck
  · left
    rw [if_pos hclass, ensure_eq_ok] at hvalue
    exact ⟨hclass, by simpa using hvalue⟩
  · right
    rw [if_neg hclass] at hvalue
    refine ⟨hclass, ?_⟩
    split at hvalue
    next query hquery => exact .inl ⟨query, hquery⟩
    next literal hliteral =>
      split at hvalue
      · cases hvalue
      next hnull => exact .inr ⟨literal, hliteral, by simpa using hnull, hvalue⟩
    · cases hvalue

theorem checkShape_of_validate {context : Context} {filter : Filter} {u : Unit}
    (h : filter.validate context = .ok u) : filter.checkShape = .ok () := by
  obtain ⟨logic, field, operator, value, filters⟩ := filter
  rw [validate, bind_eq_ok] at h
  exact h.choose_spec.1

theorem validateAll_of_absent (context : Context) {filters : List (Option Filter)}
    (h : filters.any Option.isSome = false) : validateAll context filters = .ok () := by
  induction filters with
  | nil => rfl
  | cons entry rest ih =>
    cases entry with
    | none => exact ih (by simpa using h)
    | some child => simp at h

/-- The children of a filter that passes do so one level further down. -/
theorem validateAll_of_validate {context inner : Context} {filter : Filter} {u : Unit}
    (h : filter.validate context = .ok u) (hinner : context.descend = .ok inner) :
    validateAll inner filter.filters = .ok () := by
  obtain ⟨logic, field, operator, value, filters⟩ := filter
  rw [validate, bind_eq_ok] at h
  obtain ⟨-, -, hchildren⟩ := h
  cases hany : filters.any Option.isSome with
  | false => exact validateAll_of_absent inner hany
  | true => simpa [hany, hinner] using hchildren

theorem validate_of_mem {context : Context} {filters : List (Option Filter)} {child : Filter}
    (h : validateAll context filters = .ok ()) (hmem : some child ∈ filters) :
    child.validate context = .ok () := by
  induction filters with
  | nil => cases hmem
  | cons entry rest ih =>
    cases entry with
    | none => exact ih h (by simpa using hmem)
    | some other =>
      rw [validateAll, bind_eq_ok] at h
      obtain ⟨_, hother, hrest⟩ := h
      rcases List.mem_cons.mp hmem with heq | hmem
      · cases heq
        exact hother
      · exact ih hrest hmem

end Filter

/-- What a single operand or a list has to be, by the class of the operator. -/
theorem Operator.fits_of_checkValue {operator : Operator} {literal : Value}
    (h : operator.checkValue literal = .ok ()) (hclass : operator.operatorClass ≠ .nullCheck) :
    (operator.operatorClass ≠ .membership ∧ literal.kind.isScalar = true) ∨
    (operator.operatorClass = .membership ∧ ∃ items, literal = .list items ∧ items ≠ [] ∧
      ∀ item ∈ items, item.kind.isScalar = true) := by
  unfold checkValue at h
  cases hop : operator.operatorClass with
  | nullCheck => exact absurd hop hclass
  | comparison =>
    left
    simp only [hop, ensure_eq_ok] at h
    exact ⟨by simp, h⟩
  | pattern =>
    left
    simp only [hop, ensure_eq_ok, beq_iff_eq] at h
    exact ⟨by simp, by simp [h, Kind.isScalar]⟩
  | membership =>
    right
    simp only [hop] at h
    split at h
    next items =>
      simp only [bind_eq_ok, ensure_eq_ok] at h
      obtain ⟨-, hne, hfind⟩ := h
      split at hfind
      · cases hfind
      next hnone =>
        refine ⟨rfl, items, rfl, by simpa using hne, ?_⟩
        simpa using hnone
    · cases h

end QueryTree
