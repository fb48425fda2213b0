import QueryTree.Proofs.Acceptance
import QueryTree.Proofs.Outcome

/-!
The checks of a tree under two contexts side by side. Of their context the checks read how many rows
a select may ask for and whether they may descend, and nothing else. So two contexts that agree in
this, now and after every descent, lead to the same outcome. If the first one may also be stopped
where the second goes on, the outcomes are the same but for the error that stops it.
-/

namespace QueryTree

section Agreement

variable {α β : Type} {excused : QueryError → Prop}

/-- The outcomes are the same, unless the first is an error that is excused. -/
def AgreeUnless (excused : QueryError → Prop) (first second : Except QueryError α) : Prop :=
  first = second ∨ ∃ error, excused error ∧ first = .error error

theorem AgreeUnless.refl (outcome : Except QueryError α) : AgreeUnless excused outcome outcome :=
  .inl rfl

theorem AgreeUnless.bind {first second : Except QueryError α} {next other : α → Except QueryError β}
    (h : AgreeUnless excused first second) (hnext : ∀ a, AgreeUnless excused (next a) (other a)) :
    AgreeUnless excused (first >>= next) (second >>= other) := by
  rcases h with rfl | ⟨error, hexcused, rfl⟩
  · cases first with
    | error error => exact .refl _
    | ok a => exact hnext a
  · exact .inr ⟨error, hexcused, rfl⟩

/-- What follows is the same in both chains. -/
theorem AgreeUnless.andThen {first second : Except QueryError α} {next : α → Except QueryError β}
    (h : AgreeUnless excused first second) :
    AgreeUnless excused (first >>= next) (second >>= next) :=
  h.bind fun _ => .refl _

end Agreement

/-- Related contexts allow the same number of rows. They descend to related contexts or are refused
alike, unless the first one is refused with an error that is excused. -/
structure Parallel (excused : QueryError → Prop) (related : Context → Context → Prop) : Prop where
  maxTake : ∀ {first second}, related first second →
    first.limits.maxTake = second.limits.maxTake
  descend : ∀ {first second}, related first second →
    (∃ error, excused error ∧ first.descend = .error error) ∨
    (∃ error, first.descend = .error error ∧ second.descend = .error error) ∨
    ∃ inner other, first.descend = .ok inner ∧ second.descend = .ok other ∧ related inner other

section Checks

variable {excused : QueryError → Prop} {related : Context → Context → Prop}

theorem Parallel.below {α : Type} (h : Parallel excused related) {first second : Context}
    (hrelated : related first second) {next other : Context → Except QueryError α}
    (hnext : ∀ inner outer, related inner outer → AgreeUnless excused (next inner) (other outer)) :
    AgreeUnless excused (first.descend >>= next) (second.descend >>= other) := by
  rcases h.descend hrelated with
    ⟨error, hexcused, hfirst⟩ | ⟨error, hfirst, hsecond⟩ | ⟨inner, outer, hfirst, hsecond, hinner⟩
  · rw [hfirst]
    exact .inr ⟨error, hexcused, rfl⟩
  · rw [hfirst, hsecond]
    exact .refl _
  · rw [hfirst, hsecond]
    exact hnext inner outer hinner

theorem Parallel.validate_select (h : Parallel excused related) {first second : Context}
    (hrelated : related first second) (query : Select) :
    query.validate first = query.validate second := by
  unfold Select.validate
  rw [h.maxTake hrelated]

mutual

theorem Filter.validate_agree (h : Parallel excused related) {first second : Context}
    (hrelated : related first second) : ∀ (filter : Filter),
    AgreeUnless excused (filter.validate first) (filter.validate second)
  | ⟨logic, field, operator, value, filters⟩ => by
    rw [Filter.validate, Filter.validate]
    refine (AgreeUnless.refl _).bind fun _ => ?_
    split
    · exact h.below hrelated fun inner outer hinner => validateAll_agree h hinner filters
    · exact .refl _

theorem validateAll_agree (h : Parallel excused related) {first second : Context}
    (hrelated : related first second) : ∀ (filters : List (Option Filter)),
    AgreeUnless excused (Filter.validateAll first filters) (Filter.validateAll second filters)
  | [] => .refl _
  | none :: rest => validateAll_agree h hrelated rest
  | some child :: rest => by
    rw [Filter.validateAll, Filter.validateAll]
    exact (child.validate_agree h hrelated).bind fun _ => validateAll_agree h hrelated rest

end

mutual

theorem Field.accept_agree (h : Parallel excused related) {first second : Context}
    (hrelated : related first second) : ∀ (field : Field),
    AgreeUnless excused (field.accept first) (field.accept second)
  | .column _ _ _ => .refl _
  | .subquery query _ => by
    rw [Field.accept, Field.accept]
    refine (AgreeUnless.refl _).bind fun _ => ?_
    exact h.below hrelated fun inner outer hinner => query.accept_agree h hinner

theorem Table.accept_agree (h : Parallel excused related) {first second : Context}
    (hrelated : related first second) : ∀ (table : Table),
    AgreeUnless excused (table.accept first) (table.accept second)
  | .named _ _ => .refl _
  | .subquery query _ => by
    rw [Table.accept, Table.accept]
    refine (AgreeUnless.refl _).bind fun _ => ?_
    exact h.below hrelated fun inner outer hinner => query.accept_agree h hinner

theorem Operand.accept_agree (h : Parallel excused related) {first second : Context}
    (hrelated : related first second) : ∀ (operand : Operand),
    AgreeUnless excused (operand.accept first) (operand.accept second)
  | .value _ => .refl _
  | .subquery query => by
    rw [Operand.accept, Operand.accept]
    exact h.below hrelated fun inner outer hinner => query.accept_agree h hinner

theorem acceptOperand_agree (h : Parallel excused related) {first second : Context}
    (hrelated : related first second) (operator : Operator) : ∀ (value : Option Operand),
    AgreeUnless excused (acceptOperand first operator value) (acceptOperand second operator value)
  | none => .refl _
  | some operand => by
    rw [acceptOperand, acceptOperand]
    split
    · exact .refl _
    · exact (AgreeUnless.refl _).bind fun _ => operand.accept_agree h hrelated

theorem Filter.acceptNode_agree (h : Parallel excused related) {first second : Context}
    (hrelated : related first second) : ∀ (filter : Filter),
    AgreeUnless excused (filter.acceptNode first) (filter.acceptNode second)
  | ⟨_, _, none, _, filters⟩ => by
    rw [Filter.acceptNode, Filter.acceptNode]
    split
    · exact .refl _
    · exact h.below hrelated fun inner outer hinner => acceptChildren_agree h hinner filters
  | ⟨_, none, some _, _, _⟩ => .refl _
  | ⟨_, some field, some operator, value, _⟩ => by
    rw [Filter.acceptNode, Filter.acceptNode]
    exact (field.accept_agree h hrelated).bind fun _ =>
      acceptOperand_agree h hrelated operator value

theorem acceptChildren_agree (h : Parallel excused related) {first second : Context}
    (hrelated : related first second) : ∀ (filters : List (Option Filter)),
    AgreeUnless excused (acceptChildren first filters) (acceptChildren second filters)
  | [] => .refl _
  | none :: rest => acceptChildren_agree h hrelated rest
  | some child :: rest => by
    rw [acceptChildren, acceptChildren]
    exact (child.acceptNode_agree h hrelated).bind fun _ => acceptChildren_agree h hrelated rest

theorem acceptFields_agree (h : Parallel excused related) {first second : Context}
    (hrelated : related first second) : ∀ (fields : List Field),
    AgreeUnless excused (acceptFields first fields) (acceptFields second fields)
  | [] => .refl _
  | field :: rest => by
    rw [acceptFields, acceptFields]
    exact (field.accept_agree h hrelated).bind fun _ => acceptFields_agree h hrelated rest

theorem acceptTable_agree (h : Parallel excused related) {first second : Context}
    (hrelated : related first second) : ∀ (table : Option Table),
    AgreeUnless excused (acceptTable first table) (acceptTable second table)
  | none => .refl _
  | some table => table.accept_agree h hrelated

theorem acceptWhere_agree (h : Parallel excused related) {first second : Context}
    (hrelated : related first second) : ∀ (filter : Option Filter),
    AgreeUnless excused (acceptWhere first filter) (acceptWhere second filter)
  | none => .refl _
  | some filter => by
    rw [acceptWhere, acceptWhere]
    exact (filter.validate_agree h hrelated).bind fun _ => filter.acceptNode_agree h hrelated

theorem Select.accept_agree (h : Parallel excused related) {first second : Context}
    (hrelated : related first second) : ∀ (query : Select),
    AgreeUnless excused (query.accept first) (query.accept second)
  | ⟨fields, table, filter, sorts, take, aliasName⟩ => by
    rw [Select.accept, Select.accept, h.validate_select hrelated]
    refine (AgreeUnless.refl _).bind fun _ => ?_
    refine (acceptFields_agree h hrelated fields).bind fun _ => ?_
    refine (acceptTable_agree h hrelated table).bind fun _ => ?_
    exact (acceptWhere_agree h hrelated filter).andThen

end

theorem Filter.accept_agree (h : Parallel excused related) {first second : Context}
    (hrelated : related first second) (filter : Filter) :
    AgreeUnless excused (filter.accept first) (filter.accept second) :=
  acceptWhere_agree h hrelated (some filter)

end Checks

end QueryTree
