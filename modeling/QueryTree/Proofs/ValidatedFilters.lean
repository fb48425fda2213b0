import QueryTree.Proofs.Conditions
import QueryTree.Proofs.Levels
import QueryTree.Proofs.WellFormed
import QueryTree.Tree.Build

/-!
Whether validation foresees what compilation refuses. A filter of columns and literals is checked as
a whole before any of it is compiled, so its compilation should not be refused for a reason that
validation did not give. It is in one case only: validation descends to the children of a logic if
one of them is present, but compilation descends to their places. So a logic without a present child
passes at the limit on the depth and is refused there when it is compiled.
-/

namespace QueryTree

namespace Filter

/-- A filter of columns and literals: no field is a sub-query or a column without a name, and no
value is a sub-query. -/
inductive Plain : Filter → Prop
  | intro {filter : Filter}
    (field : ∀ left, filter.field = some left →
      ∃ table name aliasName, left = .column table name aliasName ∧ name ≠ "")
    (value : ∀ right, filter.value = some right → ∃ literal, right = .value literal)
    (filters : ∀ child ∈ filter.filters.reduceOption, Plain child) : Plain filter

/-- A logic without a present child lies some levels below the root of the filter. -/
inductive HollowAt : (level : Nat) → Filter → Prop
  | root {filter : Filter} (logic : filter.logic.isSome = true)
    (filters : filter.filters.reduceOption = []) : HollowAt 0 filter
  | child {level : Nat} {filter inner : Filter} (mem : inner ∈ filter.filters.reduceOption)
    (hollow : HollowAt level inner) : HollowAt (level + 1) filter

end Filter

/-- Some levels below the context the limit leaves no room for a further one. -/
def Context.Blocks (context : Context) (level : Nat) : Prop :=
  context.limits.maxDepth.toNat ≤ context.depth.toNat + level

/-- The level below the context is a word, or else the limit is the greatest one. -/
def Context.Proper (context : Context) : Prop :=
  context.depth.toNat + 1 < 2 ^ 64 ∨ context.limits.maxDepth.toNat + 1 = 2 ^ 64

/-- What a descent from the limit ends with. Only behind the greatest word is it not the limit that
refuses it. -/
def Limits.refusal (limits : Limits) : QueryError :=
  if limits.maxDepth + 1 = 0 then .levelOverflow else .tooDeep limits.maxDepth

/-- A logic without a present child lies where the limit leaves no room below it. -/
def Filter.Blocked (filter : Filter) (context : Context) : Prop :=
  ∃ level, filter.HollowAt level ∧ context.Blocks level

section Descent

variable {context : Context}

theorem Context.descend_of_blocks (hproper : context.Proper) (h : context.Blocks 0) :
    context.descend = .error context.limits.refusal := by
  unfold Proper at hproper
  unfold Blocks at h
  by_cases hgreatest : context.limits.maxDepth.toNat + 1 = 2 ^ 64
  · rw [Limits.refusal, if_pos (next_eq_zero_iff.mpr hgreatest)]
    exact descend_of_greatest (by omega)
  · rw [Limits.refusal, if_neg (mt next_eq_zero_iff.mp hgreatest)]
    exact descend_of_le h (by omega)

/-- Where the limit leaves room, the context below is blocked where the context is, counted from one
level further down. -/
theorem Context.descend_of_not_blocks (h : ¬ context.Blocks 0) :
    ∃ inner, context.descend = .ok inner ∧ inner.Proper ∧ inner.limits = context.limits ∧
      ∀ level, inner.Blocks level ↔ context.Blocks (level + 1) := by
  unfold Blocks at h
  have hbound := context.limits.maxDepth.toNat_lt
  have hlimit : context.depth.toNat < context.limits.maxDepth.toNat := by omega
  have hdepth := toNat_next_depth hlimit
  refine ⟨_, descend_of_lt hlimit, ?_, rfl, ?_⟩
  · unfold Proper
    simp only [hdepth]
    omega
  · intro level
    unfold Blocks
    simp only [hdepth]
    omega

end Descent

/-- The checks are stopped by the error under the condition, and pass otherwise. -/
structure StopsIf (condition : Prop) (error : QueryError) (outcome : Except QueryError Unit) :
    Prop where
  stopped : condition → outcome = .error error
  passed : ¬ condition → outcome = .ok ()

theorem StopsIf.andThen {first second : Prop} {error : QueryError}
    {outcome next : Except QueryError Unit} (h : StopsIf first error outcome)
    (hnext : StopsIf second error next) :
    StopsIf (first ∨ second) error (outcome >>= fun _ => next) := by
  constructor
  · intro hcondition
    by_cases hfirst : first
    · rw [h.stopped hfirst, error_bind]
    · rw [h.passed hfirst, ok_bind]
      exact hnext.stopped (hcondition.resolve_left hfirst)
  · intro hcondition
    rw [h.passed fun hfirst => hcondition (.inl hfirst), ok_bind]
    exact hnext.passed fun hsecond => hcondition (.inr hsecond)

theorem acceptChildren_stopsIf {context : Context} {filters : List (Option Filter)}
    {condition : Filter → Prop} {error : QueryError}
    (h : ∀ child ∈ filters.reduceOption,
      StopsIf (condition child) error (child.acceptNode context)) :
    StopsIf (∃ child ∈ filters.reduceOption, condition child) error
      (acceptChildren context filters) := by
  induction filters with
  | nil => exact ⟨by simp, fun _ => rfl⟩
  | cons entry rest ih =>
    cases entry with
    | none => exact ih h
    | some child =>
      rw [List.reduceOption_cons_of_some] at h ⊢
      rw [acceptChildren]
      simp only [List.mem_cons, exists_eq_or_imp]
      exact (h child (by simp)).andThen (ih fun other hother => h other (by simp [hother]))

namespace Filter

/-- Where the limit leaves room below the root, a filter is blocked in one of its children. -/
theorem blocked_iff_children {filter : Filter} {context inner : Context} (h : ¬ context.Blocks 0)
    (hblocks : ∀ level, inner.Blocks level ↔ context.Blocks (level + 1)) :
    filter.Blocked context ↔ ∃ child ∈ filter.filters.reduceOption, child.Blocked inner := by
  constructor
  · rintro ⟨_, hhollow | ⟨hmem, hhollow⟩, hlevel⟩
    · exact absurd hlevel h
    · exact ⟨_, hmem, _, hhollow, (hblocks _).mpr hlevel⟩
  · rintro ⟨child, hmem, level, hhollow, hlevel⟩
    exact ⟨level + 1, .child hmem hhollow, (hblocks level).mp hlevel⟩

/-- A filter that passes where validation could not descend has nothing to descend to. -/
theorem absent_of_validate {filter : Filter} {context : Context} {error : QueryError}
    (hvalid : filter.validate context = .ok ()) (hdescend : context.descend = .error error) :
    filter.filters.reduceOption = [] := by
  obtain ⟨logic, field, operator, value, filters⟩ := filter
  rw [validate, check_bind_eq_ok, hdescend, error_bind] at hvalid
  obtain ⟨-, hvalid⟩ := hvalid
  split at hvalid
  · cases hvalid
  next hnone => simpa [List.reduceOption, List.filterMap_eq_nil_iff] using hnone

/-- A condition has neither a logic nor children. -/
theorem IsCondition.not_blocked {filter : Filter} {field : Field} {operator : Operator}
    (h : filter.IsCondition field operator) (context : Context) : ¬ filter.Blocked context := by
  rintro ⟨_, ⟨hlogic, -⟩ | ⟨hmem, -⟩, -⟩
  · simp [h.logic] at hlogic
  · simp [h.filters] at hmem

theorem acceptNode_condition {context : Context} {logic : Option Logic} {field : Option Field}
    {operator : Operator} {value : Option Operand} {filters : List (Option Filter)}
    (hplain : Plain ⟨logic, field, some operator, value, filters⟩)
    (hvalid : validate context ⟨logic, field, some operator, value, filters⟩ = .ok ()) :
    acceptNode context ⟨logic, field, some operator, value, filters⟩ = .ok () := by
  have hshape := checkShape_of_validate hvalid
  obtain ⟨left, hcondition⟩ := isCondition_of_checkShape hshape rfl
  cases hcondition.logic
  cases hcondition.field
  obtain ⟨-, -, _, heq, haccepts⟩ := (checkShape_condition_iff _ _ _ _).mp hshape
  cases heq
  obtain ⟨hfield, hvalue, -⟩ := hplain
  obtain ⟨table, name, aliasName, rfl, hname⟩ := hfield left rfl
  have hleft : (Field.column table name aliasName).accept context = .ok () := by
    simpa [Field.accept, Field.validate] using hname
  rw [acceptNode, hleft, ok_bind, acceptOperand_eq_ok_iff context haccepts]
  intro right hright
  obtain ⟨literal, rfl⟩ := hvalue right hright
  rfl

/-- A filter of columns and literals that passed validation is refused where a logic without a
present child stands at the limit, and nowhere else. -/
theorem acceptNode_stopsIf {filter : Filter} {context : Context} (hproper : context.Proper)
    (hplain : filter.Plain) (hvalid : filter.validate context = .ok ()) :
    StopsIf (filter.Blocked context) context.limits.refusal (filter.acceptNode context) := by
  induction filter using Filter.recursion generalizing context with
  | condition logic field operator value filters =>
    have hshape := checkShape_of_validate hvalid
    obtain ⟨left, hcondition⟩ := isCondition_of_checkShape hshape rfl
    exact ⟨fun hblocked => absurd hblocked (hcondition.not_blocked context),
      fun _ => acceptNode_condition hplain hvalid⟩
  | logic logic field value filters ih =>
    have hlogic := isLogic_of_checkShape (checkShape_of_validate hvalid) rfl
    rw [acceptNode, if_neg (by simpa using hlogic.filters)]
    by_cases hroot : context.Blocks 0
    -- Validation did not descend here, so there is no child, but compilation tries to.
    · have hdescend := context.descend_of_blocks hproper hroot
      have habsent := absent_of_validate hvalid hdescend
      rw [hdescend, error_bind]
      exact ⟨fun _ => rfl, fun h => absurd ⟨0, .root hlogic.logic habsent, hroot⟩ h⟩
    -- Both descend, and all children passed validation.
    · obtain ⟨inner, hinner, hinnerProper, hlimits, hblocks⟩ :=
        context.descend_of_not_blocks hroot
      obtain ⟨-, -, hchildren⟩ := hplain
      have hvalidAll : validateAll inner filters = .ok () := validateAll_of_validate hvalid hinner
      have heach (child : Filter) (hmem : child ∈ filters.reduceOption) :=
        ih child hmem hinnerProper (hchildren child hmem)
          (validate_of_mem hvalidAll (List.reduceOption_mem_iff.mp hmem))
      have hstops := acceptChildren_stopsIf heach
      rw [blocked_iff_children hroot hblocks, hinner, ok_bind, ← hlimits]
      exact hstops

/-- Compilation succeeds exactly if validation does, and fails exactly as validation does. -/
def Foreseen (filter : Filter) (context : Context) (args : Array Value) : Prop :=
  (filter.validate context = .ok () ↔ ∃ compiled, filter.compile context args = .ok compiled) ∧
    ∀ error, filter.validate context = .error error ↔ filter.compile context args = .error error

/-- The filter passes validation and is blocked all the same. -/
def Overlooked (filter : Filter) (context : Context) : Prop :=
  filter.validate context = .ok () ∧ filter.Blocked context

section Outcomes

variable {filter : Filter} {context : Context}

theorem compile_of_overlooked (hproper : context.Proper) (hplain : filter.Plain)
    (h : filter.Overlooked context) (args : Array Value) :
    filter.compile context args = .error context.limits.refusal := by
  obtain ⟨hvalid, hblocked⟩ := h
  have hnode := (acceptNode_stopsIf hproper hplain hvalid).stopped hblocked
  rw [compile_eq, accept, hvalid, ok_bind, hnode, map_error]

theorem compile_of_valid (hproper : context.Proper) (hplain : filter.Plain)
    (hvalid : filter.validate context = .ok ()) (h : ¬ filter.Overlooked context)
    (args : Array Value) :
    filter.compile context args = .ok (.ofPieces context.dialect args (filter.pieces true)) := by
  have hnode := (acceptNode_stopsIf hproper hplain hvalid).passed fun hblocked =>
    h ⟨hvalid, hblocked⟩
  rw [compile_eq, accept, hvalid, ok_bind, hnode, map_ok]

theorem compile_of_invalid {error : QueryError} (h : filter.validate context = .error error)
    (args : Array Value) : filter.compile context args = .error error := by
  rw [compile, h, error_bind]

theorem not_foreseen_of_overlooked (hproper : context.Proper) (hplain : filter.Plain)
    (h : filter.Overlooked context) (args : Array Value) : ¬ filter.Foreseen context args := by
  rintro ⟨hsuccess, -⟩
  obtain ⟨compiled, hcompiled⟩ := hsuccess.mp h.1
  rw [compile_of_overlooked hproper hplain h] at hcompiled
  cases hcompiled

theorem foreseen_of_not_overlooked (hproper : context.Proper) (hplain : filter.Plain)
    (h : ¬ filter.Overlooked context) (args : Array Value) : filter.Foreseen context args := by
  unfold Foreseen
  cases hvalid : filter.validate context with
  | error error => simp [compile_of_invalid hvalid]
  | ok _ => simp [compile_of_valid hproper hplain hvalid h]

/-- A logic without a present child renders nothing. -/
theorem pieces_of_hollow (hvalid : filter.validate context = .ok ()) (h : filter.HollowAt 0) :
    filter.pieces true = [] := by
  obtain ⟨hlogic, hfilters⟩ := h
  rcases shape_of_checkShape (checkShape_of_validate hvalid) with hshape | ⟨_, _, hshape⟩
  · obtain ⟨logic, field, operator, value, filters⟩ := filter
    cases hshape.operator
    rw [pieces, childPieces_eq, hfilters]
    rfl
  · simp [hshape.logic] at hlogic

end Outcomes

/-- Validation of a filter of columns and literals foresees its compilation, unless a logic without
a present child stands at the limit on the depth. Such a logic passes, and then the compilation is
refused as too deep; elsewhere it compiles to nothing. -/
theorem validation_foresees_compilation (filter : Filter) (context : Context) (args : Array Value)
    (hplain : filter.Plain) (hdepth : context.depth.toNat < 2 ^ 64 - 1) :
    (filter.Foreseen context args ↔ ¬ filter.Overlooked context) ∧
    (filter.Overlooked context → filter.compile context args = .error context.limits.refusal) ∧
    (filter.HollowAt 0 → filter.validate context = .ok () → ¬ filter.Overlooked context →
      filter.compile context args = .ok ⟨"", args⟩) := by
  have hproper : context.Proper := .inl (by omega)
  refine ⟨⟨?_, ?_⟩, ?_, ?_⟩
  · exact fun hforeseen hoverlooked =>
      not_foreseen_of_overlooked hproper hplain hoverlooked args hforeseen
  · exact fun h => foreseen_of_not_overlooked hproper hplain h args
  · exact fun h => compile_of_overlooked hproper hplain h args
  · intro hhollow hvalid h
    rw [compile_of_valid hproper hplain hvalid h, pieces_of_hollow hvalid hhollow]
    simp [Compiled.ofPieces, Piece.fill]

/-- The flights that are late, joined with a group of conditions that was left empty. -/
def lateFlights : Filter :=
  .all [.condition (.ofColumn "delay") .greaterThan (.int 0), (Filter.any []).addOptional none]

theorem lateFlights_plain : lateFlights.Plain := by
  refine .intro nofun nofun ?_
  intro child hmem
  simp only [lateFlights, all, withLogic, addFilters, List.nil_append, List.map_cons, List.map_nil,
    List.reduceOption_cons_of_some, List.reduceOption_nil, List.mem_cons, List.not_mem_nil,
    or_false] at hmem
  rcases hmem with rfl | rfl
  · refine .intro ?_ ?_ nofun
    · rintro _ ⟨⟩
      exact ⟨none, "delay", none, rfl, by decide⟩
    · rintro _ ⟨⟩
      exact ⟨.int 0, rfl⟩
  · exact .intro nofun nofun nofun

/-- The group needs a level of its own, although it has nothing there. -/
theorem lateFlights_foreseen :
    lateFlights.Foreseen ⟨.postgres, 3, ⟨5, none⟩⟩ #[.null] ∧
      lateFlights.validate ⟨.postgres, 3, ⟨4, none⟩⟩ = .ok () ∧
      lateFlights.compile ⟨.postgres, 3, ⟨4, none⟩⟩ #[.null] = .error (.tooDeep 4) := by
  have hplain := lateFlights_plain
  have hwide := lateFlights.validation_foresees_compilation ⟨.postgres, 3, ⟨5, none⟩⟩ #[.null]
    hplain (by decide)
  have hnarrow := lateFlights.validation_foresees_compilation ⟨.postgres, 3, ⟨4, none⟩⟩ #[.null]
    hplain (by decide)
  have hcompiled : lateFlights.compile ⟨.postgres, 3, ⟨5, none⟩⟩ #[.null] =
      .ok (.ofPieces .postgres #[.null] (lateFlights.pieces true)) := by
    rw [compile_eq]
    rfl
  have hoverlooked : lateFlights.Overlooked ⟨.postgres, 3, ⟨4, none⟩⟩ :=
    ⟨rfl, 1, .child (.tail _ (.head _)) (.root rfl rfl), Nat.le_refl 4⟩
  refine ⟨hwide.1.mpr ?_, rfl, hnarrow.2.1 hoverlooked⟩
  intro h
  rw [hwide.2.1 h] at hcompiled
  cases hcompiled

/-- A logic with one place for a child, which is empty. -/
def emptyLogic : Filter :=
  (Filter.all []).addOptional none

/-- No level is allowed below the root. The logic has nothing there, and is refused. -/
theorem emptyLogic_overlooked :
    emptyLogic.validate ⟨.mysql, 0, ⟨0, none⟩⟩ = .ok () ∧
      emptyLogic.compile ⟨.mysql, 0, ⟨0, none⟩⟩ #[] = .error (.tooDeep 0) :=
  ⟨rfl, rfl⟩

end Filter

end QueryTree
