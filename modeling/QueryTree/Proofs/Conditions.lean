import Mathlib.Data.List.ReduceOption
import QueryTree.Proofs.Compilation
import QueryTree.Proofs.Shape

/-!
The conditions of a filter. They are its nodes with an operator, in the order in which they stand;
what lies between them only joins them. A filter renders something exactly if it has a condition,
each of its conditions stands in its rendering as it is rendered by itself, and each of them
compiles by itself if the whole filter does.
-/

namespace QueryTree

open Piece

section Induction

variable {P : Filter → Prop}

mutual

theorem Filter.recursion_of
    (condition : ∀ logic field operator value filters,
      P ⟨logic, field, some operator, value, filters⟩)
    (logic : ∀ logic field value filters, (∀ child ∈ filters.reduceOption, P child) →
      P ⟨logic, field, none, value, filters⟩) : ∀ filter, P filter
  | ⟨l, f, some operator, v, fs⟩ => condition l f operator v fs
  | ⟨l, f, none, v, fs⟩ => logic l f v fs (children_recursion condition logic fs)

theorem children_recursion
    (condition : ∀ logic field operator value filters,
      P ⟨logic, field, some operator, value, filters⟩)
    (logic : ∀ logic field value filters, (∀ child ∈ filters.reduceOption, P child) →
      P ⟨logic, field, none, value, filters⟩) :
    ∀ filters : List (Option Filter), ∀ child ∈ filters.reduceOption, P child
  | [], _, hmem => nomatch hmem
  | none :: rest, child, hmem => children_recursion condition logic rest child hmem
  | some first :: rest, child, hmem => by
    rw [List.reduceOption_cons_of_some, List.mem_cons] at hmem
    rcases hmem with heq | hrest
    · rw [heq]
      exact first.recursion_of condition logic
    · exact children_recursion condition logic rest child hrest

end

/-- Induction over a filter that stops at its conditions: of a logic, the children that are present
may be assumed. -/
@[elab_as_elim]
theorem Filter.recursion (filter : Filter)
    (condition : ∀ logic field operator value filters,
      P ⟨logic, field, some operator, value, filters⟩)
    (logic : ∀ logic field value filters, (∀ child ∈ filters.reduceOption, P child) →
      P ⟨logic, field, none, value, filters⟩) : P filter :=
  filter.recursion_of condition logic

end Induction

mutual

def Filter.conditions : Filter → List Filter
  | ⟨logic, field, some operator, value, filters⟩ =>
    [⟨logic, field, some operator, value, filters⟩]
  | ⟨_, _, none, _, filters⟩ => childConditions filters

def childConditions : List (Option Filter) → List Filter
  | [] => []
  | none :: rest => childConditions rest
  | some child :: rest => child.conditions ++ childConditions rest

end

theorem childConditions_eq (filters : List (Option Filter)) :
    childConditions filters = filters.reduceOption.flatMap Filter.conditions := by
  induction filters with
  | nil => rfl
  | cons entry rest ih =>
    cases entry with
    | none => exact ih
    | some child => rw [childConditions, ih, List.reduceOption_cons_of_some, List.flatMap_cons]

theorem childPieces_eq (filters : List (Option Filter)) :
    childPieces filters = filters.reduceOption.map (Filter.pieces false) := by
  induction filters with
  | nil => rfl
  | cons entry rest ih =>
    cases entry with
    | none => exact ih
    | some child => rw [childPieces, ih, List.reduceOption_cons_of_some, List.map_cons]

theorem Filter.operator_of_mem_conditions {filter condition : Filter}
    (h : condition ∈ filter.conditions) : ∃ operator, condition.operator = some operator := by
  induction filter using Filter.recursion with
  | condition logic field operator value filters =>
    rw [conditions, List.mem_singleton] at h
    exact ⟨operator, by rw [h]⟩
  | logic logic field value filters ih =>
    rw [conditions, childConditions_eq, List.mem_flatMap] at h
    obtain ⟨child, hchild, hmem⟩ := h
    exact ih child hchild hmem

/-- A condition has no parentheses, wherever it stands. -/
theorem Filter.pieces_condition {filter : Filter} {operator : Operator}
    (h : filter.operator = some operator) : filter.pieces true = filter.pieces false := by
  obtain ⟨logic, field, op, value, filters⟩ := filter
  cases h
  cases field with
  | none => rfl
  | some field => rfl

section Acceptance

variable {context : Context}

theorem acceptNode_of_mem {filters : List (Option Filter)} {child : Filter}
    (h : acceptChildren context filters = .ok ()) (hmem : some child ∈ filters) :
    child.acceptNode context = .ok () := by
  induction filters with
  | nil => cases hmem
  | cons entry rest ih =>
    cases entry with
    | none => exact ih h (by simpa using hmem)
    | some other =>
      rw [acceptChildren, bind_eq_ok] at h
      obtain ⟨_, hother, hrest⟩ := h
      rcases List.mem_cons.mp hmem with heq | hmem
      · cases heq
        exact hother
      · exact ih hrest hmem

/-- The children of an accepted filter are accepted one level further down. -/
theorem Filter.accept_of_mem {filter child : Filter} (h : filter.accept context = .ok ())
    (hmem : child ∈ filter.filters.reduceOption) :
    ∃ inner, inner.dialect = context.dialect ∧ child.accept inner = .ok () := by
  rw [List.reduceOption_mem_iff] at hmem
  simp only [accept, bind_eq_ok] at h
  obtain ⟨_, hvalid, hnode⟩ := h
  rcases shape_of_checkShape (checkShape_of_validate hvalid) with hlogic | ⟨field, operator, hcond⟩
  · obtain ⟨logic, field, operator, value, filters⟩ := filter
    cases hlogic.operator
    rw [acceptNode, if_neg (by simpa using hlogic.filters), bind_eq_ok] at hnode
    obtain ⟨inner, hinner, hchildren⟩ := hnode
    have hchild := validate_of_mem (validateAll_of_validate hvalid hinner) hmem
    refine ⟨inner, Context.dialect_of_descend hinner, ?_⟩
    rw [accept, hchild, ok_bind]
    exact acceptNode_of_mem hchildren hmem
  · rw [hcond.filters] at hmem
    cases hmem

theorem Filter.accept_of_mem_conditions {filter condition : Filter}
    (h : filter.accept context = .ok ()) (hmem : condition ∈ filter.conditions) :
    ∃ inner, inner.dialect = context.dialect ∧ condition.accept inner = .ok () := by
  induction filter using Filter.recursion generalizing context with
  | condition logic field operator value filters =>
    rw [conditions, List.mem_singleton] at hmem
    exact ⟨context, rfl, by rw [hmem]; exact h⟩
  | logic logic field value filters ih =>
    rw [conditions, childConditions_eq, List.mem_flatMap] at hmem
    obtain ⟨child, hchild, hmem⟩ := hmem
    obtain ⟨inner, hdialect, haccept⟩ := accept_of_mem h hchild
    obtain ⟨innermost, hsame, hcondition⟩ := ih child hchild haccept hmem
    exact ⟨innermost, hsame.trans hdialect, hcondition⟩

end Acceptance

section Rendered

theorem infix_intercalate {separator : List Piece} {parts : List (List Piece)} {part : List Piece}
    (h : part ∈ parts) : part <:+: separator.intercalate parts := by
  induction parts with
  | nil => cases h
  | cons first rest ih =>
    cases rest with
    | nil =>
      rw [List.mem_singleton] at h
      exact ⟨[], [], by simp [h]⟩
    | cons second rest =>
      rw [List.intercalate_cons_cons, List.append_assoc]
      rcases List.mem_cons.mp h with heq | hrest
      · rw [heq]
        exact (List.prefix_append first _).isInfix
      · exact ((ih hrest).trans (List.suffix_append _ _).isInfix).trans
          (List.suffix_append _ _).isInfix

theorem infix_grouped (pieces : List Piece) : pieces <:+: grouped pieces :=
  List.infix_append _ _ _

/-- A rendering that stands in a child stands in the whole. -/
theorem infix_joined {logic : Option Logic} {root : Bool} {parts : List (List Piece)}
    {part pieces : List Piece} (hmem : part ∈ parts) (h : pieces <:+: part) :
    pieces <:+: joined logic root parts := by
  cases part with
  | nil =>
    rw [List.infix_nil.mp h]
    exact List.nil_infix
  | cons piece part =>
    have hkept : piece :: part ∈ parts.filter (fun part => !part.isEmpty) :=
      List.mem_filter.mpr ⟨hmem, rfl⟩
    unfold joined
    cases hparts : parts.filter (fun part => !part.isEmpty) with
    | nil => simp [hparts] at hkept
    | cons first rest =>
      rw [hparts] at hkept
      let separator : List Piece := [.text (" " ++ (logic.getD .standard).keyword ++ " ")]
      have hinside : pieces <:+: separator.intercalate (first :: rest) :=
        h.trans (infix_intercalate hkept)
      cases root with
      | true => exact hinside
      | false => exact hinside.trans (infix_grouped _)

theorem joined_eq_nil {logic : Option Logic} {root : Bool} {parts : List (List Piece)} :
    joined logic root parts = [] ↔ ∀ part ∈ parts, part = [] := by
  constructor
  · intro h part hpart
    have hinside : part <:+: joined logic root parts := infix_joined hpart (List.infix_refl part)
    rw [h] at hinside
    exact List.infix_nil.mp hinside
  · intro h
    have hnone : parts.filter (fun part => !part.isEmpty) = [] := by
      rw [List.filter_eq_nil_iff]
      intro part hpart
      simp [h part hpart]
    unfold joined
    rw [hnone]

/-- Each condition stands in the rendering as it is rendered by itself. -/
theorem Filter.infix_pieces {filter condition : Filter} {root : Bool}
    (h : condition ∈ filter.conditions) : condition.pieces true <:+: filter.pieces root := by
  induction filter using Filter.recursion generalizing root with
  | condition logic field operator value filters =>
    rw [conditions, List.mem_singleton] at h
    rw [h]
    cases root with
    | true => exact List.infix_refl _
    | false => exact ⟨[], [], by simp [pieces_condition]⟩
  | logic logic field value filters ih =>
    rw [conditions, childConditions_eq, List.mem_flatMap] at h
    obtain ⟨child, hchild, hmem⟩ := h
    rw [pieces, childPieces_eq]
    exact infix_joined (List.mem_map_of_mem hchild) (ih child hchild hmem)

/-- A filter that is accepted renders something exactly if it has a condition. -/
theorem Filter.pieces_eq_nil_iff {context : Context} {filter : Filter} {root : Bool}
    (h : filter.accept context = .ok ()) : filter.pieces root = [] ↔ filter.conditions = [] := by
  induction filter using Filter.recursion generalizing context root with
  | condition logic field operator value filters =>
    rw [accept, bind_eq_ok] at h
    obtain ⟨_, -, hnode⟩ := h
    cases field with
    | none => cases hnode
    | some field =>
      obtain ⟨s, -, htext⟩ :=
        ofCondition_visible operator field.pieces (operandPieces operator value)
      -- Both sides are false: a condition always shows some text.
      constructor
      · intro hnil
        rw [pieces] at hnil
        rw [hnil] at htext
        cases htext
      · intro hnone
        cases hnone
  | logic logic field value filters ih =>
    rw [pieces, conditions, joined_eq_nil, childConditions_eq, childPieces_eq,
      List.flatMap_eq_nil_iff, List.forall_mem_map]
    refine forall₂_congr fun child hchild => ?_
    obtain ⟨inner, -, haccept⟩ := accept_of_mem h hchild
    exact ih child hchild haccept

end Rendered

end QueryTree
