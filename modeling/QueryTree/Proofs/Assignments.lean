import Mathlib.Data.List.Forall2
import Mathlib.Data.List.Induction
import QueryTree.Description.Convert
import QueryTree.Proofs.Outcome

/-!
Assignments that are made one after the other. Each step replaces the value of one column or adds a
column at the end; what is left after all of them can be said without the steps: a column stands
where it is assigned first, with the value that it is assigned last.
-/

namespace QueryTree

section Last

variable {α β : Type}

/-- The columns in the order in which they are assigned first, each with the value that it is
assigned last. -/
def lastAssigned : List (String × α) → List (String × α)
  | [] => []
  | (column, value) :: rest =>
    let later := lastAssigned rest
    (column, (later.lookup column).getD value) :: later.filter fun entry => entry.1 ≠ column

theorem lookup_cons_eq (name head : String) (value : α) (rest : List (String × α)) :
    ((head, value) :: rest).lookup name = if name = head then some value else rest.lookup name := by
  by_cases hname : name = head
  · rw [if_pos hname, hname, List.lookup_cons_self]
  · rw [if_neg hname, List.lookup_cons, beq_false_of_ne hname]

theorem mem_of_lookup {entries : List (String × α)} {name : String} {value : α}
    (h : entries.lookup name = some value) : (name, value) ∈ entries := by
  induction entries with
  | nil => cases h
  | cons entry rest ih =>
    obtain ⟨head, first⟩ := entry
    rw [lookup_cons_eq] at h
    split at h
    next hname =>
      cases h
      rw [hname]
      exact List.mem_cons_self
    next => exact List.mem_cons_of_mem _ (ih h)

theorem lookup_eq_none_iff_notMem {entries : List (String × α)} {name : String} :
    entries.lookup name = none ↔ name ∉ entries.map Prod.fst := by
  rw [List.lookup_eq_none_iff, List.mem_map]
  constructor
  · rintro hother ⟨entry, hentry, rfl⟩
    exact (bne_iff_ne.mp (hother entry hentry)) rfl
  · intro hnew entry hentry
    exact bne_iff_ne.mpr fun heq => hnew ⟨entry, hentry, heq.symm⟩

theorem lookup_assign (column name : String) (value : Value) (assigned : List (String × Value)) :
    (assign column value assigned).lookup name =
      if name = column then some value else assigned.lookup name := by
  induction assigned with
  | nil => exact lookup_cons_eq name column value []
  | cons entry rest ih =>
    obtain ⟨head, old⟩ := entry
    rw [assign]
    split
    next hhead =>
      rw [lookup_cons_eq, lookup_cons_eq, hhead]
      split <;> rfl
    next hhead =>
      rw [lookup_cons_eq, lookup_cons_eq, ih]
      by_cases hname : name = head
      · rw [if_pos hname, if_neg (hname ▸ hhead), if_pos hname]
      · rw [if_neg hname, if_neg hname]

/-- Leaving out a column undoes an assignment to it, and does not matter to the others. -/
theorem filter_assign (column name : String) (value : Value) (assigned : List (String × Value)) :
    (assign column value assigned).filter (fun entry => entry.1 ≠ name) =
      if column = name then assigned.filter fun entry => entry.1 ≠ name
      else assign column value (assigned.filter fun entry => entry.1 ≠ name) := by
  induction assigned with
  | nil => by_cases hcolumn : column = name <;> simp [assign, hcolumn]
  | cons entry rest ih =>
    obtain ⟨head, old⟩ := entry
    rw [assign]
    split
    next hhead =>
      by_cases hcolumn : column = name
      · simp [hhead, hcolumn]
      · simp [assign, hhead, hcolumn]
    next hhead =>
      rw [List.filter_cons, ih, List.filter_cons]
      by_cases hcolumn : column = name
      · simp [hcolumn]
      · by_cases hname : head = name
        · simp [hcolumn, hname]
        · simp [assign, hcolumn, hname, hhead]

theorem lastAssigned_concat (assignments : List (String × Value)) (column : String)
    (value : Value) :
    lastAssigned (assignments ++ [(column, value)]) =
      assign column value (lastAssigned assignments) := by
  induction assignments with
  | nil => rfl
  | cons entry rest ih =>
    obtain ⟨head, old⟩ := entry
    rw [List.cons_append, lastAssigned, lastAssigned, ih, lookup_assign, filter_assign, assign]
    by_cases hhead : head = column
    · rw [if_pos hhead, if_pos hhead.symm, if_pos hhead]
      rfl
    · rw [if_neg hhead, if_neg (Ne.symm hhead), if_neg hhead]

/-- The assignments made one after the other, to nothing. -/
theorem foldl_assign (assignments : List (String × Value)) :
    assignments.foldl (fun assigned entry => assign entry.1 entry.2 assigned) [] =
      lastAssigned assignments := by
  induction assignments using List.reverseRecOn with
  | nil => rfl
  | append_singleton rest entry ih =>
    rw [List.foldl_append, ih, lastAssigned_concat]
    rfl

end Last

section Related

variable {α β : Type} {R : α → β → Prop}

/-- Two assignments to the same column, of values that are related. -/
def SameColumn (R : α → β → Prop) (left : String × α) (right : String × β) : Prop :=
  left.1 = right.1 ∧ R left.2 right.2

theorem rel_lookup {left : List (String × α)} {right : List (String × β)}
    (h : List.Forall₂ (SameColumn R) left right) (name : String) :
    Option.Rel R (left.lookup name) (right.lookup name) := by
  induction h with
  | nil => exact .none
  | @cons a b left right hentry _ ih =>
    obtain ⟨column, x⟩ := a
    obtain ⟨other, y⟩ := b
    obtain ⟨hname, hvalue⟩ := hentry
    simp only at hname hvalue
    rw [lookup_cons_eq, lookup_cons_eq, hname]
    split
    · exact .some hvalue
    · exact ih

theorem rel_lastAssigned {left : List (String × α)} {right : List (String × β)}
    (h : List.Forall₂ (SameColumn R) left right) :
    List.Forall₂ (SameColumn R) (lastAssigned left) (lastAssigned right) := by
  induction h with
  | nil => exact .nil
  | @cons a b left right hentry _ ih =>
    obtain ⟨column, x⟩ := a
    obtain ⟨other, y⟩ := b
    obtain ⟨hname, hvalue⟩ := hentry
    simp only at hname hvalue
    subst hname
    rw [lastAssigned, lastAssigned]
    refine .cons ⟨rfl, ?_⟩ ?_
    · have hlater := rel_lookup ih column
      simp only
      generalize (lastAssigned left).lookup column = last at hlater
      generalize (lastAssigned right).lookup column = other at hlater
      cases hlater with
      | none => exact hvalue
      | some hlast => exact hlast
    · have hsame ⦃a : String × α⦄ ⦃b : String × β⦄ (hentry : SameColumn R a b) :
          decide (a.1 ≠ column) = true ↔ decide (b.1 ≠ column) = true := by
        rw [hentry.1]
      exact List.rel_filter hsame ih

end Related

/-- The assignments of a description are made one after the other, as the values that they are
described with, if all of these convert. -/
theorem assignAll_eq_ok_iff {assignments : List (String × Json)}
    {assigned result : List (String × Value)} :
    assignAll assignments assigned = .ok result ↔
      ∃ values, List.Forall₂ (SameColumn fun json value => Value.ofJson json = .ok value)
          assignments values ∧
        result = values.foldl (fun assigned entry => assign entry.1 entry.2 assigned) assigned := by
  induction assignments generalizing assigned with
  | nil =>
    constructor
    · intro h
      cases h
      exact ⟨[], .nil, rfl⟩
    · rintro ⟨_, hvalues, rfl⟩
      cases hvalues
      rfl
  | cons assignment rest ih =>
    obtain ⟨column, json⟩ := assignment
    rw [assignAll, bind_eq_ok]
    constructor
    · rintro ⟨value, hvalue, hrest⟩
      obtain ⟨values, hvalues, hresult⟩ := ih.mp hrest
      exact ⟨(column, value) :: values, .cons ⟨rfl, hvalue⟩ hvalues, hresult⟩
    · rintro ⟨_, hvalues, hresult⟩
      cases hvalues with
      | @cons _ entry _ values hentry hvalues =>
        obtain ⟨name, value⟩ := entry
        obtain ⟨rfl, hvalue⟩ := hentry
        exact ⟨value, hvalue, ih.mpr ⟨values, hvalues, hresult⟩⟩

end QueryTree
