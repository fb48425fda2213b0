import QueryTree.Proofs.Assignments
import QueryTree.Proofs.Compilation
import QueryTree.Tree.Build

/-!
The assignments of an update. They are made one after the other, and each of them either replaces
the value of a column where it stands or adds a column at the end. What is left of them is known
without the steps, as a recursion from the first assignment, and from the recursion follows what is
kept: of the assignments that are calls as well as of those of a description, and in what the update
writes and binds.
-/

namespace QueryTree

/-- The column is assigned the value and nothing after it. -/
def AssignedLast (calls : List (String × Value)) (column : String) (value : Value) : Prop :=
  ∃ before after, calls = before ++ (column, value) :: after ∧ column ∉ after.map Prod.fst

/-- The first of two columns is assigned before the second one is assigned at all. -/
def AssignedBefore (calls : List (String × Value)) (earlier later : String) : Prop :=
  earlier ∈ calls.map Prod.fst ∧ later ∈ calls.map Prod.fst ∧
    (calls.map Prod.fst).idxOf earlier < (calls.map Prod.fst).idxOf later

/-- What is left of assignments that were made one after the other: each column that was assigned
stands there once, in the order in which the columns were assigned first, and with the value that it
was assigned last. -/
structure KeepsLast (calls kept : List (String × Value)) : Prop where
  distinct : (kept.map Prod.fst).Nodup
  columns : ∀ column, column ∈ kept.map Prod.fst ↔ column ∈ calls.map Prod.fst
  ordered : (kept.map Prod.fst).Pairwise (AssignedBefore calls)
  last : ∀ column value, (column, value) ∈ kept → AssignedLast calls column value

section Order

variable {calls : List (String × Value)} {column earlier later : String} {value : Value}

/-- What is assigned last remains so if there is an assignment before all others. -/
theorem AssignedLast.cons (h : AssignedLast calls column value) (call : String × Value) :
    AssignedLast (call :: calls) column value := by
  obtain ⟨before, after, rfl, hafter⟩ := h
  exact ⟨call :: before, after, rfl, hafter⟩

/-- The first assignment of all is the last one to its column if the column is not assigned
again. -/
theorem AssignedLast.of_new (h : column ∉ calls.map Prod.fst) (value : Value) :
    AssignedLast ((column, value) :: calls) column value :=
  ⟨[], calls, rfl, h⟩

/-- The column of the first assignment comes before the others. -/
theorem AssignedBefore.head (hlater : later ∈ calls.map Prod.fst) (hne : later ≠ column)
    (value : Value) : AssignedBefore ((column, value) :: calls) column later := by
  refine ⟨List.mem_cons_self, List.mem_cons_of_mem _ hlater, ?_⟩
  rw [List.map_cons, List.idxOf_cons_self, List.idxOf_cons_ne _ hne.symm]
  exact Nat.succ_pos _

/-- The first assignment leaves the other columns in the order in which they come behind it. -/
theorem AssignedBefore.cons (h : AssignedBefore calls earlier later) (hearlier : earlier ≠ column)
    (hlater : later ≠ column) (value : Value) :
    AssignedBefore ((column, value) :: calls) earlier later := by
  obtain ⟨hfirst, hsecond, hlt⟩ := h
  refine ⟨List.mem_cons_of_mem _ hfirst, List.mem_cons_of_mem _ hsecond, ?_⟩
  rw [List.map_cons, List.idxOf_cons_ne _ hearlier.symm, List.idxOf_cons_ne _ hlater.symm]
  exact Nat.succ_lt_succ hlt

theorem KeepsLast.nil : KeepsLast [] [] :=
  ⟨.nil, fun _ => .rfl, .nil, nofun⟩

/-- With one more assignment before all others, its column comes first. It has the value of that
assignment if it is not assigned again, and what it is assigned later otherwise. -/
theorem KeepsLast.cons {kept : List (String × Value)} (h : KeepsLast calls kept) (column : String)
    (value : Value) :
    KeepsLast ((column, value) :: calls)
      ((column, (kept.lookup column).getD value) :: kept.filter fun entry => entry.1 ≠ column) := by
  have hothers : (kept.filter fun entry => entry.1 ≠ column).map Prod.fst =
      (kept.map Prod.fst).filter (· ≠ column) := by
    rw [List.filter_map]
    rfl
  refine ⟨?_, ?_, ?_, ?_⟩
  · rw [List.map_cons, hothers, List.nodup_cons]
    exact ⟨by simp, h.distinct.filter _⟩
  · intro name
    rw [List.map_cons, hothers, List.map_cons, List.mem_cons, List.mem_cons, List.mem_filter,
      h.columns, decide_eq_true_iff]
    by_cases hname : name = column
    · simp [hname]
    · simp [hname]
  · rw [List.map_cons, hothers, List.pairwise_cons, List.pairwise_filter]
    constructor
    · intro later hlater
      obtain ⟨hmem, hne⟩ := List.mem_filter.mp hlater
      exact .head ((h.columns later).mp hmem) (of_decide_eq_true hne) value
    · apply h.ordered.imp
      intro earlier later hbefore hearlier hlater
      exact hbefore.cons (of_decide_eq_true hearlier) (of_decide_eq_true hlater) value
  · intro name other hmem
    rcases List.mem_cons.mp hmem with heq | hother
    · cases heq
      cases hlast : kept.lookup column with
      | none =>
        have hnew : column ∉ calls.map Prod.fst := fun hcolumn =>
          lookup_eq_none_iff_notMem.mp hlast ((h.columns column).mpr hcolumn)
        exact .of_new hnew value
      | some last => exact (h.last column last (mem_of_lookup hlast)).cons _
    · exact (h.last name other (List.mem_filter.mp hother).1).cons _

end Order

namespace Update

end Update

end QueryTree
