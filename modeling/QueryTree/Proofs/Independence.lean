import QueryTree.Proofs.Node

/-!
What does not depend on the dialect and on the arguments that were bound before. Whether a tree is
refused, and why, depends on neither; and if it compiles, its own arguments and the structure of its
text depend on neither. So a query that was tried in one dialect has been tried in the other one.
-/

namespace QueryTree

/-- The outcomes of two runs, each in its own dialect and behind its own arguments, that differ in
nothing else: both are refused for the same reason, or both write the same draft. -/
inductive SameOutcome (first second : Dialect) (seed other : Array Value) :
    Except QueryError Compiled → Except QueryError Compiled → Prop where
  | refused (error : QueryError) : SameOutcome first second seed other (.error error) (.error error)
  | written (draft : Draft) :
    SameOutcome first second seed other (.ok (draft.write first seed))
      (.ok (draft.write second other))

theorem SameOutcome.of_accept {first second : Dialect} {seed other : Array Value}
    {accepted alsoAccepted : Except QueryError Unit} (h : accepted = alsoAccepted) (draft : Draft) :
    SameOutcome first second seed other (accepted.map fun _ => draft.write first seed)
      (alsoAccepted.map fun _ => draft.write second other) := by
  subst h
  cases accepted with
  | error error => exact .refused error
  | ok _ => exact .written draft

/-- The contexts lie equally deep and have the same limits. -/
def Context.SameButDialect (first second : Context) : Prop :=
  first.depth = second.depth ∧ first.limits = second.limits

theorem parallel_sameButDialect : Parallel (fun _ => False) Context.SameButDialect where
  maxTake := fun ⟨_, hlimits⟩ => by rw [hlimits]
  descend := by
    rintro ⟨first, depth, limits⟩ ⟨second, _, _⟩ ⟨rfl, rfl⟩
    right
    by_cases hlimit : depth.toNat < limits.maxDepth.toNat
    · exact .inr ⟨_, _, Context.descend_of_lt hlimit, Context.descend_of_lt hlimit, rfl, rfl⟩
    · have hdeep : limits.maxDepth.toNat ≤ depth.toNat := Nat.le_of_not_lt hlimit
      by_cases hword : depth.toNat + 1 < 2 ^ 64
      · exact .inl ⟨_, Context.descend_of_le hdeep hword, Context.descend_of_le hdeep hword⟩
      · have hgreatest : 2 ^ 64 ≤ depth.toNat + 1 := Nat.le_of_not_lt hword
        exact .inl
          ⟨_, Context.descend_of_greatest hgreatest, Context.descend_of_greatest hgreatest⟩

theorem AgreeUnless.eq {α : Type} {first second : Except QueryError α}
    (h : AgreeUnless (fun _ => False) first second) : first = second := by
  rcases h with heq | ⟨_, hfalse, _⟩
  · exact heq
  · exact hfalse.elim

section Dialects

variable (first second : Dialect) (depth : UInt64) (limits : Limits)

theorem sameButDialect :
    Context.SameButDialect ⟨first, depth, limits⟩ ⟨second, depth, limits⟩ :=
  ⟨rfl, rfl⟩

theorem Node.accept_dialect (node : Node) :
    node.accept ⟨first, depth, limits⟩ = node.accept ⟨second, depth, limits⟩ :=
  (node.accept_agree parallel_sameButDialect (sameButDialect first second depth limits)).eq

theorem acceptWhere_dialect (filter : Option Filter) :
    acceptWhere ⟨first, depth, limits⟩ filter = acceptWhere ⟨second, depth, limits⟩ filter :=
  (acceptWhere_agree parallel_sameButDialect (sameButDialect first second depth limits) filter).eq

theorem Statement.accept_dialect (statement : Statement) :
    statement.accept ⟨first, depth, limits⟩ = statement.accept ⟨second, depth, limits⟩ := by
  cases statement with
  | select query => exact (Node.select query).accept_dialect first second depth limits
  | insert query => rfl
  | update query => rw [accept, accept, Update.accept, Update.accept, acceptWhere_dialect]
  | delete query => rw [accept, accept, Delete.accept, Delete.accept, acceptWhere_dialect]

end Dialects

/-- Neither the dialect nor the arguments bound before decide whether or why a node is refused, what
it binds, or how its text is composed; and the dialect decides none of it for a statement. -/
theorem compile_independent_of_dialect (first second : Dialect) (depth : UInt64) (limits : Limits) :
    (∀ (node : Node) (seed other : Array Value),
      SameOutcome first second seed other (node.compile ⟨first, depth, limits⟩ seed)
        (node.compile ⟨second, depth, limits⟩ other)) ∧
    (∀ statement : Statement,
      SameOutcome first second #[] #[] (statement.compile ⟨first, depth, limits⟩)
        (statement.compile ⟨second, depth, limits⟩)) := by
  constructor
  · intro node seed other
    rw [node.compile_eq, node.compile_eq]
    exact .of_accept (node.accept_dialect first second depth limits) node.draft
  · intro statement
    rw [statement.compile_eq, statement.compile_eq]
    exact .of_accept (statement.accept_dialect first second depth limits)
      (.ofPieces statement.pieces)

end QueryTree
