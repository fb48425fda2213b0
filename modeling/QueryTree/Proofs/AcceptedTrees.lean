import QueryTree.Proofs.Compilation
import QueryTree.Proofs.Nesting
import QueryTree.Proofs.WellFormed
import QueryTree.Tree.Build

/-!
Which trees compile. The compiler checks some of a tree before it writes anything and the rest while
it writes, each node where it comes to it. Together these checks ask for a well-formed tree that is
not nested deeper than allowed, and for nothing else: no part of a sub-query slips through, and no
well-formed tree is refused.
-/

namespace QueryTree

section Below

variable {context : Context}

/-- A sub-query is accepted exactly if it is well-formed and there is room for it, one level further
down than where it stands. -/
theorem Select.accept_below_iff {query : Select}
    (hquery : ∀ inner : Context, inner.HasRoom 0 →
      (query.accept inner = .ok () ↔
        query.WellFormed inner.limits.maxTake ∧ inner.HasRoom query.height)) :
    (context.descend >>= fun inner => query.accept inner) = .ok () ↔
      query.WellFormed context.limits.maxTake ∧ context.HasRoom (1 + query.height) := by
  refine Context.below_iff fun inner hlimits hroom => ?_
  rw [← hlimits]
  exact hquery inner hroom

theorem acceptAll_below_iff {filters : List (Option Filter)}
    (hchildren : ∀ inner : Context, inner.HasRoom 0 →
      (acceptAll inner filters = .ok () ↔
        childrenWellFormed inner.limits.maxTake filters ∧
          inner.HasRoom (childrenHeight filters))) :
    (context.descend >>= fun inner => acceptAll inner filters) = .ok () ↔
      childrenWellFormed context.limits.maxTake filters ∧
        context.HasRoom (1 + childrenHeight filters) := by
  refine Context.below_iff fun inner hlimits hroom => ?_
  rw [← hlimits]
  exact hchildren inner hroom

end Below

mutual

theorem Field.accept_iff (context : Context) (h : context.HasRoom 0) : ∀ (field : Field),
    field.accept context = .ok () ↔
      field.WellFormed context.limits.maxTake ∧ context.HasRoom field.height
  | .column table name aliasName => by
    rw [Field.height, Field.accept, Field.validate, ensure_eq_ok, Field.WellFormed]
    simp [h]
  | .subquery query aliasName => by
    rw [Field.height, Field.accept, check_bind_eq_ok, Field.validate, ensure_eq_ok,
      isSome_shownAlias_iff,
      Select.accept_below_iff fun inner hinner => query.accept_iff inner hinner,
      Field.WellFormed, and_assoc]

theorem Table.accept_iff (context : Context) (h : context.HasRoom 0) : ∀ (table : Table),
    table.accept context = .ok () ↔
      table.WellFormed context.limits.maxTake ∧ context.HasRoom table.height
  | .named name aliasName => by
    rw [Table.height, Table.accept, Table.validate, ensure_eq_ok, Table.WellFormed]
    simp [h]
  | .subquery query aliasName => by
    rw [Table.height, Table.accept, check_bind_eq_ok, Table.validate, ensure_eq_ok,
      isSome_shownAlias_iff,
      Select.accept_below_iff fun inner hinner => query.accept_iff inner hinner,
      Table.WellFormed, and_assoc]

theorem Operand.accept_iff (context : Context) (h : context.HasRoom 0) : ∀ (operand : Operand),
    operand.accept context = .ok () ↔
      operand.WellFormed context.limits.maxTake ∧ context.HasRoom operand.height
  | .value literal => by
    rw [Operand.height, Operand.accept, Operand.WellFormed]
    simp [h]
  | .subquery query => by
    rw [Operand.height, Operand.accept,
      Select.accept_below_iff fun inner hinner => query.accept_iff inner hinner,
      Operand.WellFormed]

theorem left_accept_iff (context : Context) (h : context.HasRoom 0) : ∀ (field : Option Field),
    (∃ left, field = some left ∧ left.accept context = .ok ()) ↔
      leftWellFormed context.limits.maxTake field ∧ context.HasRoom (leftHeight field)
  | none => by simp [leftWellFormed]
  | some field => by
    rw [leftHeight, leftWellFormed, ← field.accept_iff context h]
    simp

theorem right_accept_iff (context : Context) (h : context.HasRoom 0) : ∀ (value : Option Operand),
    (∀ right, value = some right → right.accept context = .ok ()) ↔
      rightWellFormed context.limits.maxTake value ∧ context.HasRoom (rightHeight value)
  | none => by
    rw [rightHeight]
    simp [rightWellFormed, h]
  | some operand => by
    rw [rightHeight, rightWellFormed, ← operand.accept_iff context h]
    simp

theorem Filter.accept_iff (context : Context) (h : context.HasRoom 0) : ∀ (filter : Filter),
    filter.accept context = .ok () ↔
      filter.WellFormed context.limits.maxTake ∧ context.HasRoom filter.height
  | ⟨none, field, operator, value, filters⟩ => by
    rw [Filter.height, Filter.accept_condition_iff, Filter.WellFormed, Context.hasRoom_max,
      left_accept_iff context h field, right_accept_iff context h value]
    constructor
    · rintro ⟨hfilters, ⟨hleft, hleftRoom⟩, hoperator, hright, hrightRoom⟩
      exact ⟨⟨hfilters, hleft, hoperator, hright⟩, hleftRoom, hrightRoom⟩
    · rintro ⟨⟨hfilters, hleft, hoperator, hright⟩, hleftRoom, hrightRoom⟩
      exact ⟨hfilters, ⟨hleft, hleftRoom⟩, hoperator, hright, hrightRoom⟩
  | ⟨some logic, field, operator, value, filters⟩ => by
    rw [Filter.height, Filter.accept_logic_iff, Filter.WellFormed]
    by_cases hfilters : filters = []
    · simp [hfilters]
    · rw [if_neg (by simpa using hfilters),
        acceptAll_below_iff fun inner hinner => children_accept_iff inner hinner filters]
      simp only [and_assoc]

theorem children_accept_iff (context : Context) (h : context.HasRoom 0) :
    ∀ (filters : List (Option Filter)),
      acceptAll context filters = .ok () ↔
        childrenWellFormed context.limits.maxTake filters ∧
          context.HasRoom (childrenHeight filters)
  | [] => by
    rw [childrenHeight]
    simp [acceptAll, Filter.validateAll, acceptChildren, childrenWellFormed, h]
  | none :: rest => children_accept_iff context h rest
  | some child :: rest => by
    rw [childrenHeight, acceptAll_cons_iff, childrenWellFormed, Context.hasRoom_max,
      child.accept_iff context h, children_accept_iff context h rest, and_and_and_comm]

theorem fields_accept_iff (context : Context) (h : context.HasRoom 0) : ∀ (fields : List Field),
    acceptFields context fields = .ok () ↔
      fieldsWellFormed context.limits.maxTake fields ∧ context.HasRoom (fieldsHeight fields)
  | [] => by
    rw [fieldsHeight]
    simp [acceptFields, fieldsWellFormed, h]
  | field :: rest => by
    rw [fieldsHeight, acceptFields, check_bind_eq_ok, fieldsWellFormed, Context.hasRoom_max,
      field.accept_iff context h, fields_accept_iff context h rest, and_and_and_comm]

theorem source_accept_iff (context : Context) (h : context.HasRoom 0) : ∀ (table : Option Table),
    acceptTable context table = .ok () ↔
      sourceWellFormed context.limits.maxTake table ∧ context.HasRoom (sourceHeight table)
  | none => by simp [acceptTable, sourceWellFormed]
  | some table => table.accept_iff context h

theorem where_accept_iff (context : Context) (h : context.HasRoom 0) : ∀ (filter : Option Filter),
    acceptWhere context filter = .ok () ↔
      whereWellFormed context.limits.maxTake filter ∧ context.HasRoom (whereHeight filter)
  | none => by
    rw [whereHeight]
    simp [acceptWhere, whereWellFormed, h]
  | some filter => filter.accept_iff context h

theorem Select.accept_iff (context : Context) (h : context.HasRoom 0) : ∀ (query : Select),
    query.accept context = .ok () ↔
      query.WellFormed context.limits.maxTake ∧ context.HasRoom query.height
  | ⟨fields, table, filter, sorts, take, aliasName⟩ => by
    rw [Select.height, Select.accept_clauses_iff, Select.WellFormed, Context.hasRoom_max,
      Context.hasRoom_max, fields_accept_iff context h fields, source_accept_iff context h table,
      where_accept_iff context h filter]
    constructor
    · rintro ⟨⟨hfields, -, htake⟩, ⟨hf, hfRoom⟩, ⟨ht, htRoom⟩, ⟨hw, hwRoom⟩, hsorts⟩
      exact ⟨⟨⟨hfields, htake⟩, hf, ht, hw, hsorts⟩, hfRoom, htRoom, hwRoom⟩
    · rintro ⟨⟨⟨hfields, htake⟩, hf, ht, hw, hsorts⟩, hfRoom, htRoom, hwRoom⟩
      have htable : table.isSome = true := by
        cases table with
        | none => exact ht.elim
        | some table => rfl
      exact ⟨⟨hfields, htable, htake⟩, ⟨hf, hfRoom⟩, ⟨ht, htRoom⟩, ⟨hw, hwRoom⟩, hsorts⟩

end

/-- At the root the levels are counted from zero. -/
theorem Context.hasRoom_root (dialect : Dialect) (limits : Limits) (levels : Nat) :
    Context.HasRoom ⟨dialect, 0, limits⟩ levels ↔ levels ≤ limits.maxDepth.toNat := by
  simp [HasRoom]

/-- A select that is not nested deeper than allowed compiles exactly if it is well-formed. -/
theorem Select.compiles_iff_wellFormed (dialect : Dialect) (limits : Limits) (query : Select)
    (args : Array Value) (h : query.height ≤ limits.maxDepth.toNat) :
    (∃ compiled, query.compile ⟨dialect, 0, limits⟩ args = .ok compiled) ↔
      query.WellFormed limits.maxTake := by
  have hroom := (Context.hasRoom_root dialect limits 0).mpr (Nat.zero_le _)
  have haccept := Select.accept_iff _ hroom query
  rw [Context.hasRoom_root, and_iff_left h] at haccept
  rw [← haccept, query.compile_eq]
  constructor
  · rintro ⟨compiled, hcompiled⟩
    obtain ⟨_, hok, -⟩ := map_eq_ok.mp hcompiled
    exact hok
  · intro hok
    exact ⟨_, map_eq_ok.mpr ⟨(), hok, rfl⟩⟩

/-- The users with an order, from those who can be reached, with their latest order. -/
def reachableBuyers : Select :=
  let orders := (Select.ofFields [.ofColumn "buyer"]).fromTable (.ofName "orders")
  let reachable := ((Select.ofFields [.ofColumn "id"]).fromTable (.ofName "users")).filteredBy
    (.all [.isNull (.ofColumn "left"),
      .any [.condition (.ofColumn "mail") .like (.string "@"), .isNotNull (.ofColumn "phone")]])
  { fields := [.ofColumn "id", .subquery (orders.limitedTo 1) (some "latest")]
    table := some (.subquery reachable (some "users"))
    filter := some (.conditionOn (.ofColumn "id") .isIn (.subquery orders))
    sorts := [none, some ⟨"id", some .descending⟩]
    take := 10 }

/-- Three levels are allowed and needed, for the children of a logic in a logic in a sub-query. -/
theorem reachableBuyers_wellFormed :
    reachableBuyers.height = 3 ∧ reachableBuyers.WellFormed (some 10) := by
  have hheight : reachableBuyers.height ≤ (Limits.mk 3 (some 10)).maxDepth.toNat := by decide
  have hcompile : reachableBuyers.compile ⟨.postgres, 0, ⟨3, some 10⟩⟩ #[] =
      .ok (.ofPieces .postgres #[] reachableBuyers.pieces) := by
    rw [Select.compile_eq]
    rfl
  exact ⟨by decide,
    (reachableBuyers.compiles_iff_wellFormed .postgres ⟨3, some 10⟩ #[] hheight).mp
      ⟨_, hcompile⟩⟩

end QueryTree
