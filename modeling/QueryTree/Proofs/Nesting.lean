import QueryTree.Proofs.Levels
import QueryTree.Proofs.Outcome

/-!
How deep a tree is nested, and how deep a context lets it be. Each sub-query and the children of a
logic lie one level deeper than what they stand in, and their contexts are one level further down.
So the room that the limit leaves below a context has to reach as far as the tree is nested.
-/

namespace QueryTree

mutual

/-- The levels of a tree below its root. The places of a logic for its children are a level of their
own, even if all of them are empty. -/
def Field.height : Field → Nat
  | .column _ _ _ => 0
  | .subquery query _ => 1 + query.height

def Table.height : Table → Nat
  | .named _ _ => 0
  | .subquery query _ => 1 + query.height

def Operand.height : Operand → Nat
  | .value _ => 0
  | .subquery query => 1 + query.height

def Filter.height : Filter → Nat
  | ⟨none, field, _, value, _⟩ => max (leftHeight field) (rightHeight value)
  | ⟨some _, _, _, _, filters⟩ => if filters.isEmpty then 0 else 1 + childrenHeight filters

def leftHeight : Option Field → Nat
  | none => 0
  | some field => field.height

def rightHeight : Option Operand → Nat
  | none => 0
  | some operand => operand.height

def childrenHeight : List (Option Filter) → Nat
  | [] => 0
  | none :: rest => childrenHeight rest
  | some child :: rest => max child.height (childrenHeight rest)

def fieldsHeight : List Field → Nat
  | [] => 0
  | field :: rest => max field.height (fieldsHeight rest)

def sourceHeight : Option Table → Nat
  | none => 0
  | some table => table.height

def whereHeight : Option Filter → Nat
  | none => 0
  | some filter => filter.height

def Select.height : Select → Nat
  | ⟨fields, table, filter, _, _, _⟩ =>
    max (fieldsHeight fields) (max (sourceHeight table) (whereHeight filter))

end

namespace Context

/-- The limit leaves room for some levels below the context. -/
def HasRoom (context : Context) (levels : Nat) : Prop :=
  context.depth.toNat + levels ≤ context.limits.maxDepth.toNat

theorem hasRoom_max {context : Context} {left right : Nat} :
    context.HasRoom (max left right) ↔ context.HasRoom left ∧ context.HasRoom right := by
  unfold HasRoom
  omega

/-- Checks one level further down, where they ask for what is known of them and for room. -/
theorem below_iff {context : Context} {levels : Nat} {checks : Context → Except QueryError Unit}
    {wellFormed : Prop}
    (hchecks : ∀ inner : Context, inner.limits = context.limits → inner.HasRoom 0 →
      (checks inner = .ok () ↔ wellFormed ∧ inner.HasRoom levels)) :
    (context.descend >>= checks) = .ok () ↔ wellFormed ∧ context.HasRoom (1 + levels) := by
  unfold HasRoom at hchecks ⊢
  by_cases hlimit : context.depth.toNat < context.limits.maxDepth.toNat
  · have hdepth := toNat_next_depth hlimit
    have hbelow := hchecks { context with depth := context.depth + 1 } rfl
    simp only [hdepth, Nat.add_assoc] at hbelow
    rw [descend_of_lt hlimit, ok_bind, hbelow (by omega)]
  · obtain ⟨error, herror⟩ := exists_error_of_le (Nat.le_of_not_lt hlimit)
    have hnone : ¬ context.depth.toNat + (1 + levels) ≤ context.limits.maxDepth.toNat := by omega
    simp [herror, hnone]

end Context

end QueryTree
