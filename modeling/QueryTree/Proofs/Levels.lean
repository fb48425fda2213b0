import Mathlib.Algebra.Group.Nat.Defs
import QueryTree.Context

/-!
The level of a context, and what a descent does to it. Both the level and the limit are words. A
level that is less than the limit has a next one, and a context descends exactly if its level is of
this kind. All others are refused: by the limit, or at the greatest word by the addition, which
comes first. Nothing else looks into a descent.
-/

namespace QueryTree

/-- One level further down is one more, as long as it is a word. -/
theorem toNat_next {level : UInt64} (h : level.toNat + 1 < 2 ^ 64) :
    (level + 1).toNat = level.toNat + 1 := by
  rw [UInt64.toNat_add]
  exact Nat.mod_eq_of_lt h

/-- The sum is zero exactly if the next level is no word. -/
theorem next_eq_zero_iff {level : UInt64} : level + 1 = 0 ↔ level.toNat + 1 = 2 ^ 64 := by
  have hword := level.toNat_lt
  rw [← UInt64.toNat_inj, UInt64.toNat_add, UInt64.toNat_one, UInt64.toNat_zero]
  omega

namespace Context

section Descend

variable {context inner : Context}

/-- A level that is less than the limit has a next one, for the limit is a word. -/
theorem toNat_next_depth (h : context.depth.toNat < context.limits.maxDepth.toNat) :
    (context.depth + 1).toNat = context.depth.toNat + 1 := by
  have hword := context.limits.maxDepth.toNat_lt
  exact toNat_next (by omega)

theorem descend_of_lt (h : context.depth.toNat < context.limits.maxDepth.toNat) :
    context.descend = .ok { context with depth := context.depth + 1 } := by
  have hword := context.limits.maxDepth.toNat_lt
  have hnext : ¬ context.depth + 1 = 0 := by
    rw [next_eq_zero_iff]
    omega
  have hgoes : ¬ context.limits.maxDepth < context.depth + 1 := by
    rw [UInt64.lt_iff_toNat_lt, toNat_next_depth h]
    omega
  unfold descend
  rw [if_neg hnext, if_neg hgoes]

theorem descend_of_le (h : context.limits.maxDepth.toNat ≤ context.depth.toNat)
    (hword : context.depth.toNat + 1 < 2 ^ 64) :
    context.descend = .error (.tooDeep context.limits.maxDepth) := by
  have hnext : ¬ context.depth + 1 = 0 := by
    rw [next_eq_zero_iff]
    omega
  have hdeep : context.limits.maxDepth < context.depth + 1 := by
    rw [UInt64.lt_iff_toNat_lt, toNat_next hword]
    omega
  unfold descend
  rw [if_neg hnext, if_pos hdeep]

theorem descend_of_greatest (hword : 2 ^ 64 ≤ context.depth.toNat + 1) :
    context.descend = .error .levelOverflow := by
  have hbound := context.depth.toNat_lt
  have hnext : context.depth + 1 = 0 := by
    rw [next_eq_zero_iff]
    omega
  unfold descend
  rw [if_pos hnext]

/-- At the limit and beyond it no descent succeeds, whether the limit refuses it or the program
stops before it is compared. -/
theorem exists_error_of_le (h : context.limits.maxDepth.toNat ≤ context.depth.toNat) :
    ∃ error, context.descend = .error error := by
  by_cases hword : context.depth.toNat + 1 < 2 ^ 64
  · exact ⟨_, descend_of_le h hword⟩
  · exact ⟨_, descend_of_greatest (Nat.le_of_not_lt hword)⟩

/-- A descent changes the level and nothing else, and succeeds exactly if the level is less than the
limit. -/
theorem descend_eq_ok_iff :
    context.descend = .ok inner ↔ inner = { context with depth := context.depth + 1 } ∧
      context.depth.toNat < context.limits.maxDepth.toNat := by
  by_cases hlimit : context.depth.toNat < context.limits.maxDepth.toNat
  · simp [descend_of_lt hlimit, hlimit, eq_comm]
  · obtain ⟨error, herror⟩ := exists_error_of_le (Nat.le_of_not_lt hlimit)
    simp [herror, hlimit]

/-- The context of a part has the dialect of the whole. -/
theorem dialect_of_descend (h : context.descend = .ok inner) : inner.dialect = context.dialect := by
  rw [(descend_eq_ok_iff.mp h).1]

end Descend

end Context

end QueryTree
