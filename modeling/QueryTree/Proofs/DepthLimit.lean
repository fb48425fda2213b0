import QueryTree.Proofs.AcceptedTrees
import QueryTree.Proofs.Node

/-!
The limit on the depth of a tree. It refuses the trees that are nested deeper and does not show
otherwise: a run that it does not stop is the same under every higher limit, and a tree that
compiles under some limit compiles under exactly the limits that its height does not exceed.

The first part compares two runs step by step, for the tree may be refused for any other reason at
any place. The second part needs no such comparison: a tree that compiles is well-formed, and of a
well-formed tree it is known what it needs.
-/

namespace QueryTree

/-- What the limit does to a run that may be given any limit. -/
structure ExactLimit (height : Nat) (run : UInt64 → Except QueryError Compiled) : Prop where
  /-- A run that is not stopped by its limit is the same under every higher one. -/
  unnoticed : ∀ {limit higher : UInt64}, limit ≤ higher →
    run limit ≠ .error (.tooDeep limit) → run higher = run limit
  /-- A run that succeeds under some limit does so under those that reach the height, and is stopped
  by all others. -/
  reached : ∀ {enough : UInt64} {compiled : Compiled}, run enough = .ok compiled →
    ∀ limit : UInt64, run limit =
      if height ≤ limit.toNat then .ok compiled else .error (.tooDeep limit)

/-- The contexts lie equally deep and allow the same number of rows. The first one has the given
limit and the second one no lower one. -/
structure Context.LimitRaised (limit : UInt64) (first second : Context) : Prop where
  depth : first.depth = second.depth
  maxTake : first.limits.maxTake = second.limits.maxTake
  maxDepth : first.limits.maxDepth = limit
  higher : limit ≤ second.limits.maxDepth

theorem parallel_limitRaised (limit : UInt64) :
    Parallel (fun error => error = .tooDeep limit) (Context.LimitRaised limit) where
  maxTake := fun h => h.maxTake
  descend := by
    intro first second h
    obtain ⟨hdepth, hmaxTake, rfl, hhigher⟩ := h
    have hle := UInt64.le_iff_toNat_le.mp hhigher
    by_cases hlimit : first.depth.toNat < first.limits.maxDepth.toNat
    · have hother : second.depth.toNat < second.limits.maxDepth.toNat := by
        rw [← hdepth]
        omega
      exact .inr (.inr ⟨_, _, Context.descend_of_lt hlimit, Context.descend_of_lt hother,
        congrArg (· + 1) hdepth, hmaxTake, rfl, hhigher⟩)
    · by_cases hword : first.depth.toNat + 1 < 2 ^ 64
      · exact .inl ⟨_, rfl, Context.descend_of_le (Nat.le_of_not_lt hlimit) hword⟩
      -- Behind the greatest word no limit is looked at.
      · have hgreatest : 2 ^ 64 ≤ first.depth.toNat + 1 := Nat.le_of_not_lt hword
        exact .inr (.inl ⟨_, Context.descend_of_greatest hgreatest,
          Context.descend_of_greatest (hdepth ▸ hgreatest)⟩)

namespace Node

/-- The levels of the node below its root. -/
def height : Node → Nat
  | .field part => part.height
  | .table part => part.height
  | .operand part => part.height
  | .filter part | .nested part => part.height
  | .select query => query.height

def WellFormed (maxTake : Option UInt64) : Node → Prop
  | .field part => part.WellFormed maxTake
  | .table part => part.WellFormed maxTake
  | .operand part => part.WellFormed maxTake
  | .filter part | .nested part => part.WellFormed maxTake
  | .select query => query.WellFormed maxTake

theorem accept_iff (context : Context) (h : context.HasRoom 0) (node : Node) :
    node.accept context = .ok () ↔
      node.WellFormed context.limits.maxTake ∧ context.HasRoom node.height := by
  cases node with
  | field part => exact part.accept_iff context h
  | table part => exact part.accept_iff context h
  | operand part => exact part.accept_iff context h
  | filter part => exact part.accept_iff context h
  | nested part => exact part.accept_iff context h
  | select query => exact query.accept_iff context h

section Limits

variable (dialect : Dialect) (maxTake : Option UInt64) (node : Node)

theorem accept_limit_raised {limit higher : UInt64} (h : limit ≤ higher) :
    AgreeUnless (fun error => error = .tooDeep limit)
      (node.accept ⟨dialect, 0, ⟨limit, maxTake⟩⟩)
      (node.accept ⟨dialect, 0, ⟨higher, maxTake⟩⟩) := by
  have hraised : Context.LimitRaised limit ⟨dialect, 0, ⟨limit, maxTake⟩⟩
      ⟨dialect, 0, ⟨higher, maxTake⟩⟩ := ⟨rfl, rfl, rfl, h⟩
  exact node.accept_agree (parallel_limitRaised limit) hraised

theorem accept_root_iff (limit : UInt64) :
    node.accept ⟨dialect, 0, ⟨limit, maxTake⟩⟩ = .ok () ↔
      node.WellFormed maxTake ∧ node.height ≤ limit.toNat := by
  have hroom := (Context.hasRoom_root dialect ⟨limit, maxTake⟩ 0).mpr (Nat.zero_le _)
  have haccept := accept_iff _ hroom node
  rwa [Context.hasRoom_root] at haccept

/-- A node that is accepted under some limit is accepted under those that reach its height, and
stopped by all others. -/
theorem accept_of_enough {enough : UInt64}
    (h : node.accept ⟨dialect, 0, ⟨enough, maxTake⟩⟩ = .ok ()) (limit : UInt64) :
    node.accept ⟨dialect, 0, ⟨limit, maxTake⟩⟩ =
      if node.height ≤ limit.toNat then .ok () else .error (.tooDeep limit) := by
  obtain ⟨hwellFormed, henough⟩ := (node.accept_root_iff dialect maxTake enough).mp h
  split
  next hreached => exact (node.accept_root_iff dialect maxTake limit).mpr ⟨hwellFormed, hreached⟩
  -- Below the height the node is refused, and by the limit, for a higher one refuses nothing.
  next hlow =>
    have hle : limit ≤ enough := by
      rw [UInt64.le_iff_toNat_le]
      omega
    rcases node.accept_limit_raised dialect maxTake hle with heq | ⟨error, herror, hstopped⟩
    · rw [h, node.accept_root_iff dialect maxTake] at heq
      exact absurd heq.2 hlow
    · rw [hstopped, herror]

/-- The limit on the depth is exact, and does not show otherwise. -/
theorem compile_exact_limit (seed : Array Value) :
    ExactLimit node.height fun limit => node.compile ⟨dialect, 0, ⟨limit, maxTake⟩⟩ seed where
  unnoticed := by
    intro limit higher hle hgoes
    rw [compile_eq] at hgoes
    rw [compile_eq, compile_eq]
    rcases node.accept_limit_raised dialect maxTake hle with heq | ⟨error, herror, hstopped⟩
    · rw [heq]
    · rw [hstopped, herror] at hgoes
      exact absurd rfl hgoes
  reached := by
    intro enough compiled hcompiled limit
    rw [compile_eq, map_eq_ok] at hcompiled
    obtain ⟨_, haccept, rfl⟩ := hcompiled
    rw [compile_eq, node.accept_of_enough dialect maxTake haccept limit]
    split
    · rfl
    · rfl

end Limits

/-- Two levels are too few for three, and more than three change nothing. -/
theorem reachableBuyers_exact_limit :
    ∃ compiled,
      (select reachableBuyers).compile ⟨.postgres, 0, ⟨3, none⟩⟩ #[.null] = .ok compiled ∧
      (select reachableBuyers).compile ⟨.postgres, 0, ⟨2, none⟩⟩ #[.null] = .error (.tooDeep 2) ∧
      (select reachableBuyers).compile ⟨.postgres, 0, ⟨64, none⟩⟩ #[.null] = .ok compiled := by
  have hexact := (select reachableBuyers).compile_exact_limit .postgres none #[.null]
  have hcompiled : (select reachableBuyers).compile ⟨.postgres, 0, ⟨3, none⟩⟩ #[.null] =
      .ok (.ofPieces .postgres #[.null] reachableBuyers.pieces) := by
    rw [compile_eq]
    rfl
  have hthree : (3 : UInt64) ≤ 64 := by decide
  have hgoes : (select reachableBuyers).compile ⟨.postgres, 0, ⟨3, none⟩⟩ #[.null] ≠
      .error (.tooDeep 3) := by
    rw [hcompiled]
    nofun
  exact ⟨_, hcompiled, (hexact.reached hcompiled 2).trans (if_neg (by decide)),
    (hexact.unnoticed hthree hgoes).trans hcompiled⟩

end Node

end QueryTree
