import QueryTree.Proofs.DepthLimit

/-!
Descending level by level. Each descent is compared with the limit before there is a context for the
next one, so no run of descents goes past the limit, however the levels and the limit lie in a word.
The checks of a tree see of the level and the limit only how much room there is between them. So
what is known of the trees that are accepted at the root holds below every other context as well.
-/

namespace QueryTree

namespace Context

/-- Descends some levels, each time from the context that was reached last. -/
def descendTimes : Nat → Context → Except QueryError Context
  | 0, context => .ok context
  | n + 1, context => do
    let inner ← context.descend
    inner.descendTimes n

/-- Where a number of descents from a context ends. -/
structure DescendsTo (context : Context) (n : Nat) (last : Context) : Prop where
  dialect : last.dialect = context.dialect
  limits : last.limits = context.limits
  depth : last.depth.toNat = context.depth.toNat + n
  /-- Without a descent nothing is compared with the limit. -/
  bounded : n = 0 ∨ context.depth.toNat + n ≤ context.limits.maxDepth.toNat

section Steps

variable {context inner last : Context} {n : Nat}

theorem descendsTo_zero_iff : context.DescendsTo 0 last ↔ last = context := by
  constructor
  · rintro ⟨hdialect, hlimits, hdepth, -⟩
    have hsame : last.depth = context.depth := UInt64.toNat_inj.mp hdepth
    cases last
    cases context
    simp only at hdialect hlimits hsame
    rw [hdialect, hlimits, hsame]
  · rintro rfl
    exact ⟨rfl, rfl, rfl, .inl rfl⟩

/-- One descent more, made before the others. -/
theorem descendsTo_succ_iff :
    context.DescendsTo (n + 1) last ↔
      ∃ inner, context.descend = .ok inner ∧ inner.DescendsTo n last := by
  constructor
  · rintro ⟨hdialect, hlimits, hdepth, hbounded⟩
    have hlimit : context.depth.toNat < context.limits.maxDepth.toNat := by omega
    have hnext := toNat_next_depth hlimit
    refine ⟨_, descend_of_lt hlimit, hdialect, hlimits, ?_, ?_⟩
    · simp only [hnext]
      omega
    · simp only [hnext]
      omega
  · rintro ⟨inner, hinner, hdialect, hlimits, hdepth, hbounded⟩
    obtain ⟨rfl, hlimit⟩ := descend_eq_ok_iff.mp hinner
    have hnext := toNat_next_depth hlimit
    simp only [hnext] at hdepth hbounded
    refine ⟨hdialect, hlimits, ?_, ?_⟩
    · omega
    · omega

theorem descendTimes_eq_ok_iff : context.descendTimes n = .ok last ↔ context.DescendsTo n last := by
  induction n generalizing context with
  | zero =>
    rw [descendsTo_zero_iff, descendTimes, Except.ok.injEq]
    exact eq_comm
  | succ n ih =>
    rw [descendsTo_succ_iff, descendTimes, bind_eq_ok]
    simp only [ih]

end Steps

section Room

/-- The contexts allow the same number of rows, and their limits leave as many levels below them. -/
structure SameRoom (first second : Context) : Prop where
  maxTake : first.limits.maxTake = second.limits.maxTake
  room : first.limits.maxDepth.toNat - first.depth.toNat =
    second.limits.maxDepth.toNat - second.depth.toNat

/-- Both contexts descend, and so they lie one level further down with one level less below them; or
else the first one is refused. -/
theorem parallel_sameRoom : Parallel (fun _ => True) SameRoom where
  maxTake := fun h => h.maxTake
  descend := by
    intro first second h
    have hroom := h.room
    by_cases hfirst : first.depth.toNat < first.limits.maxDepth.toNat
    · have hsecond : second.depth.toNat < second.limits.maxDepth.toNat := by omega
      refine .inr (.inr ⟨_, _, descend_of_lt hfirst, descend_of_lt hsecond, h.maxTake, ?_⟩)
      simp only [toNat_next_depth hfirst, toNat_next_depth hsecond]
      omega
    · obtain ⟨error, herror⟩ := exists_error_of_le (Nat.le_of_not_lt hfirst)
      exact .inl ⟨error, trivial, herror⟩

/-- A tree that compiles has no more levels below its root than its context has. -/
theorem height_le_of_compile {context : Context} {node : Node} {args : Array Value}
    {compiled : Compiled} (h : node.compile context args = .ok compiled) :
    node.height ≤ context.limits.maxDepth.toNat - context.depth.toNat := by
  rw [node.compile_eq, map_eq_ok] at h
  obtain ⟨_, haccept, -⟩ := h
  -- The root with just as much room accepts it too.
  have hword := context.limits.maxDepth.toNat_lt
  have hlimit : (UInt64.ofNat (context.limits.maxDepth.toNat - context.depth.toNat)).toNat =
      context.limits.maxDepth.toNat - context.depth.toNat :=
    UInt64.toNat_ofNat_of_lt' (Nat.lt_of_le_of_lt (Nat.sub_le _ _) hword)
  have hsame : context.SameRoom ⟨context.dialect, 0,
      ⟨.ofNat (context.limits.maxDepth.toNat - context.depth.toNat), context.limits.maxTake⟩⟩ :=
    ⟨rfl, by simp only [hlimit, UInt64.toNat_zero, Nat.sub_zero]⟩
  rcases node.accept_agree parallel_sameRoom hsame with heq | ⟨error, -, herror⟩
  · rw [haccept] at heq
    have hheight := ((node.accept_root_iff _ _ _).mp heq.symm).2
    rwa [hlimit] at hheight
  · rw [haccept] at herror
    cases herror

end Room

/-- The limit guards the levels below the context. -/
structure Guarded (context : Context) : Prop where
  descents : ∀ n last, context.descendTimes n = .ok last ↔ context.DescendsTo n last
  /-- At the limit and beyond it, no descent succeeds. -/
  stopped : context.limits.maxDepth ≤ context.depth → ∀ inner, context.descend ≠ .ok inner
  /-- It is the limit that refuses the descent, where there is a next level to refuse. -/
  refused : context.limits.maxDepth ≤ context.depth → context.depth.toNat + 1 < 2 ^ 64 →
    context.descend = .error (.tooDeep context.limits.maxDepth)
  /-- What compiles keeps to the limit. -/
  within : ∀ (node : Node) args compiled, node.compile context args = .ok compiled →
    node.height = 0 ∨ context.depth.toNat + node.height ≤ context.limits.maxDepth.toNat
  /-- At the limit and beyond it, what compiles has no level below it. -/
  flat : context.limits.maxDepth ≤ context.depth →
    ∀ (node : Node) args compiled, node.compile context args = .ok compiled → node.height = 0

/-- No number of descents outruns the limit, from no context, and nothing that compiles does. -/
theorem depth_guarded (context : Context) : context.Guarded where
  descents := fun _ _ => descendTimes_eq_ok_iff
  stopped := by
    intro hlimit inner hinner
    have hlt := (descend_eq_ok_iff.mp hinner).2
    rw [UInt64.le_iff_toNat_le] at hlimit
    omega
  refused := by
    intro hlimit hword
    rw [UInt64.le_iff_toNat_le] at hlimit
    exact descend_of_le hlimit hword
  within := by
    intro node args compiled hcompiled
    have hheight := height_le_of_compile hcompiled
    omega
  flat := by
    intro hlimit node args compiled hcompiled
    have hheight := height_le_of_compile hcompiled
    rw [UInt64.le_iff_toNat_le] at hlimit
    omega

/-- The users without a name, as a logic with one child. -/
def namelessUsers : Filter :=
  .all [.isNull (.ofColumn "name")]

/-- Two levels are allowed, and at the second one the filter has no room for its child. -/
theorem namelessUsers_guarded :
    ∃ last, (⟨.mysql, 0, ⟨2, none⟩⟩ : Context).descendTimes 2 = .ok last ∧ last.depth.toNat = 2 ∧
      last.descend = .error (.tooDeep 2) ∧
      ∀ args compiled, (Node.filter namelessUsers).compile last args ≠ .ok compiled := by
  have hroot := depth_guarded ⟨.mysql, 0, ⟨2, none⟩⟩
  have htwice : (⟨.mysql, 0, ⟨2, none⟩⟩ : Context).DescendsTo 2 ⟨.mysql, 2, ⟨2, none⟩⟩ :=
    ⟨rfl, rfl, rfl, .inr (by decide)⟩
  have hlast := depth_guarded ⟨.mysql, 2, ⟨2, none⟩⟩
  refine ⟨_, (hroot.descents 2 _).mpr htwice, rfl, hlast.refused (by decide) (by decide), ?_⟩
  intro args compiled hcompiled
  have hflat := hlast.flat (by decide) _ args compiled hcompiled
  cases hflat

/-- A context may lie past its limit, and nothing is compared as long as nothing descends. -/
theorem pastLimit_not_bounded :
    (⟨.mysql, 5, ⟨3, none⟩⟩ : Context).descendTimes 0 = .ok ⟨.mysql, 5, ⟨3, none⟩⟩ ∧
      ¬ ∀ (context : Context) (n : Nat) (last : Context), context.descendTimes n = .ok last →
        context.depth.toNat + n ≤ context.limits.maxDepth.toNat := by
  refine ⟨rfl, fun hbounded => ?_⟩
  have hpast := hbounded ⟨.mysql, 5, ⟨3, none⟩⟩ 0 _ rfl
  exact absurd hpast (by decide)

end Context

end QueryTree
