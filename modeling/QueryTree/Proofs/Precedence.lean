import Mathlib.Data.List.Forall2
import QueryTree.Tree

/-!
How SQL reads a condition. A condition is a row of tokens: conditions on single fields, keywords and
parentheses. The keyword `and` binds tighter than `or`, and what stands in parentheses is read by
itself. A row of tokens has at most one reading as a whole.
-/

namespace QueryTree

inductive Token where
  /-- An occurrence of a condition on a field, under its number. -/
  | leaf (index : Nat) (condition : Filter)
  | keyword (logic : Logic)
  | opening
  | closing

/-- What several truth values amount to under a logic. -/
def Logic.combine (logic : Logic) (values : List Bool) : Bool :=
  match logic with
  | .and => values.all id
  | .or => values.any id

/-- A condition that has been read. -/
inductive Formula where
  | leaf (index : Nat)
  | binary (logic : Logic) (left right : Formula)

namespace Formula

/-- The truth of a formula, where `σ` says which of the leaves hold. -/
def eval (σ : Nat → Bool) : Formula → Bool
  | .leaf index => σ index
  | .binary logic left right => logic.combine [left.eval σ, right.eval σ]

/-- Formulas joined by one keyword. -/
def chain (logic : Logic) : (first : Formula) → List Formula → Formula
  | first, [] => first
  | first, next :: rest => .binary logic first (chain logic next rest)

theorem eval_chain (σ : Nat → Bool) (logic : Logic) (first : Formula) (rest : List Formula) :
    (chain logic first rest).eval σ = logic.combine ((first :: rest).map (eval σ)) := by
  induction rest generalizing first with
  | nil => cases logic <;> simp [chain, Logic.combine]
  | cons next rest ih => cases logic <;> simp [chain, eval, ih, Logic.combine]

end Formula

/-- The three layers of the grammar, from the tightest to the loosest. -/
inductive Level where
  | atom
  | conjunction
  | disjunction

/-- A formula is read from the front of some tokens, and leaves the rest of them. A row of operands
with one keyword is grouped to the right, which makes no difference to its truth. -/
inductive Reads : Level → List Token → Formula → (rest : List Token) → Prop where
  | leaf (index : Nat) (condition : Filter) (rest : List Token) :
    Reads .atom (.leaf index condition :: rest) (.leaf index) rest
  | group {tokens rest : List Token} {formula : Formula} :
    Reads .disjunction tokens formula (.closing :: rest) →
      Reads .atom (.opening :: tokens) formula rest
  | atom {tokens rest : List Token} {formula : Formula} :
    Reads .atom tokens formula rest → Reads .conjunction tokens formula rest
  | and {tokens middle rest : List Token} {left right : Formula} :
    Reads .atom tokens left (.keyword .and :: middle) → Reads .conjunction middle right rest →
      Reads .conjunction tokens (.binary .and left right) rest
  | conjunction {tokens rest : List Token} {formula : Formula} :
    Reads .conjunction tokens formula rest → Reads .disjunction tokens formula rest
  | or {tokens middle rest : List Token} {left right : Formula} :
    Reads .conjunction tokens left (.keyword .or :: middle) → Reads .disjunction middle right rest →
      Reads .disjunction tokens (.binary .or left right) rest

/-- No keyword follows that would go on with a formula of the level. -/
def Level.Stops : Level → (rest : List Token) → Prop
  | .atom, _ => True
  | .conjunction, rest => ∀ tail, rest ≠ .keyword .and :: tail
  | .disjunction, rest => ∀ logic tail, rest ≠ .keyword logic :: tail

/-- At each level there is one way to read as far as possible. -/
theorem Reads.unique {level : Level} {tokens rest remaining : List Token}
    {formula other : Formula} (h : Reads level tokens formula rest)
    (hother : Reads level tokens other remaining) (hstops : level.Stops rest)
    (hother_stops : level.Stops remaining) : formula = other ∧ rest = remaining := by
  induction h generalizing other remaining with
  | leaf index condition rest =>
    cases hother
    exact ⟨rfl, rfl⟩
  | group _ ih =>
    cases hother with
    | group hinner =>
      obtain ⟨hformula, hrest⟩ := ih hinner nofun nofun
      exact ⟨hformula, (List.cons.inj hrest).2⟩
  | atom _ ih =>
    cases hother with
    | atom hatom => exact ih hatom trivial trivial
    | and hleft hright =>
      -- The second reading goes on with an `and` that the first one leaves.
      obtain ⟨-, hrest⟩ := ih hleft trivial trivial
      exact absurd hrest (hstops _)
  | and _ _ ihleft ihright =>
    cases hother with
    | atom hatom =>
      obtain ⟨-, hrest⟩ := ihleft hatom trivial trivial
      exact absurd hrest.symm (hother_stops _)
    | and hleft hright =>
      obtain ⟨rfl, hmiddle⟩ := ihleft hleft trivial trivial
      cases hmiddle
      obtain ⟨rfl, hrest⟩ := ihright hright hstops hother_stops
      exact ⟨rfl, hrest⟩
  | conjunction _ ih =>
    cases hother with
    | conjunction hconjunction =>
      exact ih hconjunction (hstops .and) (hother_stops .and)
    | or hleft hright =>
      obtain ⟨-, hrest⟩ := ih hleft (hstops .and) nofun
      exact absurd hrest (hstops .or _)
  | or _ _ ihleft ihright =>
    cases hother with
    | conjunction hconjunction =>
      obtain ⟨-, hrest⟩ := ihleft hconjunction nofun (hother_stops .and)
      exact absurd hrest.symm (hother_stops .or _)
    | or hleft hright =>
      obtain ⟨rfl, hmiddle⟩ := ihleft hleft nofun nofun
      cases hmiddle
      obtain ⟨rfl, hrest⟩ := ihright hright hstops hother_stops
      exact ⟨rfl, hrest⟩

/-- The tokens are read as a whole. -/
def ReadAs (tokens : List Token) (formula : Formula) : Prop :=
  Reads .disjunction tokens formula []

theorem ReadAs.unique {tokens : List Token} {formula other : Formula}
    (h : ReadAs tokens formula) (hother : ReadAs tokens other) : formula = other :=
  (Reads.unique h hother nofun nofun).1

/-- The tokens stand for an atom wherever they are written. -/
def IsAtom (tokens : List Token) (formula : Formula) : Prop :=
  ∀ rest, Reads .atom (tokens ++ rest) formula rest

theorem isAtom_leaf (index : Nat) (condition : Filter) :
    IsAtom [.leaf index condition] (.leaf index) :=
  fun rest => .leaf index condition rest

theorem isAtom_group {tokens : List Token} {formula : Formula}
    (h : ∀ rest, Reads .disjunction (tokens ++ rest) formula rest) :
    IsAtom ([.opening] ++ tokens ++ [.closing]) formula := by
  intro rest
  have hinner := h (.closing :: rest)
  simpa using hinner.group

theorem reads_conjunction {first : List Token} {formula : Formula} {parts : List (List Token)}
    {formulas : List Formula} (hfirst : IsAtom first formula)
    (hparts : List.Forall₂ IsAtom parts formulas) (rest : List Token) :
    Reads .conjunction ([.keyword .and].intercalate (first :: parts) ++ rest)
      (.chain .and formula formulas) rest := by
  induction hparts generalizing first formula with
  | nil => simpa [Formula.chain] using (hfirst rest).atom
  | cons hnext _ ih =>
    rw [List.intercalate_cons_cons, List.append_assoc, List.append_assoc]
    exact (hfirst _).and (ih hnext)

theorem reads_disjunction {first : List Token} {formula : Formula} {parts : List (List Token)}
    {formulas : List Formula} (hfirst : IsAtom first formula)
    (hparts : List.Forall₂ IsAtom parts formulas) (rest : List Token) :
    Reads .disjunction ([.keyword .or].intercalate (first :: parts) ++ rest)
      (.chain .or formula formulas) rest := by
  induction hparts generalizing first formula with
  | nil => simpa [Formula.chain] using (hfirst rest).atom.conjunction
  | cons hnext _ ih =>
    rw [List.intercalate_cons_cons, List.append_assoc, List.append_assoc]
    exact (hfirst _).atom.or (ih hnext)

/-- Atoms joined by one keyword are read as a chain of them. -/
theorem reads_intercalate (logic : Logic) {first : List Token} {formula : Formula}
    {parts : List (List Token)} {formulas : List Formula} (hfirst : IsAtom first formula)
    (hparts : List.Forall₂ IsAtom parts formulas) (rest : List Token) :
    Reads .disjunction ([.keyword logic].intercalate (first :: parts) ++ rest)
      (.chain logic formula formulas) rest := by
  cases logic with
  | and => exact (reads_conjunction hfirst hparts rest).conjunction
  | or => exact reads_disjunction hfirst hparts rest

end QueryTree
