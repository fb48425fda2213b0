import QueryTree.Proofs.Conditions
import QueryTree.Proofs.Precedence
import QueryTree.Tree.Build

/-!
The meaning of a filter is kept by its text. A logic holds if all or some of its children do, where
children that hold no condition count for nothing. The text of a filter is a row of tokens which SQL
reads as a formula with the same truth, whichever of the conditions hold.

The numbers of the conditions are those of their occurrences, for a tree may repeat a condition.
-/

namespace QueryTree

open Piece

mutual

/-- Whether a filter holds, where `σ` says which conditions do. Its own conditions are numbered from
`start`. -/
def Filter.meaning (σ : Nat → Bool) (start : Nat) : Filter → Bool
  | ⟨_, _, some _, _, _⟩ => σ start
  | ⟨logic, _, none, _, filters⟩ =>
    (logic.getD .standard).combine (childMeanings σ start filters)

/-- The children of a logic that count. -/
def childMeanings (σ : Nat → Bool) (start : Nat) : List (Option Filter) → List Bool
  | [] => []
  | none :: rest => childMeanings σ start rest
  | some child :: rest =>
    if child.conditions.isEmpty then childMeanings σ start rest
    else child.meaning σ start :: childMeanings σ (start + child.conditions.length) rest

end

/-- Rows of tokens joined by a keyword, in parentheses unless they stand for the root. -/
def joinTokens (logic : Option Logic) (root : Bool) (parts : List (List Token)) : List Token :=
  match parts.filter (fun part => !part.isEmpty) with
  | [] => []
  | parts =>
    let tokens := [.keyword (logic.getD .standard)].intercalate parts
    if root then tokens else [.opening] ++ tokens ++ [.closing]

mutual

def Filter.tokens (root : Bool) (start : Nat) : Filter → List Token
  | ⟨logic, field, some operator, value, filters⟩ =>
    [.leaf start ⟨logic, field, some operator, value, filters⟩]
  | ⟨logic, _, none, _, filters⟩ => joinTokens logic root (childTokens start filters)

def childTokens (start : Nat) : List (Option Filter) → List (List Token)
  | [] => []
  | none :: rest => childTokens start rest
  | some child :: rest =>
    child.tokens false start :: childTokens (start + child.conditions.length) rest

end

namespace Token

/-- The occurrence of a condition that the token stands for. -/
def leaf? : Token → Option (Filter × Nat)
  | .leaf index condition => some (condition, index)
  | _ => none

def pieces : Token → List Piece
  | .leaf _ condition => condition.pieces false
  | .keyword logic => [.text (" " ++ logic.keyword ++ " ")]
  | .opening => [.text "("]
  | .closing => [.text ")"]

/-- The text of a token, where the conditions have the given fragments. -/
def text (fragments : List String) : Token → String
  | .leaf index _ => fragments.getD index ""
  | .keyword logic => " " ++ logic.keyword ++ " "
  | .opening => "("
  | .closing => ")"

end Token

/-- The occurrences of conditions in a row of tokens, from left to right. -/
def leaves (tokens : List Token) : List (Filter × Nat) :=
  tokens.filterMap Token.leaf?

theorem leaves_append (left right : List Token) :
    leaves (left ++ right) = leaves left ++ leaves right :=
  List.filterMap_append

theorem leaves_intercalate (logic : Logic) (parts : List (List Token)) :
    leaves ([.keyword logic].intercalate parts) = parts.flatMap leaves := by
  have hkeyword : leaves [.keyword logic] = [] := rfl
  rw [map_intercalate rfl leaves_append, hkeyword, nil_intercalate, List.flatMap_def]

theorem pieces_intercalate (logic : Logic) (parts : List (List Token)) :
    ([.keyword logic].intercalate parts).flatMap Token.pieces =
      [.text (" " ++ logic.keyword ++ " ")].intercalate
        (parts.map (List.flatMap Token.pieces)) :=
  map_intercalate rfl (fun _ _ => List.flatMap_append) [.keyword logic] parts

section Joining

variable (logic : Option Logic) (root : Bool) (parts : List (List Token))

theorem joinTokens_eq_nil : joinTokens logic root parts = [] ↔ ∀ part ∈ parts, part = [] := by
  have hkept : parts.filter (fun part => !part.isEmpty) = [] ↔ ∀ part ∈ parts, part = [] := by
    rw [List.filter_eq_nil_iff]
    simp
  rw [← hkept]
  unfold joinTokens
  cases hparts : parts.filter (fun part => !part.isEmpty) with
  | nil => simp
  | cons first rest =>
    have hfirst : first ≠ [] := by
      have hmem : first ∈ parts.filter (fun part => !part.isEmpty) := by simp [hparts]
      simpa using (List.mem_filter.mp hmem).2
    cases root with
    | true => cases rest <;> simp [hfirst, List.intercalate_cons_cons]
    | false => simp

theorem leaves_joinTokens : leaves (joinTokens logic root parts) = parts.flatMap leaves := by
  unfold joinTokens
  rw [← flatMap_filter_nonempty rfl parts]
  cases parts.filter (fun part => !part.isEmpty) with
  | nil => rfl
  | cons first rest =>
    cases root with
    | true => exact leaves_intercalate _ _
    | false =>
      have hgroup (tokens : List Token) :
          leaves ([.opening] ++ tokens ++ [.closing]) = leaves tokens := by
        rw [leaves_append, leaves_append]
        exact List.append_nil _
      exact (hgroup _).trans (leaves_intercalate _ _)

theorem pieces_joinTokens
    (h : ∀ part ∈ parts, part.flatMap Token.pieces = [] ↔ part = []) :
    (joinTokens logic root parts).flatMap Token.pieces =
      joined logic root (parts.map (List.flatMap Token.pieces)) := by
  unfold joinTokens joined
  rw [filter_nonempty_map h]
  cases parts.filter (fun part => !part.isEmpty) with
  | nil => rfl
  | cons first rest =>
    cases root with
    | true => exact pieces_intercalate _ _
    | false =>
      simp only [Bool.false_eq_true, if_false, List.flatMap_append, pieces_intercalate]
      rfl

end Joining

section Occurrences

variable {filters : List (Option Filter)}

theorem mem_childTokens {start : Nat} {part : List Token} (h : part ∈ childTokens start filters) :
    ∃ child ∈ filters.reduceOption, ∃ first, part = child.tokens false first := by
  induction filters generalizing start with
  | nil => cases h
  | cons entry rest ih =>
    cases entry with
    | none => exact ih h
    | some child =>
      rw [childTokens, List.mem_cons] at h
      rw [List.reduceOption_cons_of_some]
      rcases h with heq | hrest
      · exact ⟨child, by simp, start, heq⟩
      · obtain ⟨other, hother, first, heq⟩ := ih hrest
        exact ⟨other, List.mem_cons_of_mem _ hother, first, heq⟩

theorem leaves_childTokens {start : Nat}
    (h : ∀ child ∈ filters.reduceOption, ∀ start,
      leaves (child.tokens false start) = child.conditions.zipIdx start) :
    (childTokens start filters).flatMap leaves = (childConditions filters).zipIdx start := by
  induction filters generalizing start with
  | nil => rfl
  | cons entry rest ih =>
    cases entry with
    | none => exact ih h
    | some child =>
      rw [List.reduceOption_cons_of_some, List.forall_mem_cons] at h
      rw [childTokens, childConditions, List.flatMap_cons, List.zipIdx_append, h.1, ih h.2]

/-- Each condition occurs once, and in the order of the tree. -/
theorem Filter.leaves_tokens (filter : Filter) (root : Bool) (start : Nat) :
    leaves (filter.tokens root start) = filter.conditions.zipIdx start := by
  induction filter using Filter.recursion generalizing root start with
  | condition logic field operator value filters => rfl
  | logic logic field value filters ih =>
    rw [tokens, conditions, leaves_joinTokens]
    exact leaves_childTokens fun child hchild => ih child hchild false

theorem childTokens_eq_nil {start : Nat} (h : ∀ child ∈ filters.reduceOption, ∀ start,
      child.tokens false start = [] ↔ child.conditions = []) :
    (∀ part ∈ childTokens start filters, part = []) ↔ childConditions filters = [] := by
  induction filters generalizing start with
  | nil => simp [childTokens, childConditions]
  | cons entry rest ih =>
    cases entry with
    | none => exact ih h
    | some child =>
      rw [List.reduceOption_cons_of_some, List.forall_mem_cons] at h
      rw [childTokens, childConditions, List.forall_mem_cons, List.append_eq_nil_iff, h.1, ih h.2]

theorem Filter.tokens_eq_nil (filter : Filter) (root : Bool) (start : Nat) :
    filter.tokens root start = [] ↔ filter.conditions = [] := by
  induction filter using Filter.recursion generalizing root start with
  | condition logic field operator value filters => simp [tokens, conditions]
  | logic logic field value filters ih =>
    rw [tokens, conditions, joinTokens_eq_nil]
    exact childTokens_eq_nil fun child hchild => ih child hchild false

theorem pieces_childTokens {start : Nat} (h : ∀ child ∈ filters.reduceOption, ∀ start,
      (child.tokens false start).flatMap Token.pieces = child.pieces false) :
    (childTokens start filters).map (List.flatMap Token.pieces) = childPieces filters := by
  induction filters generalizing start with
  | nil => rfl
  | cons entry rest ih =>
    cases entry with
    | none => exact ih h
    | some child =>
      rw [List.reduceOption_cons_of_some, List.forall_mem_cons] at h
      rw [childTokens, childPieces, List.map_cons, h.1, ih h.2]

/-- The rendering of an accepted filter is that of its tokens. -/
theorem Filter.pieces_tokens {context : Context} {filter : Filter}
    (h : filter.accept context = .ok ()) (root : Bool) (start : Nat) :
    (filter.tokens root start).flatMap Token.pieces = filter.pieces root := by
  induction filter using Filter.recursion generalizing context root start with
  | condition logic field operator value filters =>
    rw [tokens, List.flatMap_singleton, Token.pieces]
    cases root with
    | true => exact (pieces_condition rfl).symm
    | false => rfl
  | logic logic field value filters ih =>
    have hchild : ∀ child ∈ filters.reduceOption, ∀ start,
        (child.tokens false start).flatMap Token.pieces = child.pieces false := by
      intro child hmem start
      obtain ⟨inner, -, haccept⟩ := accept_of_mem h hmem
      exact ih child hmem haccept false start
    rw [tokens, pieces, ← pieces_childTokens hchild]
    apply pieces_joinTokens
    intro part hpart
    obtain ⟨child, hmem, first, rfl⟩ := mem_childTokens hpart
    obtain ⟨inner, -, haccept⟩ := accept_of_mem h hmem
    rw [hchild child hmem first, pieces_eq_nil_iff haccept, child.tokens_eq_nil false first]

end Occurrences

section Fragments

/-- A token that is no condition has the same text whatever the fragments are. -/
theorem Token.pieces_of_no_leaf {token : Token} (h : token.leaf? = none)
    (fragments : List String) : token.pieces = [.text (token.text fragments)] := by
  cases token with
  | leaf index condition => cases h
  | _ => rfl

/-- Filling tokens puts the filling of each condition at the spot of its number. -/
theorem fill_tokens (dialect : Dialect) (count : Nat) {tokens : List Token}
    {conditions : List Filter} {start : Nat} (before : List String)
    (hleaves : leaves tokens = conditions.zipIdx start) (hstart : before.length = start) :
    fill dialect count (tokens.flatMap Token.pieces) =
      String.join (tokens.map (Token.text
        (before ++ fillEach dialect count (conditions.map (Filter.pieces false))))) := by
  induction tokens generalizing count conditions start before with
  | nil => simp [fill]
  | cons token rest ih =>
    cases hleaf : token.leaf? with
    | none =>
      have hrest : leaves rest = conditions.zipIdx start := by
        rw [← hleaves, leaves, leaves, List.filterMap_cons_none hleaf]
      rw [List.flatMap_cons, Token.pieces_of_no_leaf hleaf, List.map_cons, String.join_cons,
        ← ih count before hrest hstart]
      rfl
    | some occurrence =>
      rw [leaves, List.filterMap_cons_some hleaf] at hleaves
      cases token with
      | leaf index condition =>
        cases hleaf
        cases conditions with
        | nil => cases hleaves
        | cons first conditions =>
          obtain ⟨hfirst, hrest⟩ := List.cons.inj hleaves
          cases hfirst
          -- As many fragments stand before the condition as its number says, so its own is next.
          have htail := ih (count + (slots (condition.pieces false)).length)
            (before ++ [fill dialect count (condition.pieces false)]) hrest (by simp [hstart])
          rw [List.append_assoc] at htail
          rw [List.flatMap_cons, Token.pieces, fill_append, htail, List.map_cons,
            String.join_cons, Token.text]
          simp [fillEach, ← hstart]
      | _ => cases hleaf

/-- The conditions compile to the texts one after the other, where each starts behind the arguments
of those before it. -/
inductive CompileEach (context : Context) : (args : Array Value) → List Filter → List String → Prop
  | nil (args : Array Value) : CompileEach context args [] []
  | cons {args : Array Value} {inner : Context} {condition : Filter} {conditions : List Filter}
    {compiled : Compiled} {texts : List String} :
    inner.dialect = context.dialect → condition.compile inner args = .ok compiled →
      CompileEach context compiled.args conditions texts →
      CompileEach context args (condition :: conditions) (compiled.sql :: texts)

theorem compileEach_of_accept {context : Context} {conditions : List Filter}
    (haccept : ∀ condition ∈ conditions,
      ∃ inner, inner.dialect = context.dialect ∧ condition.accept inner = .ok ())
    (hoperator : ∀ condition ∈ conditions, ∃ operator, condition.operator = some operator)
    (args : Array Value) :
    CompileEach context args conditions
      (fillEach context.dialect args.size (conditions.map (Filter.pieces false))) := by
  induction conditions generalizing args with
  | nil => exact .nil args
  | cons condition rest ih =>
    rw [List.forall_mem_cons] at haccept hoperator
    obtain ⟨⟨inner, hdialect, hcondition⟩, hrest⟩ := haccept
    obtain ⟨operator, hsome⟩ := hoperator.1
    have hcompile : condition.compile inner args =
        .ok (.ofPieces context.dialect args (condition.pieces false)) := by
      rw [condition.compile_eq, hcondition, Filter.pieces_condition hsome, hdialect, map_ok]
    have htail := ih hrest hoperator.2 (args ++ slots (condition.pieces false))
    rw [size_append_values] at htail
    exact .cons hdialect hcompile htail

end Fragments

section Truth

variable {filters : List (Option Filter)}

/-- The children that count are read as atoms, in their order. -/
theorem isAtom_childTokens (h : ∀ child ∈ filters.reduceOption, ∀ start,
      child.conditions ≠ [] → ∃ formula, IsAtom (child.tokens false start) formula ∧
        ∀ σ, formula.eval σ = child.meaning σ start) (start : Nat) :
    ∃ formulas,
      List.Forall₂ IsAtom ((childTokens start filters).filter fun part => !part.isEmpty)
        formulas ∧
      ∀ σ, formulas.map (Formula.eval σ) = childMeanings σ start filters := by
  induction filters generalizing start with
  | nil => exact ⟨[], .nil, fun _ => rfl⟩
  | cons entry rest ih =>
    cases entry with
    | none => exact ih h start
    | some child =>
      rw [List.reduceOption_cons_of_some, List.forall_mem_cons] at h
      obtain ⟨hchild, hrest⟩ := h
      by_cases hnone : child.conditions = []
      · obtain ⟨formulas, hatoms, hmeanings⟩ := ih hrest start
        refine ⟨formulas, ?_, ?_⟩
        · rw [childTokens, (child.tokens_eq_nil false start).mpr hnone, hnone]
          exact hatoms
        · intro σ
          rw [childMeanings, if_pos (by simp [hnone]), hmeanings σ]
      · have htokens := mt (child.tokens_eq_nil false start).mp hnone
        obtain ⟨formula, hatom, hmeaning⟩ := hchild start hnone
        obtain ⟨formulas, hatoms, hmeanings⟩ := ih hrest (start + child.conditions.length)
        refine ⟨formula :: formulas, ?_, ?_⟩
        · rw [childTokens, List.filter_cons_of_pos (by simpa using htokens)]
          exact .cons hatom hatoms
        · intro σ
          rw [childMeanings, if_neg (by simpa using hnone), List.map_cons, hmeaning σ, hmeanings σ]

/-- A filter with conditions is read as a formula of its meaning, by itself as well as in the place
of an atom. -/
theorem Filter.reads_tokens (filter : Filter) (start : Nat) (h : filter.conditions ≠ []) :
    ∃ formula,
      (∀ rest, Reads .disjunction (filter.tokens true start ++ rest) formula rest) ∧
      IsAtom (filter.tokens false start) formula ∧
      ∀ σ, formula.eval σ = filter.meaning σ start := by
  induction filter using Filter.recursion generalizing start with
  | condition logic field operator value filters =>
    have hatom := isAtom_leaf start ⟨logic, field, some operator, value, filters⟩
    exact ⟨.leaf start, fun rest => (hatom rest).atom.conjunction, hatom, fun _ => rfl⟩
  | logic logic field value filters ih =>
    have hchildren : ∀ child ∈ filters.reduceOption, ∀ start, child.conditions ≠ [] →
        ∃ formula, IsAtom (child.tokens false start) formula ∧
          ∀ σ, formula.eval σ = child.meaning σ start := by
      intro child hmem start hconditions
      obtain ⟨formula, -, hatom, hmeaning⟩ := ih child hmem start hconditions
      exact ⟨formula, hatom, hmeaning⟩
    obtain ⟨formulas, hatoms, hmeanings⟩ := isAtom_childTokens hchildren start
    have htokens := mt (Filter.tokens_eq_nil ⟨logic, field, none, value, filters⟩ true start).mp h
    simp only [tokens, joinTokens] at htokens ⊢
    cases hparts : (childTokens start filters).filter (fun part => !part.isEmpty) with
    | nil => simp [hparts] at htokens  -- There is a condition, and its tokens are kept.
    | cons first parts =>
      rw [hparts] at hatoms
      cases hatoms with
      | cons hfirst hrest =>
        have hreads := reads_intercalate (logic.getD .standard) hfirst hrest
        refine ⟨_, hreads, isAtom_group hreads, ?_⟩
        intro σ
        rw [Formula.eval_chain, hmeanings σ]
        rfl

end Truth

/-- The text is a row of tokens, in which each condition of the filter occurs once, in the order of
the tree and with its own fragment. If there is any, the row has one reading, and it is true exactly
if the filter holds. -/
structure Filter.KeepsMeaning (filter : Filter) (context : Context) (args : Array Value)
    (sql : String) (fragments : List String) (tokens : List Token) : Prop where
  fragments_eq : CompileEach context args filter.conditions fragments
  sql_eq : sql = String.join (tokens.map (Token.text fragments))
  leaves_eq : leaves tokens = filter.conditions.zipIdx
  empty : filter.conditions = [] → tokens = []
  reading : filter.conditions ≠ [] → ∃ formula, ReadAs tokens formula ∧
    (∀ other, ReadAs tokens other → other = formula) ∧
    ∀ σ, formula.eval σ = filter.meaning σ 0

theorem Filter.keepsMeaning_of_accept {context : Context} {filter : Filter}
    (h : filter.accept context = .ok ()) (root : Bool) (args : Array Value) :
    filter.KeepsMeaning context args (fill context.dialect args.size (filter.pieces root))
      (fillEach context.dialect args.size (filter.conditions.map (Filter.pieces false)))
      (filter.tokens root 0) := by
  constructor
  · exact compileEach_of_accept (fun _ hmem => accept_of_mem_conditions h hmem)
      (fun _ hmem => operator_of_mem_conditions hmem) args
  · rw [← pieces_tokens h root 0]
    exact fill_tokens context.dialect args.size [] (filter.leaves_tokens root 0) rfl
  · exact filter.leaves_tokens root 0
  · exact (filter.tokens_eq_nil root 0).mpr
  · intro hsome
    obtain ⟨formula, hreads, hatom, hmeaning⟩ := filter.reads_tokens 0 hsome
    have hread : ReadAs (filter.tokens root 0) formula := by
      cases root with
      | true => simpa [ReadAs] using hreads []
      | false => simpa [ReadAs] using (hatom []).atom.conjunction
    exact ⟨formula, hread, fun other hother => hother.unique hread, hmeaning⟩

theorem joined_nested (logic : Option Logic) (parts : List (List Piece))
    (h : joined logic true parts ≠ []) :
    joined logic false parts = grouped (joined logic true parts) := by
  unfold joined at h ⊢
  cases hparts : parts.filter (fun part => !part.isEmpty) with
  | nil => simp [hparts] at h
  | cons first rest => rfl

/-- As a part of a larger condition, a logic that renders anything is put in parentheses, and
nothing else is changed. -/
theorem Filter.pieces_nested {context : Context} {filter : Filter}
    (h : filter.accept context = .ok ()) :
    filter.pieces false =
      if filter.logic.isSome ∧ filter.pieces true ≠ [] then grouped (filter.pieces true)
      else filter.pieces true := by
  have hnil : filter.pieces false = [] ↔ filter.pieces true = [] :=
    (pieces_eq_nil_iff h).trans (pieces_eq_nil_iff h).symm
  rw [accept, bind_eq_ok] at h
  obtain ⟨_, hvalid, -⟩ := h
  rcases shape_of_checkShape (checkShape_of_validate hvalid) with hlogic | ⟨field, operator, hcond⟩
  · by_cases hempty : filter.pieces true = []
    · rw [hnil.mpr hempty, if_neg (by simp [hempty]), hempty]
    · rw [if_pos ⟨hlogic.logic, hempty⟩]
      obtain ⟨logic, field, operator, value, filters⟩ := filter
      cases hlogic.operator
      exact joined_nested logic _ hempty
  · rw [pieces_condition hcond.operator, if_neg (by simp [hcond.logic])]

/-- The text of a filter that compiles, as a root or as a part of a larger condition, is read as a
formula of its meaning. -/
theorem compile_keeps_meaning (context : Context) (filter : Filter) (args : Array Value) :
    (∀ compiled, filter.compile context args = .ok compiled →
      ∃ fragments tokens, filter.KeepsMeaning context args compiled.sql fragments tokens) ∧
    (∀ compiled, filter.compileNested context args = .ok compiled →
      ∃ fragments tokens, filter.KeepsMeaning context args compiled.sql fragments tokens) ∧
    filter.compileNested context args = (filter.compile context args).map fun compiled =>
      if filter.logic.isSome ∧ compiled.sql ≠ "" then compiled.parenthesized else compiled := by
  refine ⟨?_, ?_, ?_⟩
  · intro compiled hcompile
    rw [filter.compile_eq, map_eq_ok] at hcompile
    obtain ⟨_, haccept, rfl⟩ := hcompile
    exact ⟨_, _, filter.keepsMeaning_of_accept haccept true args⟩
  · intro compiled hcompile
    rw [filter.compileNested_eq, map_eq_ok] at hcompile
    obtain ⟨_, haccept, rfl⟩ := hcompile
    exact ⟨_, _, filter.keepsMeaning_of_accept haccept false args⟩
  · rw [filter.compileNested_eq, filter.compile_eq]
    cases haccept : filter.accept context with
    | error error => rfl
    | ok _ =>
      have hvisible : (Compiled.ofPieces context.dialect args (filter.pieces true)).sql ≠ "" ↔
          filter.pieces true ≠ [] := by
        constructor
        · intro hsql hempty
          exact hsql (by rw [hempty]; rfl)
        · intro hne
          exact filter.fill_root_ne_empty context.dialect hne args.size
      simp only [map_ok, hvisible, Filter.pieces_nested haccept]
      split
      · rw [ofPieces_grouped]
      · rfl

/-- Two alternatives under a logic, a single one and none at all. -/
def eligible : Filter :=
  .all [.any [.condition (.ofColumn "age") .greaterThan (.int 17), .isNull (.ofColumn "age")],
    .any [.condition (.ofColumn "role") .like (.string "admin")], .addOptional (.any []) none]

theorem eligible_keeps_meaning :
    ∃ fragments tokens, eligible.KeepsMeaning ⟨.postgres, 0, {}⟩ #[]
      "((age > $1 or age is null) and (role ilike concat('%', $2, '%')))" fragments tokens := by
  have hcompile : eligible.compileNested ⟨.postgres, 0, {}⟩ #[] =
      .ok (.ofPieces .postgres #[] (eligible.pieces false)) := by
    rw [Filter.compileNested_eq]
    rfl
  have hsql : (Compiled.ofPieces .postgres #[] (eligible.pieces false)).sql =
      "((age > $1 or age is null) and (role ilike concat('%', $2, '%')))" := by
    decide +kernel
  obtain ⟨fragments, tokens, hkeeps⟩ :=
    (compile_keeps_meaning ⟨.postgres, 0, {}⟩ eligible #[]).2.1 _ hcompile
  rw [hsql] at hkeeps
  exact ⟨fragments, tokens, hkeeps⟩

end QueryTree
