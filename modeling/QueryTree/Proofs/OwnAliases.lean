import QueryTree.Proofs.AcceptedTrees
import QueryTree.Proofs.Grammar

/-!
What the alias that an embedded select carries itself does to the text. It is written together with
one more pair of parentheses, so the text gets longer than anything that is derived from the
statement, and it keeps its literals. A text is therefore derived from its statement exactly if no
select that stands inside of it has an alias of its own.
-/

namespace QueryTree

open Piece Grammar

/-- A derived rendering next to the one that is compiled. Both have the same literals, and the
derived one is never longer; it is as long only under the condition that is named. -/
structure Within (dialect : Dialect) (plain : Prop) (derived compiled : List Piece) : Prop where
  slots : slots derived = slots compiled
  empty : derived = [] ↔ compiled = []
  le (count : Nat) : (fill dialect count derived).length ≤ (fill dialect count compiled).length
  of_eq (count : Nat) :
    (fill dialect count derived).length = (fill dialect count compiled).length → plain

/-- The parts of two renderings, one next to the other. -/
inductive WithinEach (dialect : Dialect) : Prop → List (List Piece) → List (List Piece) → Prop
  | nil {plain : Prop} (holds : plain) : WithinEach dialect plain [] []
  | cons {plain others : Prop} {part counterpart : List Piece}
      {parts counterparts : List (List Piece)}
      (first : Within dialect plain part counterpart)
      (rest : WithinEach dialect others parts counterparts) :
      WithinEach dialect (plain ∧ others) (part :: parts) (counterpart :: counterparts)

section Within

variable {dialect : Dialect} {plain others : Prop} {derived compiled : List Piece}
  {parts counterparts : List (List Piece)}

theorem Within.same (holds : plain) (pieces : List Piece) : Within dialect plain pieces pieces :=
  ⟨rfl, Iff.rfl, fun _ => Nat.le_refl _, fun _ _ => holds⟩

theorem Within.imp (h : Within dialect plain derived compiled) (himp : plain → others) :
    Within dialect others derived compiled :=
  ⟨h.slots, h.empty, h.le, fun count heq => himp (h.of_eq count heq)⟩

theorem Within.append {left right : List Piece} (h : Within dialect plain derived compiled)
    (hnext : Within dialect others left right) :
    Within dialect (plain ∧ others) (derived ++ left) (compiled ++ right) where
  slots := by rw [slots_append, slots_append, h.slots, hnext.slots]
  empty := by rw [List.append_eq_nil_iff, List.append_eq_nil_iff, h.empty, hnext.empty]
  le count := by
    have hfirst := h.le count
    have hsecond := hnext.le (count + (Piece.slots compiled).length)
    rw [fill_append, fill_append, h.slots, String.length_append, String.length_append]
    omega
  of_eq count heq := by
    have hfirst := h.le count
    have hsecond := hnext.le (count + (Piece.slots compiled).length)
    rw [fill_append, fill_append, h.slots, String.length_append, String.length_append] at heq
    exact ⟨h.of_eq count (by omega), hnext.of_eq (count + (Piece.slots compiled).length) (by omega)⟩

theorem Within.before (h : Within dialect plain derived compiled) (pieces : List Piece) :
    Within dialect plain (derived ++ pieces) (compiled ++ pieces) :=
  (h.append (.same trivial pieces)).imp And.left

theorem Within.behind (h : Within dialect plain derived compiled) (pieces : List Piece) :
    Within dialect plain (pieces ++ derived) (pieces ++ compiled) :=
  ((Within.same trivial pieces).append h).imp And.right

theorem Within.grouped (h : Within dialect plain derived compiled) :
    Within dialect plain (grouped derived) (grouped compiled) :=
  (h.behind _).before _

/-- The parentheses of an embedded select. They hold something more than the select if it has an
alias of its own. -/
theorem Within.embedded {query : Select} {place : Place} {pieces : List Piece}
    (h : Within dialect (∀ site ∈ query.embeddings, site.Plain) pieces query.pieces) :
    Within dialect (∀ site ∈ ⟨query, place⟩ :: query.embeddings, site.Plain)
      (Piece.grouped pieces) (embedded query.aliasName query.pieces) := by
  unfold Piece.embedded
  cases hown : shownAlias query.aliasName with
  | none =>
    have hsite : Embedding.Plain ⟨query, place⟩ := hown
    exact h.grouped.imp fun hsites => List.forall_mem_cons.mpr ⟨hsite, hsites⟩
  | some own =>
    have hlonger (count : Nat) : (fill dialect count (Piece.grouped pieces)).length <
        (fill dialect count (Piece.grouped (renamed query.aliasName
          (Piece.grouped query.pieces)))).length := by
      have hle := h.le count
      have hparenthesis : "(".length = 1 := rfl
      simp only [renamed, hown, fill_grouped, fill_append, fill, String.length_append]
      omega
    exact {
      slots := by rw [slots_grouped, slots_grouped, slots_renamed, slots_grouped, h.slots]
      empty := by simp [Piece.grouped]
      le := fun count => Nat.le_of_lt (hlonger count)
      of_eq := fun count heq => absurd heq (Nat.ne_of_lt (hlonger count)) }

theorem WithinEach.intercalate (separator : List Piece)
    (h : WithinEach dialect plain parts counterparts) :
    Within dialect plain (separator.intercalate parts) (separator.intercalate counterparts) := by
  induction h with
  | nil holds => exact .same holds []
  | cons first rest ih =>
    cases rest with
    | nil holds =>
      rw [List.intercalate_singleton, List.intercalate_singleton]
      exact first.imp fun hplain => ⟨hplain, holds⟩
    | cons second rest =>
      rw [List.intercalate_cons_cons, List.intercalate_cons_cons]
      exact (first.before separator).append ih

/-- A part that renders nothing has no select with an alias of its own in it. -/
theorem WithinEach.filter (h : WithinEach dialect plain parts counterparts) :
    ∃ kept : Prop, (kept → plain) ∧
      WithinEach dialect kept (parts.filter fun part => !part.isEmpty)
        (counterparts.filter fun part => !part.isEmpty) := by
  induction h with
  | nil holds => exact ⟨True, fun _ => holds, .nil trivial⟩
  | @cons plain others part counterpart parts counterparts first rest ih =>
    obtain ⟨kept, himp, hkept⟩ := ih
    cases part with
    | nil =>
      obtain rfl := first.empty.mp rfl
      have hplain : plain := first.of_eq 0 rfl
      exact ⟨kept, fun h => ⟨hplain, himp h⟩, by simpa using hkept⟩
    | cons piece part =>
      cases counterpart with
      | nil => cases first.empty.mpr rfl
      | cons other counterpart =>
        exact ⟨plain ∧ kept, And.imp_right himp, by simpa using .cons first hkept⟩

theorem WithinEach.joined (h : WithinEach dialect plain parts counterparts) (logic : Option Logic)
    (root : Bool) :
    Within dialect plain (joined logic root parts) (joined logic root counterparts) := by
  obtain ⟨kept, himp, hkept⟩ := h.filter
  refine Within.imp ?_ himp
  unfold Piece.joined
  generalize parts.filter (fun part => !part.isEmpty) = present at hkept
  generalize counterparts.filter (fun part => !part.isEmpty) = others at hkept
  have hinside := hkept.intercalate [.text (" " ++ (logic.getD .standard).keyword ++ " ")]
  cases hkept with
  | nil holds => exact .same holds []
  | cons first rest =>
    cases root with
    | true => exact hinside
    | false => exact hinside.grouped

theorem Within.ofWhere (h : Within dialect plain derived compiled) :
    Within dialect plain (ofWhere derived) (ofWhere compiled) := by
  cases derived with
  | nil =>
    obtain rfl := h.empty.mp rfl
    exact h
  | cons piece rest =>
    cases compiled with
    | nil => cases h.empty.mpr rfl
    | cons other others => exact h.behind [.text " where "]

/-- Where an operator asks for nothing, the right side is not written. -/
theorem Within.ofCondition {left right : List Piece} {operator : Operator}
    (h : Within dialect plain derived compiled) (hright : Within dialect others left right)
    (hothers : operator.operatorClass = .nullCheck → others) :
    Within dialect (plain ∧ others) (ofCondition operator derived left)
      (ofCondition operator compiled right) := by
  unfold Piece.ofCondition
  cases hclass : operator.operatorClass with
  | nullCheck => exact (h.before _).imp fun hplain => ⟨hplain, hothers hclass⟩
  | comparison => exact (h.before _).append hright
  | membership => exact (h.before _).append hright
  | pattern => exact ((h.before _).append hright).before _

end Within

section Derived

variable {dialect : Dialect}

theorem Grammar.Right.plain_of_nullCheck {operator : Operator} {value : Option Operand}
    {pieces : List Piece} (h : Right operator value pieces)
    (hclass : operator.operatorClass = .nullCheck) :
    ∀ site ∈ rightEmbeddings value, site.Plain := by
  intro site hsite
  cases h with
  | absent => cases hsite
  | literal => cases hsite
  | subquery _ hasked => exact absurd hclass hasked

mutual

theorem Grammar.Query.within : ∀ {query : Select} {pieces : List Piece}, Query query pieces →
    Within dialect (∀ site ∈ query.embeddings, site.Plain) pieces query.pieces
  | _, _, .select listed read restricted => by
    have hitems := (listed.within.intercalate [.text ", "]).behind [.text "select "]
    have hsource := (hitems.before [.text " from "]).append read.within
    have hclauses := hsource.append restricted.within
    rw [Select.embeddings, List.forall_mem_append, List.forall_mem_append, Select.pieces]
    exact (hclauses.before _).before _

theorem Grammar.Items.within : ∀ {fields : List Field} {items : List (List Piece)},
    Items fields items →
      WithinEach dialect (∀ site ∈ fieldEmbeddings fields, site.Plain) items (fieldPieces fields)
  | _, _, .nil => .nil nofun
  | _, _, .cons first others => by
    rw [fieldEmbeddings, List.forall_mem_append]
    exact .cons first.within others.within

theorem Grammar.Item.within : ∀ {field : Field} {item : List Piece}, Item field item →
    Within dialect (∀ site ∈ field.embeddings (.source field.aliasName), site.Plain) item
      (renamed field.aliasName field.pieces)
  | _, _, .column table name aliasName => .same nofun _
  | _, _, .subquery inside shown => by
    rw [Field.aliasName, renamed_of_closes ⟨_, shown, rfl⟩]
    exact inside.within.embedded.before _

theorem Grammar.Source.within : ∀ {table : Table} {source : List Piece}, Source table source →
    Within dialect (∀ site ∈ table.embeddings, site.Plain) source
      (renamed table.aliasName table.pieces)
  | _, _, .named name aliasName => .same nofun _
  | _, _, .subquery inside shown => by
    rw [Table.aliasName, renamed_of_closes ⟨_, shown, rfl⟩]
    exact inside.within.embedded.before _

theorem Grammar.Left.within : ∀ {field : Field} {left : List Piece}, Left field left →
    Within dialect (∀ site ∈ field.embeddings .side, site.Plain) left field.pieces
  | _, _, .column table name aliasName => .same nofun _
  | _, _, .subquery aliasName inside => inside.within.embedded

theorem Grammar.Right.within : ∀ {operator : Operator} {value : Option Operand}
    {right : List Piece}, Right operator value right →
      Within dialect (∀ site ∈ rightEmbeddings value, site.Plain) right
        (operandPieces operator value)
  | _, _, _, .absent operator => .same nofun []
  | _, _, _, .literal operator literal => .same nofun _
  | _, _, _, .subquery inside _ => inside.within.embedded

theorem Grammar.Condition.within : ∀ {root : Bool} {filter : Filter} {pieces : List Piece},
    Condition root filter pieces →
      Within dialect (∀ site ∈ filter.embeddings, site.Plain) pieces (filter.pieces root)
  | _, _, _, .compared root onLeft onRight => by
    rw [Filter.embeddings, childEmbeddings, List.append_nil, List.forall_mem_append]
    exact onLeft.within.ofCondition onRight.within onRight.plain_of_nullCheck
  | _, _, _, .joined root logic nothing children => by
    rw [Filter.embeddings, leftEmbeddings, rightEmbeddings_of_null nothing]
    exact children.within.joined (some logic) root

theorem Grammar.Conditions.within : ∀ {filters : List (Option Filter)}
    {parts : List (List Piece)}, Conditions filters parts →
      WithinEach dialect (∀ site ∈ childEmbeddings filters, site.Plain) parts (childPieces filters)
  | _, _, .nil => .nil nofun
  | _, _, .absent others => others.within
  | _, _, .present first others => by
    rw [childEmbeddings, List.forall_mem_append]
    exact .cons first.within others.within

theorem Grammar.Where.within : ∀ {filter : Option Filter} {restriction : List Piece},
    Where filter restriction →
      Within dialect (∀ site ∈ whereEmbeddings filter, site.Plain) restriction (wherePieces filter)
  | _, _, .absent => .same nofun []
  | _, _, .present condition => condition.within.ofWhere

end

theorem Grammar.Statement.within {statement : QueryTree.Statement} {pieces : List Piece}
    (h : Grammar.Statement statement pieces) :
    Within dialect (∀ site ∈ statement.embeddings, site.Plain) pieces statement.pieces := by
  cases h with
  | select derived => exact derived.within
  | insert query => exact .same nofun _
  | update restricted => exact restricted.within.behind _
  | delete restricted => exact restricted.within.behind _

end Derived

/-- In the text of a statement each select that stands inside of it has its parentheses, with its
own text between them and behind them the alias of the field or table that it is. The text is
derived from the statement exactly if none of these selects has an alias of its own. -/
theorem compile_brackets_selects (context : Context) (statement : Statement) (compiled : Compiled)
    (h : statement.compile context = .ok compiled) :
    (∀ site ∈ statement.embeddings, site.StandsIn context compiled.sql) ∧
      ((∃ pieces, Grammar.Statement statement pieces ∧
          compiled.sql = fill context.dialect 0 pieces) ↔
        ∀ site ∈ statement.embeddings, site.Plain) := by
  rw [statement.compile_eq, map_eq_ok] at h
  obtain ⟨_, haccept, rfl⟩ := h
  refine ⟨fun site hsite => (statement.found haccept site hsite).standsIn #[], ?_⟩
  constructor
  · rintro ⟨pieces, hderived, hsql⟩
    exact hderived.within.of_eq 0 (congrArg String.length hsql.symm)
  · intro hplain
    exact ⟨statement.pieces, statement.derives haccept hplain, rfl⟩

/-- A field, a table and the right side of a condition, none of which has an alias of its own. -/
theorem reachableBuyers_brackets :
    ∃ compiled pieces,
      Statement.compile ⟨.postgres, 0, ⟨3, some 10⟩⟩ (.select reachableBuyers) = .ok compiled ∧
        reachableBuyers.embeddings.length = 3 ∧
        Grammar.Statement (.select reachableBuyers) pieces ∧
        compiled.sql = fill .postgres 0 pieces := by
  have hcompile : Statement.compile ⟨.postgres, 0, ⟨3, some 10⟩⟩ (.select reachableBuyers) =
      .ok (.ofPieces .postgres #[] reachableBuyers.pieces) := by
    rw [Statement.compile_eq]
    rfl
  have hplain : ∀ site ∈ reachableBuyers.embeddings, site.Plain := by decide
  obtain ⟨pieces, hderived, hsql⟩ :=
    (compile_brackets_selects _ _ _ hcompile).2.mpr hplain
  exact ⟨_, pieces, hcompile, by decide, hderived, hsql⟩

/-- A select with an alias of its own gets a second pair of parentheses around it. -/
theorem derivation_lacks_own_alias :
    ¬ ∀ (context : Context) (statement : Statement) (compiled : Compiled),
      statement.compile context = .ok compiled →
        ∃ pieces, Grammar.Statement statement pieces ∧
          compiled.sql = fill context.dialect 0 pieces := by
  intro h
  let inner := ((Select.ofFields [.ofColumn "id"]).fromTable (.ofName "t")).withAlias (some "s")
  let outer := (Select.ofFields [.subquery inner (some "x")]).fromTable (.ofName "u")
  have hcompile : Statement.compile ⟨.postgres, 0, {}⟩ (.select outer) =
      .ok (.ofPieces .postgres #[] outer.pieces) := by
    rw [Statement.compile_eq]
    rfl
  obtain ⟨pieces, hderived, hsql⟩ := h _ _ _ hcompile
  have hplain := hderived.within.of_eq 0 (congrArg String.length hsql.symm)
  exact absurd hplain (by decide)

end QueryTree
