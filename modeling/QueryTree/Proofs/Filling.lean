import QueryTree.Proofs.Outcome
import QueryTree.Proofs.Rendering

/-!
Filled renderings. What the compiler does to texts and arguments (parentheses, aliases, conditions,
joined children, the clauses of a statement) is the filling of what a rendering does to pieces. No
statement here is about compiling a tree: each takes renderings and says how their filling looks.
-/

namespace QueryTree

open Piece

/-- The filling of a rendering after some arguments, with its own literals bound behind them. -/
def Compiled.ofPieces (dialect : Dialect) (args : Array Value) (pieces : List Piece) : Compiled :=
  ⟨fill dialect args.size pieces, args ++ slots pieces⟩

section Texts

variable (dialect : Dialect) (args : Array Value)

@[simp] theorem size_append_values (values : List Value) :
    (args ++ values).size = args.size + values.length := by
  rw [← Array.length_toList]
  simp

theorem append_values_append (left right : List Value) :
    args ++ left ++ right = args ++ (left ++ right) :=
  Array.ext' (by simp)

theorem push_eq_append (literal : Value) : args.push literal = args ++ [literal] :=
  Array.ext' (by simp)

theorem slots_grouped (pieces : List Piece) : slots (grouped pieces) = slots pieces := by
  simp [grouped]

theorem fill_grouped (count : Nat) (pieces : List Piece) :
    fill dialect count (grouped pieces) = "(" ++ fill dialect count pieces ++ ")" := by
  simp [grouped, fill, fill_append, String.append_assoc]

theorem slots_renamed (aliasName : Option String) (pieces : List Piece) :
    slots (renamed aliasName pieces) = slots pieces := by
  unfold renamed
  split <;> simp

theorem ofPieces_grouped (pieces : List Piece) :
    Compiled.ofPieces dialect args (grouped pieces) =
      (Compiled.ofPieces dialect args pieces).parenthesized := by
  simp [Compiled.ofPieces, Compiled.parenthesized, slots_grouped, fill_grouped]

theorem ofPieces_renamed (aliasName : Option String) (pieces : List Piece) :
    Compiled.ofPieces dialect args (renamed aliasName pieces) =
      (Compiled.ofPieces dialect args pieces).named aliasName := by
  unfold renamed Compiled.named
  cases shownAlias aliasName with
  | none => rfl
  | some name => simp [Compiled.ofPieces, fill_append, fill, String.append_assoc]

theorem ofPieces_embedded (aliasName : Option String) (pieces : List Piece) :
    Compiled.ofPieces dialect args (embedded aliasName pieces) =
      ((Compiled.ofPieces dialect args pieces).namedQuery aliasName).parenthesized := by
  unfold embedded Compiled.namedQuery
  cases shownAlias aliasName with
  | none => exact ofPieces_grouped dialect args pieces
  | some name =>
    rw [ofPieces_grouped, ofPieces_renamed, ofPieces_grouped]

/-- A limit is bound after everything else. -/
theorem ofPieces_ofTake (take : UInt64) (pieces : List Piece) :
    Compiled.ofPieces dialect args (pieces ++ ofTake take) =
      (Compiled.ofPieces dialect args pieces).limitedTo dialect take := by
  unfold ofTake Compiled.limitedTo
  by_cases h : take = 0
  · simp [h]
  · have hargs : args ++ (slots pieces ++ [.uint take]) =
        (args ++ slots pieces).push (.uint take) := by
      rw [push_eq_append, append_values_append]
    simp [h, Compiled.ofPieces, fill_append, fill, hargs, lastPlaceholder_eq_mark,
      String.append_assoc]

end Texts

section Children

theorem fill_ne_empty {dialect : Dialect} {count : Nat} {pieces : List Piece} {s : String}
    (hs : s ≠ "") (hmem : .text s ∈ pieces) : fill dialect count pieces ≠ "" := by
  induction pieces generalizing count with
  | nil => simp at hmem
  | cons piece rest ih =>
    cases piece with
    | text t =>
      rcases List.mem_cons.mp hmem with heq | hrest
      · cases heq
        simp [fill, hs]
      · simp [fill, ih hrest]
    | slot literal =>
      have hrest : .text s ∈ rest := by simpa using hmem
      simp [fill, ih hrest]
    | like negated =>
      have hrest : .text s ∈ rest := by simpa using hmem
      simp [fill, ih hrest]

theorem ofCondition_visible (operator : Operator) (left right : List Piece) :
    ∃ s, s ≠ "" ∧ Piece.text s ∈ ofCondition operator left right := by
  unfold ofCondition
  cases operator.operatorClass with
  | comparison => exact ⟨" " ++ operator.symbol ++ " ", by simp, by simp⟩
  | nullCheck => exact ⟨" " ++ operator.symbol, by simp, by simp⟩
  | membership => exact ⟨" " ++ operator.symbol ++ " ", by simp, by simp⟩
  | pattern => exact ⟨" ", by simp, by simp⟩

theorem mem_childPieces {filters : List (Option Filter)} {part : List Piece}
    (h : part ∈ childPieces filters) :
    ∃ child, some child ∈ filters ∧ part = child.pieces false := by
  induction filters with
  | nil => simp [childPieces] at h
  | cons entry rest ih =>
    cases entry with
    | none =>
      obtain ⟨child, hchild, hpart⟩ := ih (by simpa [childPieces] using h)
      exact ⟨child, List.mem_cons_of_mem _ hchild, hpart⟩
    | some child =>
      rw [childPieces] at h
      rcases List.mem_cons.mp h with hpart | hrest
      · exact ⟨child, by simp, hpart⟩
      · obtain ⟨other, hother, hpart⟩ := ih hrest
        exact ⟨other, List.mem_cons_of_mem _ hother, hpart⟩

/-- What a child renders is either nothing at all or shows in the text. -/
theorem Filter.pieces_child_visible (filter : Filter) (h : filter.pieces false ≠ []) :
    ∃ s, s ≠ "" ∧ Piece.text s ∈ filter.pieces false := by
  obtain ⟨logic, field, operator, value, filters⟩ := filter
  cases operator with
  | none =>
    have hjoined : joined logic false (childPieces filters) ≠ [] := by simpa [pieces] using h
    refine ⟨"(", by decide, ?_⟩
    rw [pieces]
    unfold joined at hjoined ⊢
    split
    · simp_all
    · simp [grouped]
  | some operator =>
    cases field with
    | none => simp [pieces] at h
    | some field => exact ofCondition_visible operator _ _

theorem fill_child_ne_empty {filters : List (Option Filter)} {part : List Piece}
    (hmem : part ∈ childPieces filters) (hpart : part ≠ []) (dialect : Dialect) (count : Nat) :
    fill dialect count part ≠ "" := by
  obtain ⟨child, -, rfl⟩ := mem_childPieces hmem
  obtain ⟨s, hs, htext⟩ := child.pieces_child_visible hpart
  exact fill_ne_empty hs htext

/-- The texts that are not empty are those of the renderings that are not. -/
theorem filter_fillEach (dialect : Dialect) (count : Nat) (parts : List (List Piece))
    (h : ∀ part ∈ parts, part ≠ [] → ∀ count, fill dialect count part ≠ "") :
    (fillEach dialect count parts).filter (fun text => !text.isEmpty) =
      fillEach dialect count (parts.filter fun part => !part.isEmpty) := by
  induction parts generalizing count with
  | nil => rfl
  | cons part rest ih =>
    have hrest := ih (count + (slots part).length)
      fun other hother => h other (List.mem_cons_of_mem _ hother)
    cases part with
    | nil => simpa [fillEach, fill] using hrest
    | cons piece part =>
      have hfill := h (piece :: part) (by simp) (by simp) count
      simp [fillEach, hfill, hrest]

theorem fill_joined (dialect : Dialect) (count : Nat) (logic : Option Logic) (root : Bool)
    (parts : List (List Piece))
    (h : ∀ part ∈ parts, part ≠ [] → ∀ count, fill dialect count part ≠ "") :
    fill dialect count (joined logic root parts) =
      joinChildren logic root (fillEach dialect count parts) := by
  unfold joined joinChildren
  rw [filter_fillEach dialect count parts h]
  cases hparts : parts.filter (fun part => !part.isEmpty) with
  | nil => rfl
  | cons part rest =>
    cases root with
    | true => simp [fillEach, fill_intercalate]
    | false => simp [fillEach, fill_intercalate, fill_grouped]

theorem slots_joined (logic : Option Logic) (root : Bool) (parts : List (List Piece)) :
    slots (joined logic root parts) = parts.flatMap slots := by
  unfold joined
  rw [← flatMap_filter_nonempty slots_nil parts]
  cases parts.filter (fun part => !part.isEmpty) with
  | nil => rfl
  | cons part rest =>
    cases root with
    | true => simp [slots_intercalate]
    | false => simp [slots_grouped, slots_intercalate]

end Children

section Conditions

variable (dialect : Dialect) (args : Array Value) {operator : Operator} (left right : List Piece)

theorem ofPieces_nullCheck (h : operator.operatorClass = .nullCheck) :
    Compiled.ofPieces dialect args (ofCondition operator left right) =
      ⟨fill dialect args.size left ++ " " ++ operator.symbol, args ++ slots left⟩ := by
  simp [Compiled.ofPieces, ofCondition, h, fill, fill_append, String.append_assoc]

theorem ofPieces_comparison (h : operator.operatorClass = .comparison) :
    Compiled.ofPieces dialect args (ofCondition operator left right) =
      ⟨fill dialect args.size left ++ " " ++ operator.symbol ++ " "
          ++ fill dialect (args ++ slots left).size right,
        args ++ slots left ++ slots right⟩ := by
  simp [Compiled.ofPieces, ofCondition, h, fill, fill_append, String.append_assoc,
    append_values_append]

theorem ofPieces_membership (h : operator.operatorClass = .membership) :
    Compiled.ofPieces dialect args (ofCondition operator left right) =
      ⟨fill dialect args.size left ++ " " ++ operator.symbol ++ " "
          ++ fill dialect (args ++ slots left).size right,
        args ++ slots left ++ slots right⟩ := by
  simp [Compiled.ofPieces, ofCondition, h, fill, fill_append, String.append_assoc,
    append_values_append]

theorem ofPieces_pattern (h : operator.operatorClass = .pattern) :
    Compiled.ofPieces dialect args (ofCondition operator left right) =
      ⟨fill dialect args.size left ++ " " ++ dialect.likeKeyword (operator == .notLike)
          ++ " concat('%', " ++ fill dialect (args ++ slots left).size right ++ ", '%')",
        args ++ slots left ++ slots right⟩ := by
  simp [Compiled.ofPieces, ofCondition, h, fill, fill_append, String.append_assoc,
    append_values_append]

end Conditions

/-- What a list of elements leaves in a condition: its marks in parentheses. -/
theorem fill_ofLiteral_list (dialect : Dialect) (count : Nat) {operator : Operator}
    (h : operator.operatorClass = .membership) (items : List Value) :
    fill dialect count (ofLiteral operator (.list items)) =
      "(" ++ dialect.placeholder (count + 1) (count + items.length) ++ ")" := by
  simp only [ofLiteral, h]
  rw [fill_grouped, placeholder_eq_fill]

theorem slots_ofLiteral_list {operator : Operator} (h : operator.operatorClass = .membership)
    (items : List Value) : slots (ofLiteral operator (.list items)) = items := by
  simp only [ofLiteral, h]
  rw [slots_grouped, slots_commaSeparated, flatMap_slots_map_slot]

theorem ofLiteral_single {operator : Operator} (h : operator.operatorClass ≠ .membership)
    (literal : Value) : ofLiteral operator literal = [.slot literal] := by
  unfold ofLiteral
  split <;> simp_all

/-- Sort keys bind nothing, so their texts are known if each of them has a name. -/
theorem sortTexts_eq_keyTexts {sorts : List (Option SortKey)} {texts : List String}
    (h : sortTexts sorts = .ok texts) : texts = keyTexts sorts := by
  induction sorts generalizing texts with
  | nil => exact (Except.ok.inj h).symm
  | cons entry rest ih =>
    cases entry with
    | none => exact ih h
    | some key =>
      simp only [sortTexts, SortKey.sql, bind_eq_ok] at h
      obtain ⟨text, ⟨_, -, htext⟩, others, hothers, hcons⟩ := h
      cases htext
      cases hcons
      simp [ih hothers, keyTexts, SortKey.text]

section Clauses

variable (dialect : Dialect)

/-- The outermost logic has no parentheses, and yet it shows in the text if it renders anything. -/
theorem Filter.fill_root_ne_empty (filter : Filter) (h : filter.pieces true ≠ []) (count : Nat) :
    fill dialect count (filter.pieces true) ≠ "" := by
  obtain ⟨logic, field, operator, value, filters⟩ := filter
  cases operator with
  | none =>
    rw [pieces] at h ⊢
    unfold joined at h ⊢
    cases hparts : (childPieces filters).filter (fun part => !part.isEmpty) with
    | nil => simp [hparts] at h
    | cons part rest =>
      have hmem : part ∈ (childPieces filters).filter (fun part => !part.isEmpty) := by
        simp [hparts]
      obtain ⟨hpart, hne⟩ := List.mem_filter.mp hmem
      obtain ⟨child, -, rfl⟩ := mem_childPieces hpart
      obtain ⟨s, hs, htext⟩ := child.pieces_child_visible (by simpa using hne)
      refine fill_ne_empty hs ?_
      cases rest with
      | nil => simpa using htext
      | cons next rest => simp [htext]
  | some operator =>
    cases field with
    | none => simp [pieces] at h
    | some field =>
      rw [pieces]
      obtain ⟨s, hs, htext⟩ :=
        ofCondition_visible operator field.pieces (operandPieces operator value)
      exact fill_ne_empty hs htext

theorem slots_ofWhere (condition : List Piece) : slots (ofWhere condition) = slots condition := by
  unfold ofWhere
  cases condition <;> simp

theorem fill_ofWhere (count : Nat) (condition : List Piece)
    (h : condition ≠ [] → fill dialect count condition ≠ "") :
    fill dialect count (ofWhere condition) =
      if (fill dialect count condition).isEmpty then ""
      else " where " ++ fill dialect count condition := by
  unfold ofWhere
  cases condition with
  | nil => rfl
  | cons piece rest =>
    have hne := h (by simp)
    simp [hne, fill]

theorem fill_ofSorts (count : Nat) (keys : List String) :
    fill dialect count (ofSorts keys) =
      if keys.isEmpty then "" else " order by " ++ ", ".intercalate keys := by
  unfold ofSorts
  split <;> simp [fill]

theorem slots_ofSorts (keys : List String) : slots (ofSorts keys) = [] := by
  unfold ofSorts
  split <;> rfl

theorem ofPieces_clauses (args : Array Value) (columns : List (List Piece))
    (source condition : List Piece) (keys : List String) (take : UInt64)
    (h : condition ≠ [] → ∀ count, fill dialect count condition ≠ "") :
    Compiled.ofPieces dialect args
        ([.text "select "] ++ commaSeparated columns ++ [.text " from "] ++ source
          ++ ofWhere condition ++ ofSorts keys ++ ofTake take) =
      Compiled.limitedTo dialect take
        ⟨selectText (fillEach dialect args.size columns)
            (fill dialect (args ++ columns.flatMap slots).size source)
            (fill dialect (args ++ columns.flatMap slots ++ slots source).size condition) keys,
          args ++ columns.flatMap slots ++ slots source ++ slots condition⟩ := by
  rw [ofPieces_ofTake]
  congr 1
  simp [Compiled.ofPieces, selectText, fill_append, fill, fill_commaSeparated, fill_ofSorts,
    fill_ofWhere _ _ _ (fun hne => h hne _), slots_ofWhere, slots_ofSorts, append_values_append,
    String.append_assoc, Nat.add_assoc]

end Clauses

end QueryTree
