import QueryTree.Proofs.Conditions
import QueryTree.Proofs.Literals

/-!
The nodes that compilation visits in a validated filter. Validation and compilation are two passes
that ask for different things: the one looks at the logic of a node, the other at its operator. What
the first pass finds is carried to every node of the second one. There it leaves no case in which
the compiler would choose a logic, write no mark or refuse a condition by itself: all that can still
fail is what it calls.
-/

namespace QueryTree

section Marks

theorem Dialect.mark_ne_empty (dialect : Dialect) (n : Nat) : dialect.mark n ≠ "" := by
  cases dialect with
  | mysql => simp [mark]
  | postgres => simp [mark]

/-- A range that starts at one or later and does not end before has a text. -/
theorem Dialect.placeholder_ne_empty (dialect : Dialect) {first last : Nat} (hfirst : 1 ≤ first)
    (hlast : first ≤ last) : dialect.placeholder first last ≠ "" := by
  unfold placeholder
  rw [if_neg (by omega), List.range'_succ, List.map_cons]
  have hmark := dialect.mark_ne_empty first
  cases (List.range' (first + 1) (last - first)).map dialect.mark with
  | nil => simpa using hmark
  | cons second rest => simp [String.intercalate_cons_cons, hmark]

/-- The text marks the values that were bound last, up to the end of the arguments. -/
def Dialect.MarksLast (dialect : Dialect) (args : Array Value) (own : List Value) (marks : String) :
    Prop :=
  ∃ first last, 1 ≤ first ∧ first ≤ last ∧ last = (args ++ own).size ∧
    first + own.length = last + 1 ∧ marks = dialect.placeholder first last ∧ marks ≠ ""

theorem Dialect.marksLast_of_ne_nil (dialect : Dialect) (args : Array Value) {own : List Value}
    (h : own ≠ []) :
    dialect.MarksLast args own
      (dialect.placeholder ((args ++ own).size + 1 - own.length) (args ++ own).size) := by
  have hsize := size_append_values args own
  have hlength : 0 < own.length := List.length_pos_of_ne_nil h
  have hfirst : 1 ≤ (args ++ own).size + 1 - own.length := by omega
  have hlast : (args ++ own).size + 1 - own.length ≤ (args ++ own).size := by omega
  have hcount : (args ++ own).size + 1 - own.length + own.length = (args ++ own).size + 1 := by
    omega
  exact ⟨_, _, hfirst, hlast, rfl, hcount, rfl, dialect.placeholder_ne_empty hfirst hlast⟩

theorem Value.scalarElements_of_forall {items : List Value}
    (h : ∀ item ∈ items, item.kind.isScalar = true) :
    (Value.list items).scalarElements = .ok items := by
  have hfind : items.find? (fun item => !item.kind.isScalar) = none := by
    simpa using h
  rw [scalarElements, hfind]

theorem Value.literals_of_isScalar {literal : Value} (h : literal.kind.isScalar = true) :
    literal.literals = [literal] := by
  cases literal <;> first | rfl | cases h

end Marks

namespace Operator

/-- The marks of a value as they stand on the right of the operator. -/
def listed (operator : Operator) (marks : String) : String :=
  if operator.operatorClass = .membership then "(" ++ marks ++ ")" else marks

/-- The text of a condition between its two sides. -/
def conditionText (operator : Operator) (dialect : Dialect) (left right : String) : String :=
  match operator.operatorClass with
  | .nullCheck => left ++ " " ++ operator.symbol
  | .comparison | .membership => left ++ " " ++ operator.symbol ++ " " ++ right
  | .pattern =>
    left ++ " " ++ dialect.likeKeyword (operator == .notLike)
      ++ " concat('%', " ++ right ++ ", '%')"

end Operator

/-- What the right side of a validated condition compiles to behind some arguments. A value that is
no sub-query always compiles, and then all that it binds is marked. -/
inductive RightSide (context : Context) (operator : Operator) (args : Array Value) :
    Option Operand → Except QueryError Compiled → Prop
  | absent {value : Option Operand} (nullCheck : operator.operatorClass = .nullCheck)
      (isNull : ∀ operand, value = some operand → operand.isNull = true) :
      RightSide context operator args value (.ok ⟨"", args⟩)
  | literal {literal : Value} {marks : String}
      (marked : context.dialect.MarksLast args literal.literals marks) :
      RightSide context operator args (some (.value literal))
        (.ok ⟨operator.listed marks, args ++ literal.literals⟩)
  | query (query : Select) :
      RightSide context operator args (some (.subquery query))
        ((Operand.subquery query).compile context args)

theorem RightSide.eq_error_iff {context : Context} {operator : Operator} {args : Array Value}
    {value : Option Operand} {right : Except QueryError Compiled} {error : QueryError}
    (h : RightSide context operator args value right) :
    right = .error error ↔ ∃ query, value = some (.subquery query) ∧
      (Operand.subquery query).compile context args = .error error := by
  cases h with
  | absent nullCheck isNull =>
    constructor
    · nofun
    · rintro ⟨query, hvalue, -⟩
      cases isNull _ hvalue
  | literal marked =>
    constructor
    · nofun
    · rintro ⟨query, hvalue, -⟩
      cases hvalue
  | query query =>
    constructor
    · intro herror
      exact ⟨query, rfl, herror⟩
    · rintro ⟨other, hvalue, herror⟩
      cases hvalue
      exact herror

/-- Children that compile leave the rest to be compiled behind them. -/
theorem compileChildren_append {context : Context} {filters : List (Option Filter)}
    {args bound : Array Value} {texts : List String}
    (h : compileChildren context filters args = .ok (texts, bound))
    (others : List (Option Filter)) :
    compileChildren context (filters ++ others) args =
      (compileChildren context others bound).map fun written =>
        (texts ++ written.1, written.2) := by
  induction filters generalizing args texts with
  | nil =>
    cases h
    rw [List.nil_append]
    cases compileChildren context others bound with
    | error error => rfl
    | ok written => rfl
  | cons entry rest ih =>
    cases entry with
    | none => exact ih h
    | some child =>
      rw [compileChildren, bind_eq_ok] at h
      obtain ⟨compiled, hchild, h⟩ := h
      rw [bind_eq_ok] at h
      obtain ⟨⟨more, all⟩, hrest, heq⟩ := h
      cases heq
      rw [List.cons_append, compileChildren, hchild, ok_bind, ih hrest]
      cases compileChildren context others bound with
      | error error => rfl
      | ok written => rfl

/-- Children are refused as the first of them that is, behind those before it. -/
theorem compileChildren_eq_error_iff {context : Context} {filters : List (Option Filter)}
    {args : Array Value} {error : QueryError} :
    compileChildren context filters args = .error error ↔
      ∃ before child after texts bound, filters = before ++ some child :: after ∧
        compileChildren context before args = .ok (texts, bound) ∧
        child.compileNode context false bound = .error error := by
  constructor
  · intro h
    induction filters generalizing args with
    | nil => cases h
    | cons entry rest ih =>
      cases entry with
      | none =>
        obtain ⟨before, child, after, texts, bound, hplace, hdone, hchild⟩ := ih h
        exact ⟨none :: before, child, after, texts, bound, by rw [hplace, List.cons_append], hdone,
          hchild⟩
      | some first =>
        rw [compileChildren, bind_eq_error] at h
        rcases h with hfirst | ⟨compiled, hfirst, hrest⟩
        · exact ⟨[], first, rest, [], args, rfl, rfl, hfirst⟩
        · rw [bind_eq_error] at hrest
          obtain hrest | ⟨written, -, hwritten⟩ := hrest
          · obtain ⟨before, child, after, texts, bound, hplace, hdone, hchild⟩ := ih hrest
            refine ⟨some first :: before, child, after, compiled.sql :: texts, bound, ?_, ?_,
              hchild⟩
            · rw [hplace, List.cons_append]
            · rw [compileChildren, hfirst, ok_bind, hdone, ok_bind]
          · cases hwritten
  · rintro ⟨before, child, after, texts, bound, rfl, hdone, hchild⟩
    rw [compileChildren_append hdone, compileChildren, hchild, error_bind, map_error]

namespace Filter

/-- The nodes that compilation visits, each with the context in which it is visited. -/
inductive Reaches : Context → Filter → Context → Filter → Prop
  | root (context : Context) (filter : Filter) : Reaches context filter context filter
  | child {context inner below : Context} {filter child node : Filter}
      (descend : context.descend = .ok inner) (mem : some child ∈ filter.filters)
      (reaches : Reaches inner child below node) : Reaches context filter below node

/-- Why a filter is refused other than by the compiler of filters itself: there is no level for its
children, a child is, its field is, or the sub-query on its right is. -/
inductive RefusedOutside : Context → Filter → Array Value → QueryError → Prop
  | level {context : Context} {filter : Filter} {args : Array Value} {error : QueryError}
      (logic : filter.operator = none) (refused : context.descend = .error error) :
      RefusedOutside context filter args error
  | child {context inner : Context} {filter child : Filter} {args bound : Array Value}
      {error : QueryError} {before after : List (Option Filter)} {texts : List String}
      (logic : filter.operator = none) (descend : context.descend = .ok inner)
      (place : filter.filters = before ++ some child :: after)
      (done : compileChildren inner before args = .ok (texts, bound))
      (refused : RefusedOutside inner child bound error) : RefusedOutside context filter args error
  | field {context : Context} {filter : Filter} {args : Array Value} {error : QueryError}
      {field : Field} {operator : Operator} (left : filter.field = some field)
      (condition : filter.operator = some operator)
      (refused : field.compile context args = .error error) :
      RefusedOutside context filter args error
  | query {context : Context} {filter : Filter} {args : Array Value} {error : QueryError}
      {field : Field} {operator : Operator} {column : Compiled} {query : Select}
      (left : filter.field = some field) (condition : filter.operator = some operator)
      (written : field.compile context args = .ok column)
      (right : filter.value = some (.subquery query))
      (refused : (Operand.subquery query).compile context column.args = .error error) :
      RefusedOutside context filter args error

/-- What is known of a node when the compiler visits it. It is a logic or a condition, and not both.
A logic joins its children by its own keyword. The list of a condition has elements, and all of them
are scalars. A condition is written with all that its right side binds marked. A node is refused
only from outside. -/
structure Settled (context : Context) (node : Filter) : Prop where
  shape : node.IsLogic ∨ ∃ field operator, node.IsCondition field operator
  joined : node.operator = none → ∃ logic, node.logic = some logic ∧
    ∀ root args inner texts bound, context.descend = .ok inner →
      compileChildren inner node.filters args = .ok (texts, bound) →
        node.compileNode context root args = .ok ⟨joinChildren (some logic) root texts, bound⟩
  members : ∀ operator literal, node.operator = some operator →
    operator.operatorClass = .membership → node.value = some (.value literal) →
      ∃ items, literal.scalarElements = .ok items ∧ items ≠ []
  written : ∀ field operator root args column, node.field = some field →
    node.operator = some operator → field.compile context args = .ok column →
      ∃ right, RightSide context operator column.args node.value right ∧
        node.compileNode context root args = right.map fun right =>
          ⟨operator.conditionText context.dialect column.sql right.sql, right.args⟩
  refused : ∀ root args error,
    node.compileNode context root args = .error error ↔ node.RefusedOutside context args error

variable {context : Context} {node : Filter}

/-- The list of a condition has elements, and all of them are scalars. -/
theorem IsCondition.members {field : Field} {operator : Operator} {literal : Value}
    (h : node.IsCondition field operator) (hclass : operator.operatorClass = .membership)
    (hvalue : node.value = some (.value literal)) :
    ∃ items, literal.scalarElements = .ok items ∧ items ≠ [] := by
  have hpresent : operator.operatorClass ≠ .nullCheck := by simp [hclass]
  rcases h.value with ⟨hnull, -⟩ | ⟨-, ⟨query, hquery⟩ | ⟨other, hother, -, hcheck⟩⟩
  · exact absurd hnull hpresent
  · rw [hvalue] at hquery
    cases hquery
  · rw [hvalue] at hother
    cases hother
    rcases Operator.fits_of_checkValue hcheck hpresent with
      ⟨hsingle, -⟩ | ⟨-, items, rfl, hitems, hscalars⟩
    · exact absurd hclass hsingle
    · exact ⟨items, Value.scalarElements_of_forall hscalars, hitems⟩

theorem IsLogic.compileNode_eq (h : node.IsLogic) {root : Bool} {args bound : Array Value}
    {inner : Context} {texts : List String} (hinner : context.descend = .ok inner)
    (hchildren : compileChildren inner node.filters args = .ok (texts, bound)) :
    node.compileNode context root args = .ok ⟨joinChildren node.logic root texts, bound⟩ := by
  have hfilters := h.filters
  obtain ⟨logic, field, operator, value, filters⟩ := node
  cases h.operator
  rw [compileNode, if_neg (by simpa using hfilters), hinner, ok_bind, hchildren, ok_bind]

section Condition

variable {logic : Option Logic} {field : Field} {operator : Operator}
  {filters : List (Option Filter)} {args : Array Value} {column : Compiled}

/-- A sub-query on the right is written where the compiler of sub-queries leaves it. -/
theorem compileNode_query (hfield : field.compile context args = .ok column)
    (hclass : operator.operatorClass ≠ .nullCheck) (root : Bool) (query : Select) :
    compileNode context root ⟨logic, some field, some operator, some (.subquery query), filters⟩
        args =
      ((Operand.subquery query).compile context column.args).map fun right =>
        ⟨operator.conditionText context.dialect column.sql right.sql, right.args⟩ := by
  rw [compileNode, hfield, ok_bind]
  cases hop : operator.operatorClass with
  | nullCheck => exact absurd hop hclass
  | comparison =>
    simp only [Operator.conditionText, hop, Operand.text]
    cases (Operand.subquery query).compile context column.args <;> rfl
  | pattern =>
    simp only [Operator.conditionText, hop, Operand.text]
    cases (Operand.subquery query).compile context column.args <;> rfl
  | membership =>
    simp only [Operator.conditionText, hop, Operand.members?_query, ok_bind]
    cases (Operand.subquery query).compile context column.args <;> rfl

/-- A single value is bound as it stands, and its mark is the last one. -/
theorem compileNode_single (hfield : field.compile context args = .ok column)
    (hclass : operator.operatorClass ≠ .nullCheck) (hsingle : operator.operatorClass ≠ .membership)
    (root : Bool) (literal : Value) :
    compileNode context root ⟨logic, some field, some operator, some (.value literal), filters⟩
        args =
      .ok ⟨operator.conditionText context.dialect column.sql
          (operator.listed (context.dialect.lastPlaceholder (column.args.push literal).size)),
        column.args.push literal⟩ := by
  rw [compileNode, hfield, ok_bind]
  cases hop : operator.operatorClass with
  | nullCheck => exact absurd hop hclass
  | comparison =>
    simp only [Operand.compile, Operand.text, ok_bind, Operator.conditionText, Operator.listed, hop,
      reduceCtorEq, if_false]
  | pattern =>
    simp only [Operand.compile, Operand.text, ok_bind, Operator.conditionText, Operator.listed, hop,
      reduceCtorEq, if_false]
  | membership => exact absurd hop hsingle

/-- A list of scalars is bound element by element, and its marks are the last ones. -/
theorem compileNode_members (hfield : field.compile context args = .ok column)
    (hclass : operator.operatorClass = .membership) {items : List Value}
    (hscalars : ∀ item ∈ items, item.kind.isScalar = true) (root : Bool) :
    compileNode context root
        ⟨logic, some field, some operator, some (.value (.list items)), filters⟩ args =
      .ok ⟨operator.conditionText context.dialect column.sql
          (operator.listed (context.dialect.placeholder
            ((column.args ++ items).size + 1 - items.length) (column.args ++ items).size)),
        column.args ++ items⟩ := by
  have hmembers : (Operand.value (.list items)).members? operator = .ok (some items) := by
    rw [Operand.members?, Value.scalarElements_of_forall hscalars]
  have hopen (s : String) : " " ++ ("(" ++ s) = " (" ++ s := by
    rw [← String.append_assoc]
    rfl
  rw [compileNode, hfield, ok_bind]
  simp [hclass, hmembers, Operator.conditionText, Operator.listed, hopen, String.append_assoc]

/-- Of an accepted literal, all that is bound is marked. -/
theorem compileNode_literal (hfield : field.compile context args = .ok column)
    (hclass : operator.operatorClass ≠ .nullCheck) {literal : Value}
    (hcheck : operator.checkValue literal = .ok ()) (root : Bool) :
    ∃ marks, context.dialect.MarksLast column.args literal.literals marks ∧
      compileNode context root ⟨logic, some field, some operator, some (.value literal), filters⟩
          args =
        .ok ⟨operator.conditionText context.dialect column.sql (operator.listed marks),
          column.args ++ literal.literals⟩ := by
  rcases Operator.fits_of_checkValue hcheck hclass with
    ⟨hsingle, hscalar⟩ | ⟨hmembership, items, rfl, hitems, hscalars⟩
  · have hmarked : context.dialect.MarksLast column.args [literal] _ :=
      context.dialect.marksLast_of_ne_nil column.args (List.cons_ne_nil literal [])
    rw [← push_eq_append] at hmarked
    rw [Value.literals_of_isScalar hscalar, ← push_eq_append]
    exact ⟨_, hmarked, compileNode_single hfield hclass hsingle root literal⟩
  · have hmarked : context.dialect.MarksLast column.args items _ :=
      context.dialect.marksLast_of_ne_nil column.args hitems
    exact ⟨_, hmarked, compileNode_members hfield hmembership hscalars root⟩

/-- A condition is written between its sides, whatever was bound before. -/
theorem IsCondition.compileNode_eq (h : node.IsCondition field operator)
    (hfield : field.compile context args = .ok column) (root : Bool) :
    ∃ right, RightSide context operator column.args node.value right ∧
      node.compileNode context root args = right.map fun right =>
        ⟨operator.conditionText context.dialect column.sql right.sql, right.args⟩ := by
  have hvalue := h.value
  obtain ⟨logic, left, op, value, filters⟩ := node
  obtain ⟨-, rfl, rfl, rfl, -⟩ := h
  rcases hvalue with ⟨hclass, hnone⟩ | ⟨hclass, ⟨query, hquery⟩ | ⟨literal, hliteral, -, hcheck⟩⟩
  · refine ⟨.ok ⟨"", column.args⟩, .absent hclass ?_, ?_⟩
    · intro operand hoperand
      simp only [] at hoperand
      simpa [hasValue, hoperand] using hnone
    · rw [compileNode, hfield, ok_bind]
      simp only [hclass, Operator.conditionText, map_ok]
  · simp only [] at hquery
    subst hquery
    exact ⟨_, .query query, compileNode_query hfield hclass root query⟩
  · simp only [] at hliteral
    subst hliteral
    obtain ⟨marks, hmarked, heq⟩ := compileNode_literal hfield hclass hcheck root
    exact ⟨_, .literal hmarked, heq⟩

end Condition

section Refused

variable {root : Bool} {args : Array Value} {error : QueryError}

theorem RefusedOutside.condition_iff {field : Field} {operator : Operator}
    (hleft : node.field = some field) (hcondition : node.operator = some operator) :
    node.RefusedOutside context args error ↔ field.compile context args = .error error ∨
      ∃ column query, field.compile context args = .ok column ∧
        node.value = some (.subquery query) ∧
        (Operand.subquery query).compile context column.args = .error error := by
  constructor
  · intro h
    cases h with
    | level logic => simp [hcondition] at logic
    | child logic => simp [hcondition] at logic
    | field left _ refused =>
      rw [hleft] at left
      cases left
      exact .inl refused
    | query left _ written right refused =>
      rw [hleft] at left
      cases left
      exact .inr ⟨_, _, written, right, refused⟩
  · rintro (hfield | ⟨column, query, hfield, hvalue, hquery⟩)
    · exact .field hleft hcondition hfield
    · exact .query hleft hcondition hfield hvalue hquery

theorem RefusedOutside.logic_iff (hlogic : node.operator = none) :
    node.RefusedOutside context args error ↔ context.descend = .error error ∨
      ∃ inner before child after texts bound, context.descend = .ok inner ∧
        node.filters = before ++ some child :: after ∧
        compileChildren inner before args = .ok (texts, bound) ∧
        child.RefusedOutside inner bound error := by
  constructor
  · intro h
    cases h with
    | level _ refused => exact .inl refused
    | child _ descend place done refused =>
      exact .inr ⟨_, _, _, _, _, _, descend, place, done, refused⟩
    | field _ condition => simp [hlogic] at condition
    | query _ condition => simp [hlogic] at condition
  · rintro (hlevel | ⟨inner, before, child, after, texts, bound, hinner, hplace, hdone, hchild⟩)
    · exact .level hlogic hlevel
    · exact .child hlogic hinner hplace hdone hchild

theorem IsCondition.compileNode_eq_error_iff {field : Field} {operator : Operator}
    (h : node.IsCondition field operator) :
    node.compileNode context root args = .error error ↔ node.RefusedOutside context args error := by
  rw [RefusedOutside.condition_iff h.field h.operator]
  cases hfield : field.compile context args with
  | error other =>
    have hrefused : node.compileNode context root args = .error other := by
      obtain ⟨logic, left, op, value, filters⟩ := node
      obtain ⟨-, rfl, rfl, -, -⟩ := h
      rw [compileNode, hfield, error_bind]
    simp [hrefused]
  | ok column =>
    obtain ⟨right, hright, heq⟩ := h.compileNode_eq hfield root
    have hrefused : node.compileNode context root args = .error error ↔ right = .error error := by
      rw [heq]
      cases right with
      | error other => simp
      | ok compiled => simp
    rw [hrefused, hright.eq_error_iff]
    simp

/-- A validated filter is refused from outside, and not by the compiler of filters itself. -/
theorem compileNode_eq_error_iff (hvalid : node.validate context = .ok ()) :
    node.compileNode context root args = .error error ↔ node.RefusedOutside context args error := by
  induction node using Filter.recursion generalizing context root args with
  | condition logic field operator value filters =>
    obtain ⟨left, hcondition⟩ := isCondition_of_checkShape (checkShape_of_validate hvalid) rfl
    exact hcondition.compileNode_eq_error_iff
  | logic logic field value filters ih =>
    have hlogic := isLogic_of_checkShape (checkShape_of_validate hvalid) rfl
    rw [compileNode, if_neg (by simpa using hlogic.filters), RefusedOutside.logic_iff rfl]
    cases hinner : context.descend with
    | error other => simp
    | ok inner =>
      -- The child that is refused stands among the children, so it passed validation too.
      have hchild {child : Filter} {before after : List (Option Filter)} {bound : Array Value}
          (hplace : filters = before ++ some child :: after) :
          child.compileNode inner false bound = .error error ↔
            child.RefusedOutside inner bound error := by
        have hmem : some child ∈ filters := by simp [hplace]
        exact ih child (List.reduceOption_mem_iff.mpr hmem)
          (validate_of_mem (validateAll_of_validate hvalid hinner) hmem)
      rw [ok_bind, bind_eq_error, compileChildren_eq_error_iff]
      constructor
      · rintro (⟨before, child, after, texts, bound, hplace, hdone, hrefused⟩ |
          ⟨written, -, hjoined⟩)
        · exact .inr ⟨inner, before, child, after, texts, bound, rfl, hplace, hdone,
            (hchild hplace).mp hrefused⟩
        · cases hjoined
      · rintro (hlevel | ⟨_, before, child, after, texts, bound, heq, hplace, hdone, hrefused⟩)
        · cases hlevel
        · cases heq
          exact .inl ⟨before, child, after, texts, bound, hplace, hdone,
            (hchild hplace).mpr hrefused⟩

end Refused

/-- What was found of a filter holds of all that compilation visits in it. -/
theorem validate_of_reaches {below : Context} {filter : Filter}
    (hvalid : filter.validate context = .ok ()) (h : Reaches context filter below node) :
    node.validate below = .ok () := by
  induction h with
  | root context filter => exact hvalid
  | child hdescend hmem _ ih =>
    exact ih (validate_of_mem (validateAll_of_validate hvalid hdescend) hmem)

theorem settled_of_validate (hvalid : node.validate context = .ok ()) : node.Settled context where
  shape := shape_of_checkShape (checkShape_of_validate hvalid)
  joined := by
    intro hoperator
    have hlogic := isLogic_of_checkShape (checkShape_of_validate hvalid) hoperator
    obtain ⟨logic, hsome⟩ := Option.isSome_iff_exists.mp hlogic.logic
    refine ⟨logic, hsome, ?_⟩
    intro root args inner texts bound hinner hchildren
    rw [← hsome]
    exact hlogic.compileNode_eq hinner hchildren
  members := by
    intro operator literal hcondition hclass hvalue
    obtain ⟨field, hnode⟩ :=
      isCondition_of_checkShape (checkShape_of_validate hvalid) hcondition
    exact hnode.members hclass hvalue
  written := by
    intro field operator root args column hleft hcondition hfield
    obtain ⟨left, hnode⟩ :=
      isCondition_of_checkShape (checkShape_of_validate hvalid) hcondition
    have heq := hnode.field
    rw [hleft] at heq
    cases heq
    exact hnode.compileNode_eq hfield root
  refused := fun _ _ _ => compileNode_eq_error_iff hvalid

/-- In a validated filter, every node that compilation visits is settled: the compiler of filters
does not refuse it by itself and never writes a condition without its marks. -/
theorem validated_nodes_settled (context : Context) (filter : Filter)
    (hvalid : filter.validate context = .ok ()) (below : Context) (node : Filter)
    (hreaches : Reaches context filter below node) : node.Settled below := by
  have hnode : node.validate below = .ok () := validate_of_reaches hvalid hreaches
  exact settled_of_validate hnode

/-- The regions from which orders are taken. -/
def regions : Filter :=
  .condition (.ofColumn "region") .isIn (.list [.string "eu", .string "us"])

/-- The orders that are paid and come from one of the regions, with a place that was left empty. -/
def regionalOrders : Filter :=
  .all [.condition (.ofColumn "paid") .equal (.bool true), (Filter.any [regions]).addOptional none]

/-- Two levels down, the regions are never refused, and they are marked behind what is bound. -/
theorem regionalOrders_settled :
    regionalOrders.validate ⟨.postgres, 0, {}⟩ = .ok () ∧
    (∀ root args error, regions.compileNode ⟨.postgres, 2, {}⟩ root args ≠ .error error) ∧
    regions.compileNode ⟨.postgres, 2, {}⟩ false #[.bool true] =
      .ok ⟨"region in ($2, $3)", #[.bool true, .string "eu", .string "us"]⟩ := by
  have hvalid : regionalOrders.validate ⟨.postgres, 0, {}⟩ = .ok () := rfl
  have hreaches : Reaches ⟨.postgres, 0, {}⟩ regionalOrders ⟨.postgres, 2, {}⟩ regions :=
    .child rfl (.tail _ (.head _)) (.child rfl (.head _) (.root _ _))
  have hsettled := validated_nodes_settled _ _ hvalid _ _ hreaches
  have hfield (args : Array Value) :
      (Field.ofColumn "region").compile ⟨.postgres, 2, {}⟩ args = .ok ⟨"region", args⟩ := rfl
  refine ⟨hvalid, ?_, ?_⟩
  · intro root args error hrefused
    have houtside := (hsettled.refused root args error).mp hrefused
    rw [RefusedOutside.condition_iff rfl rfl, hfield] at houtside
    rcases houtside with hcolumn | ⟨column, query, -, hvalue, -⟩
    · cases hcolumn
    · cases hvalue
  · obtain ⟨right, hright, heq⟩ := hsettled.written _ _ false _ _ rfl rfl (hfield #[.bool true])
    cases hright with
    | absent nullCheck => cases nullCheck
    | literal marked =>
      obtain ⟨first, last, -, -, hlast, hcount, rfl, -⟩ := marked
      have hthree : last = 3 := hlast
      have htwo : first + 2 = last + 1 := hcount
      have hfirst : first = 2 := by omega
      subst hthree hfirst
      exact heq.trans rfl

end Filter

end QueryTree
