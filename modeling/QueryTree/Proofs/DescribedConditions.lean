import QueryTree.Proofs.Compilation
import QueryTree.Proofs.JsonForm
import QueryTree.Proofs.WellFormed

/-!
Described conditions. What an operator accepts is a matter of kinds, and a described value has the
kind of the literal that it is converted to, so a described condition is judged as a condition in a
tree is. The exception are objects, which have no literal: the conversion refuses them, wherever
they stand in the value, before anything is judged.
-/

namespace QueryTree

section Kinds

/-- The kind that a number has as a value. -/
def JsonNumber.kind : JsonNumber → Kind
  | .natural n => if n.toNat < Nat.pow 2 63 then .int else .uint
  | .negative _ _ => .int
  | .float _ _ => .float

/-- The kind of a described value. -/
def Json.kind : Json → Kind
  | .null => .null
  | .bool _ => .bool
  | .number n => n.kind
  | .string _ => .string
  | .array _ => .list
  | .object _ => .map

mutual

def Json.decideObjectFree : (json : Json) → Decidable json.ObjectFree
  | .null | .bool _ | .number _ | .string _ => .isTrue trivial
  | .array items => decideItemsObjectFree items
  | .object _ => .isFalse id

def decideItemsObjectFree : (items : List Json) → Decidable (itemsObjectFree items)
  | [] => .isTrue trivial
  | item :: rest =>
    @instDecidableAnd _ _ item.decideObjectFree (decideItemsObjectFree rest)

end

instance (json : Json) : Decidable json.ObjectFree := json.decideObjectFree

theorem JsonNumber.kind_toValue (n : JsonNumber) : n.toValue.kind = n.kind := by
  cases n with
  | natural n =>
    rw [toValue, kind]
    split <;> rfl
  | negative n hnegative => rfl
  | float x hfinite => rfl

theorem Json.kind_of_ofJson {json : Json} {value : Value} (h : Value.ofJson json = .ok value) :
    value.kind = json.kind := by
  cases json with
  | number n => cases h; exact n.kind_toValue
  | array items =>
    rw [Value.ofJson, bind_eq_ok] at h
    obtain ⟨values, -, hlist⟩ := h
    cases hlist
    rfl
  | object members => cases h
  | _ => cases h; rfl

theorem kinds_of_ofJsonItems {items : List Json} {values : List Value}
    (h : Value.ofJsonItems items = .ok values) : values.map Value.kind = items.map Json.kind := by
  induction items generalizing values with
  | nil => cases h; rfl
  | cons item rest ih =>
    rw [Value.ofJsonItems, bind_eq_ok] at h
    obtain ⟨value, hvalue, h⟩ := h
    obtain ⟨others, hothers, hcons⟩ := bind_eq_ok.mp h
    cases hcons
    rw [List.map_cons, List.map_cons, Json.kind_of_ofJson hvalue, ih hothers]

end Kinds

section Rules

/-- What an operator says to a described value, by its kind. A null check asks for null and all
others for something else; a comparison takes one scalar, a pattern one string, and a membership a
list of scalars that is not empty. -/
def Operator.judge (operator : Operator) (json : Json) : Except QueryError Unit :=
  match operator.operatorClass, json with
  | .nullCheck, json => ensure (json.kind == .null) .valueNotNull
  | _, .null => .error .valueRequired
  | .comparison, json => ensure json.kind.isScalar (.kindForOperator json.kind operator)
  | .pattern, json => ensure (json.kind == .string) (.kindForOperator json.kind operator)
  | .membership, .array items => do
    ensure (!items.isEmpty) .valueRequired
    match items.find? (fun item => !item.kind.isScalar) with
    | some item => .error (.elementForOperator item.kind operator)
    | none => .ok ()
  | .membership, json => .error (.kindForOperator json.kind operator)

/-- What is refused whatever the operator asks for: an object, and a list with an object anywhere
in it. Of a list, an operator of membership names the first item that holds an object. -/
def Operator.refuseObjects (operator : Operator) : Json → Except QueryError Unit
  | .object _ => .error (.kindForOperator .map operator)
  | .array items =>
    match items.find? (fun item => ¬ item.ObjectFree) with
    | none => .ok ()
    | some item =>
      if operator.operatorClass = .membership then .error (.elementForOperator item.kind operator)
      else .error (.kindForOperator .list operator)
  | _ => .ok ()

variable (operator : Operator)

theorem itemError_of_object {item : Json} (h : ¬ item.ObjectFree) :
    itemError operator item =
      if operator.operatorClass = .membership then .elementForOperator item.kind operator
      else .kindForOperator .list operator := by
  unfold itemError
  cases item with
  | array items => rfl
  | object members => rfl
  | _ => exact absurd trivial h

/-- The items of a list are converted up to the first one that holds an object. -/
theorem itemValues_eq (items : List Json) :
    itemValues operator items =
      match items.find? (fun item => ¬ item.ObjectFree) with
      | none => Value.ofJsonItems items
      | some item => .error (itemError operator item) := by
  induction items with
  | nil => rfl
  | cons item rest ih =>
    rw [itemValues, Value.ofJsonItems, List.find?_cons]
    by_cases hfree : item.ObjectFree
    · obtain ⟨value, hvalue⟩ := Value.exists_ofJson hfree
      simp only [hvalue, hfree, ih, not_true_eq_false, decide_false, ok_bind]
      cases rest.find? fun item => ¬ item.ObjectFree <;> rfl
    · have herror := (Value.ofJson_eq_error_iff item (.kindUnbound .map)).mpr ⟨hfree, rfl⟩
      simp [herror, hfree]

/-- The literal of a described condition, if nothing is refused. -/
theorem conditionValue_eq (json : Json) :
    conditionValue (some operator) json = (do
      operator.refuseObjects json
      Value.ofJson json) := by
  cases json with
  | array items =>
    rw [conditionValue, itemValues_eq, Operator.refuseObjects, Value.ofJson]
    cases hfind : items.find? (fun item => ¬ item.ObjectFree) with
    | none => rfl
    | some item =>
      have hobject : ¬ item.ObjectFree := by simpa using List.find?_some hfind
      simp only [itemError_of_object operator hobject]
      split <;> rfl
  | _ => rfl

theorem Operator.objectFree_of_refuse {operator : Operator} {json : Json} {u : Unit}
    (h : operator.refuseObjects json = .ok u) : json.ObjectFree := by
  cases json with
  | array items =>
    rw [refuseObjects] at h
    cases hfind : items.find? (fun item => ¬ item.ObjectFree) with
    | none =>
      have hfree : ∀ item ∈ items, item.ObjectFree := by simpa using hfind
      exact (itemsObjectFree_iff items).mpr hfree
    | some item =>
      simp only [hfind] at h
      split at h <;> cases h
  | object members => cases h
  | _ => trivial

end Rules

section Conditions

theorem JsonNumber.toValue_cases (n : JsonNumber) :
    (∃ m, n.toValue = .int m) ∨ (∃ m, n.toValue = .uint m) ∨ ∃ x, n.toValue = .float x := by
  cases n with
  | natural n =>
    rw [toValue]
    split
    · exact .inl ⟨_, rfl⟩
    · exact .inr (.inl ⟨_, rfl⟩)
  | negative n hnegative => exact .inl ⟨n, rfl⟩
  | float x hfinite => exact .inr (.inr ⟨x, rfl⟩)

/-- The first item that is no scalar is the first literal that is none. -/
theorem find_unbound_kind {items : List Json} {values : List Value}
    (h : Value.ofJsonItems items = .ok values) :
    (values.find? fun value => !value.kind.isScalar).map Value.kind =
      (items.find? fun item => !item.kind.isScalar).map Json.kind := by
  have hfind := congrArg (List.find? fun kind => !kind.isScalar) (kinds_of_ofJsonItems h)
  rw [List.find?_map, List.find?_map] at hfind
  exact hfind

/-- The literal of a condition is checked as the value that describes it is judged. -/
theorem Operator.checkValue_eq_judge {operator : Operator} {json : Json} {literal : Value}
    (h : Value.ofJson json = .ok literal) (hclass : operator.operatorClass ≠ .nullCheck) :
    (if literal.isNull then .error .valueRequired else operator.checkValue literal) =
      operator.judge json := by
  have hkind := Json.kind_of_ofJson h
  cases json with
  | null =>
    cases h
    cases hop : operator.operatorClass with
    | nullCheck => exact absurd hop hclass
    | _ => simp only [judge, hop]; rfl
  | array items =>
    rw [Value.ofJson, bind_eq_ok] at h
    obtain ⟨values, hvalues, hlist⟩ := h
    cases hlist
    cases hop : operator.operatorClass with
    | nullCheck => exact absurd hop hclass
    | membership =>
      have hempty : values.isEmpty = items.isEmpty := by
        simpa using congrArg List.isEmpty (kinds_of_ofJsonItems hvalues)
      have hfind := find_unbound_kind hvalues
      simp only [judge, checkValue, hop, hempty]
      generalize values.find? _ = value at hfind
      generalize items.find? _ = item at hfind
      cases value with
      | none =>
        obtain rfl := Option.map_eq_none_iff.mp hfind.symm
        rfl
      | some value =>
        obtain ⟨item, rfl, hsame⟩ := Option.map_eq_some_iff.mp hfind.symm
        simp only [hsame]
        rfl
    | _ => simp only [judge, checkValue, hop]; rfl
  | number n =>
    cases h
    cases hop : operator.operatorClass with
    | nullCheck => exact absurd hop hclass
    | _ =>
      simp only [judge, checkValue, hop, ← hkind]
      rcases n.toValue_cases with ⟨m, hn⟩ | ⟨m, hn⟩ | ⟨x, hn⟩ <;> rw [hn] <;> rfl
  | object members => cases h
  | _ =>
    cases h
    cases hop : operator.operatorClass with
    | nullCheck => exact absurd hop hclass
    | _ => simp only [judge, checkValue, hop]; rfl

/-- A condition of a column and a literal compiles unless the check of it fails. -/
theorem Filter.accept_column (context : Context) (qualifier aliasName : Option String)
    {name : String} (hname : name ≠ "") (operator : Operator) (literal : Option Value) :
    let filter : Filter :=
      ⟨none, some (.column qualifier name aliasName), some operator, literal.map .value, []⟩
    filter.accept context = filter.checkCondition := by
  intro filter
  have hvalid : filter.validate context = filter.checkCondition >>= fun _ => .ok () := rfl
  have hleft : (Field.column qualifier name aliasName).accept context = .ok () := by
    rw [Field.accept, Field.validate, ensure_eq_ok]
    simpa using hname
  cases hcheck : filter.checkCondition with
  | error error =>
    rw [accept, hvalid, hcheck]
    rfl
  | ok =>
    have haccepts := (filter.checkCondition_eq_ok_iff.mp hcheck).2
    refine (accept_condition_iff ..).mpr ⟨rfl, ⟨_, rfl, hleft⟩, haccepts, fun right hright => ?_⟩
    obtain ⟨value, -, rfl⟩ := Option.map_eq_some_iff.mp hright
    rfl

theorem Filter.compile_column (context : Context) (args : Array Value)
    (qualifier aliasName : Option String) {name : String} (hname : name ≠ "")
    (operator : Operator) (literal : Option Value) :
    let filter : Filter :=
      ⟨none, some (.column qualifier name aliasName), some operator, literal.map .value, []⟩
    (filter.compile context args).map (fun _ => ()) = filter.checkCondition := by
  intro filter
  rw [compile_eq, accept_column context qualifier aliasName hname operator literal]
  cases filter.checkCondition <;> rfl

/-- A condition with a literal is judged as the value that describes the literal. -/
theorem Filter.checkCondition_eq_judge (field : Field) (operator : Operator) {json : Json}
    {literal : Value} (h : Value.ofJson json = .ok literal) :
    Filter.checkCondition ⟨none, some field, some operator, some (.value literal), []⟩ =
      operator.judge json := by
  by_cases hclass : operator.operatorClass = .nullCheck
  · have hjudge : operator.judge json = ensure (json.kind == .null) .valueNotNull := by
      simp only [Operator.judge, hclass]
    rw [hjudge, ← Json.kind_of_ofJson h]
    simp [checkCondition, hclass, ensure, hasValue, Operand.isNull, Value.isNull]
  · rw [← Operator.checkValue_eq_judge h hclass, checkCondition]
    simp [hclass, ensure]

end Conditions

section Descriptions

/-- The description names a column, perhaps with a table and an alias, and nothing else. -/
def FieldDescription.NamesColumn : FieldDescription → Prop
  | .column name => name ≠ ""
  | .full _ (some name) none _ => name ≠ ""
  | _ => False

theorem FieldDescription.NamesColumn.toField {field : FieldDescription} (h : field.NamesColumn) :
    ∃ qualifier name aliasName,
      name ≠ "" ∧ field.toField = .ok (.column qualifier name aliasName) := by
  match field, h with
  | .column name, hname => exact ⟨none, name, none, hname, rfl⟩
  | .full qualifier (some name) none aliasName, hname =>
    exact ⟨qualifier, name, aliasName, hname, rfl⟩

/-- Whether a described filter can be converted and compiled, and what is said if it cannot. -/
def FilterDescription.verdict (context : Context) (args : Array Value)
    (description : FilterDescription) : Except QueryError Unit :=
  (description.toFilter >>= fun filter => filter.compile context args).map fun _ => ()

/-- A described condition of a column and a value, whatever the value: objects are refused first,
and what is left is judged by its kind. -/
theorem FilterDescription.condition_judged (context : Context) (args : Array Value)
    (field : FieldDescription) (hfield : field.NamesColumn) (operator : Operator)
    (value : Option Json) :
    verdict context args ⟨none, some field, some operator, value, none, []⟩ = (do
      operator.refuseObjects (value.getD .null)
      operator.judge (value.getD .null)) := by
  obtain ⟨qualifier, name, aliasName, hname, hcolumn⟩ := hfield.toField
  have hcompile := Filter.compile_column context args qualifier aliasName hname operator
  have hjudge {json : Json} {literal : Value} (h : Value.ofJson json = .ok literal) :=
    Filter.checkCondition_eq_judge (.column qualifier name aliasName) operator h
  cases value with
  | none =>
    -- An absent value passes the check of a condition exactly where a literal null does.
    have hnull : Value.ofJson .null = .ok .null := rfl
    rw [verdict, toFilter_eq, toOperand?, toFilters, toField?, hcolumn]
    exact (hcompile none).trans (hjudge hnull)
  | some json =>
    rw [verdict, toFilter_eq, toOperand?, toFilters, toField?, hcolumn, conditionValue_eq,
      Option.getD]
    cases hrefuse : operator.refuseObjects json with
    | error error => rfl
    | ok =>
      obtain ⟨literal, hliteral⟩ := Value.exists_ofJson (Operator.objectFree_of_refuse hrefuse)
      rw [hliteral]
      exact (hcompile (some literal)).trans (hjudge hliteral)

/-- Of a list of scalars, nulls and lists, the first item that is no scalar is named. -/
theorem FilterDescription.membership_judged :
    (FieldDescription.full (some "t") (some "a") none none).NamesColumn ∧
      verdict ⟨.postgres, 0, .standard⟩ #[] ⟨none, some (.full (some "t") (some "a") none none),
          some .isNotIn, some (.array [.string "x", .array [.null], .null]), none, []⟩ =
        .error (.elementForOperator .list .isNotIn) := by
  have hfield : (FieldDescription.full (some "t") (some "a") none none).NamesColumn := by
    simp [FieldDescription.NamesColumn]
  exact ⟨hfield, condition_judged ⟨.postgres, 0, .standard⟩ #[] _ hfield .isNotIn
    (some (.array [.string "x", .array [.null], .null]))⟩

/-- Kinds alone do not tell what is said of a value with an object in it: a null check names the
object instead of asking for null, and a membership passes over a null that stands before it. -/
theorem FilterDescription.object_before_kind :
    (verdict ⟨.mysql, 0, .standard⟩ #[]
          ⟨none, some (.column "a"), some .isNull, some (.object []), none, []⟩ =
        .error (.kindForOperator .map .isNull) ∧
      Operator.judge .isNull (.object []) = .error .valueNotNull) ∧
    verdict ⟨.mysql, 0, .standard⟩ #[]
        ⟨none, some (.column "a"), some .isIn, some (.array [.null, .object []]), none, []⟩ =
      .error (.elementForOperator .map .isIn) ∧
    Operator.judge .isIn (.array [.null, .object []]) =
      .error (.elementForOperator .null .isIn) :=
  ⟨⟨rfl, rfl⟩, rfl, rfl⟩

end Descriptions

end QueryTree
