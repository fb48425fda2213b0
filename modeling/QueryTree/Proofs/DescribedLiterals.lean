import Mathlib.Data.List.Forall2
import QueryTree.Proofs.Assignments
import QueryTree.Proofs.DescribedConditions
import QueryTree.Proofs.Literals
import QueryTree.Proofs.NumberTokens

/-!
The literals of a description. They are what is described at the places of values, in the order in
which a statement binds its arguments: numbers are bound as they are described, integers as integers
and floats as floats, and nothing is bound that is not described.
-/

namespace QueryTree

section Values

/-- A value stands for what is described: an integer for exactly that integer, a float for that
float, and everything else for itself. -/
inductive Json.BoundAs : Json → Value → Prop
  | null : BoundAs .null .null
  | bool (b : Bool) : BoundAs (.bool b) (.bool b)
  | int {n : JsonNumber} {z : Int64} (h : n.toInt? = some z.toInt) : BoundAs (.number n) (.int z)
  | uint {n : JsonNumber} {z : UInt64} (h : n.toInt? = some z.toNat) :
      BoundAs (.number n) (.uint z)
  | float (x : Binary64) (finite : x.isFinite = true) :
      BoundAs (.number (.float x finite)) (.float x)
  | string (s : String) : BoundAs (.string s) (.string s)
  | list {items : List Json} {values : List Value} (h : List.Forall₂ BoundAs items values) :
      BoundAs (.array items) (.list values)

theorem JsonNumber.boundAs_toValue (n : JsonNumber) : Json.BoundAs (.number n) n.toValue := by
  cases n with
  | natural n =>
    rw [toValue]
    split
    next hsmall =>
      refine .int ?_
      rw [toInt?, toInt64_eq_ofNat, Int64.toInt_ofNat_of_lt hsmall]
    next => exact .uint rfl
  | negative n below => exact .int rfl
  | float x finite => exact .float x finite

mutual

theorem Json.boundAs_of_ofJson : ∀ {json : Json} {value : Value},
    Value.ofJson json = .ok value → json.BoundAs value
  | .null, _, h => by cases h; exact .null
  | .bool b, _, h => by cases h; exact .bool b
  | .number n, _, h => by cases h; exact n.boundAs_toValue
  | .string s, _, h => by cases h; exact .string s
  | .array items, _, h => by
    rw [Value.ofJson, bind_eq_ok] at h
    obtain ⟨values, hvalues, hlist⟩ := h
    cases hlist
    exact .list (boundAs_of_ofJsonItems hvalues)
  | .object _, _, h => nomatch h

theorem boundAs_of_ofJsonItems : ∀ {items : List Json} {values : List Value},
    Value.ofJsonItems items = .ok values → List.Forall₂ Json.BoundAs items values
  | [], _, h => by cases h; exact .nil
  | item :: rest, _, h => by
    rw [Value.ofJsonItems, bind_eq_ok] at h
    obtain ⟨value, hvalue, h⟩ := h
    obtain ⟨others, hothers, hcons⟩ := bind_eq_ok.mp h
    cases hcons
    exact .cons (Json.boundAs_of_ofJson hvalue) (boundAs_of_ofJsonItems hothers)

end

end Values

section Places

/-- What a described value binds. A list stands for its items, and a null for no value at all. -/
def Json.literals : Json → List Json
  | .null => []
  | .array items => items
  | json => [json]

mutual

def FieldDescription.literals : FieldDescription → List Json
  | .full _ _ (some query) _ => query.literals
  | _ => []

def TableDescription.literals : TableDescription → List Json
  | .full _ (some query) _ => query.literals
  | _ => []

/-- The literals of a filter: its field, then its value, then its children. -/
def FilterDescription.literals : FilterDescription → List Json
  | ⟨_, field, _, value, subquery, filters⟩ =>
    Described.leftLiterals field ++ Described.rightLiterals value subquery
      ++ Described.childLiterals filters

def Described.leftLiterals : Option FieldDescription → List Json
  | none => []
  | some field => field.literals

/-- A value that stands next to a sub-query is not looked at. -/
def Described.rightLiterals (value : Option Json) : Option SelectDescription → List Json
  | none => (value.map Json.literals).getD []
  | some query => query.literals

def Described.childLiterals : List (Option FilterDescription) → List Json
  | [] => []
  | none :: rest => Described.childLiterals rest
  | some child :: rest => child.literals ++ Described.childLiterals rest

def Described.fieldLiterals : List (Option FieldDescription) → List Json
  | [] => []
  | none :: rest => Described.fieldLiterals rest
  | some field :: rest => field.literals ++ Described.fieldLiterals rest

def Described.sourceLiterals : Option TableDescription → List Json
  | none => []
  | some table => table.literals

def Described.whereLiterals : Option FilterDescription → List Json
  | none => []
  | some filter => filter.literals

/-- The literals of a select: its fields, then its table, then its filter, then its limit. -/
def SelectDescription.literals : SelectDescription → List Json
  | ⟨fields, table, filter, _, take, _⟩ =>
    Described.fieldLiterals fields ++ Described.sourceLiterals table
      ++ Described.whereLiterals filter ++ (if take = 0 then [] else [.number (.natural take)])

end

/-- The literals of a statement: the cells of an insert row by row, and the values of an update in
the order in which its columns are assigned first, of each column the value that it is assigned
last. -/
def Description.literals : Description → List Json
  | .select description => description.literals
  | .insert description => description.cells.rows.flatten
  | .update description =>
    (lastAssigned description.assignments).map Prod.snd
      ++ Described.whereLiterals description.filter
  | .delete description => Described.whereLiterals description.filter

end Places

section Conversion

theorem Value.literals_boundAs {json : Json} {value : Value} (h : json.BoundAs value) :
    List.Forall₂ Json.BoundAs json.literals value.literals := by
  cases h with
  | null => exact .nil
  | list hitems => exact hitems
  | int hz => exact .cons (.int hz) .nil
  | uint hz => exact .cons (.uint hz) .nil
  | float x finite => exact .cons (.float x finite) .nil
  | bool b => exact .cons (.bool b) .nil
  | string s => exact .cons (.string s) .nil

/-- A condition has the literal that its value describes, whether or not it has an operator. -/
theorem ofJson_of_conditionValue {operator : Option Operator} {json : Json} {literal : Value}
    (h : conditionValue operator json = .ok literal) : Value.ofJson json = .ok literal := by
  cases operator with
  | none => exact h
  | some operator =>
    rw [conditionValue_eq, check_bind_eq_ok] at h
    exact h.2

mutual

theorem FieldDescription.literals_bound : ∀ {description : FieldDescription} {field : Field},
    description.toField = .ok field →
      List.Forall₂ Json.BoundAs description.literals field.literals
  | .column _, _, h => by cases h; exact .nil
  | .full _ none none _, _, h => nomatch h
  | .full _ (some _) none _, _, h => by cases h; exact .nil
  | .full _ column (some query) _, field, h => by
    rw [FieldDescription.toField] at h
    split at h
    next => cases h
    next =>
      obtain ⟨select, hselect, h⟩ := bind_eq_ok.mp h
      cases h
      exact SelectDescription.literals_bound hselect

theorem TableDescription.literals_bound : ∀ {description : TableDescription} {table : Table},
    description.toTable = .ok table →
      List.Forall₂ Json.BoundAs description.literals table.literals
  | .named _, _, h => by cases h; exact .nil
  | .full none none _, _, h => nomatch h
  | .full (some _) none _, _, h => by cases h; exact .nil
  | .full name (some query) _, table, h => by
    rw [TableDescription.toTable] at h
    split at h
    next => cases h
    next =>
      obtain ⟨select, hselect, h⟩ := bind_eq_ok.mp h
      cases h
      exact SelectDescription.literals_bound hselect

theorem FilterDescription.literals_bound : ∀ {description : FilterDescription} {filter : Filter},
    description.toFilter = .ok filter →
      List.Forall₂ Json.BoundAs description.literals filter.literals
  | ⟨logic, field, operator, value, subquery, filters⟩, filter, h => by
    rw [FilterDescription.toFilter_eq] at h
    obtain ⟨operand, hoperand, h⟩ := bind_eq_ok.mp h
    obtain ⟨children, hchildren, h⟩ := bind_eq_ok.mp h
    obtain ⟨left, hleft, h⟩ := bind_eq_ok.mp h
    cases h
    rw [FilterDescription.literals, Filter.literals]
    exact List.rel_append (List.rel_append (left_literals_bound hleft)
      (right_literals_bound hoperand)) (child_literals_bound hchildren)

theorem left_literals_bound : ∀ {description : Option FieldDescription} {field : Option Field},
    toField? description = .ok field →
      List.Forall₂ Json.BoundAs (Described.leftLiterals description) (leftLiterals field)
  | none, _, h => by cases h; exact .nil
  | some description, field, h => by
    obtain ⟨left, hleft, h⟩ := bind_eq_ok.mp h
    cases h
    exact FieldDescription.literals_bound hleft

theorem right_literals_bound {operator : Option Operator} {value : Option Json} :
    ∀ {subquery : Option SelectDescription} {operand : Option Operand},
      toOperand? operator value subquery = .ok operand →
        List.Forall₂ Json.BoundAs (Described.rightLiterals value subquery)
          (rightLiterals operand)
  | some query, operand, h => by
    obtain ⟨select, hselect, h⟩ := bind_eq_ok.mp h
    cases h
    exact SelectDescription.literals_bound hselect
  | none, operand, h => by
    cases value with
    | none => cases h; exact .nil
    | some json =>
      obtain ⟨literal, hliteral, h⟩ := bind_eq_ok.mp h
      cases h
      exact Value.literals_boundAs (Json.boundAs_of_ofJson (ofJson_of_conditionValue hliteral))

theorem child_literals_bound : ∀ {descriptions : List (Option FilterDescription)}
    {filters : List (Option Filter)}, toFilters descriptions = .ok filters →
      List.Forall₂ Json.BoundAs (Described.childLiterals descriptions)
        (childLiterals filters)
  | [], _, h => by cases h; exact .nil
  | none :: rest, filters, h => by
    obtain ⟨others, hothers, h⟩ := bind_eq_ok.mp h
    have hrest := child_literals_bound hothers
    cases h
    exact hrest
  | some child :: rest, filters, h => by
    obtain ⟨filter, hfilter, h⟩ := bind_eq_ok.mp h
    obtain ⟨others, hothers, h⟩ := bind_eq_ok.mp h
    cases h
    exact List.rel_append (FilterDescription.literals_bound hfilter) (child_literals_bound hothers)

theorem field_literals_bound : ∀ {descriptions : List (Option FieldDescription)}
    {fields : List Field}, toFields descriptions = .ok fields →
      List.Forall₂ Json.BoundAs (Described.fieldLiterals descriptions)
        (fieldLiterals fields)
  | [], _, h => by cases h; exact .nil
  | none :: rest, _, h => nomatch h
  | some description :: rest, fields, h => by
    obtain ⟨field, hfield, h⟩ := bind_eq_ok.mp h
    obtain ⟨others, hothers, h⟩ := bind_eq_ok.mp h
    cases h
    exact List.rel_append (FieldDescription.literals_bound hfield) (field_literals_bound hothers)

theorem source_literals_bound : ∀ {description : Option TableDescription} {table : Option Table},
    toTable? description = .ok table →
      List.Forall₂ Json.BoundAs (Described.sourceLiterals description)
        (sourceLiterals table)
  | none, _, h => by cases h; exact .nil
  | some description, table, h => by
    obtain ⟨source, hsource, h⟩ := bind_eq_ok.mp h
    cases h
    exact TableDescription.literals_bound hsource

theorem where_literals_bound : ∀ {description : Option FilterDescription} {filter : Option Filter},
    toFilter? description = .ok filter →
      List.Forall₂ Json.BoundAs (Described.whereLiterals description)
        (whereLiterals filter)
  | none, _, h => by cases h; exact .nil
  | some description, filter, h => by
    obtain ⟨condition, hcondition, h⟩ := bind_eq_ok.mp h
    cases h
    exact FilterDescription.literals_bound hcondition

theorem SelectDescription.literals_bound : ∀ {description : SelectDescription} {query : Select},
    description.toSelect = .ok query →
      List.Forall₂ Json.BoundAs description.literals query.literals
  | ⟨fields, table, filter, sorts, take, aliasName⟩, query, h => by
    rw [SelectDescription.toSelect_eq] at h
    obtain ⟨columns, hcolumns, h⟩ := bind_eq_ok.mp h
    obtain ⟨source, hsource, h⟩ := bind_eq_ok.mp h
    obtain ⟨condition, hcondition, h⟩ := bind_eq_ok.mp h
    cases h
    have hlimit : List.Forall₂ Json.BoundAs (if take = 0 then [] else [.number (.natural take)])
        (if take = 0 then [] else [.uint take]) := by
      split
      · exact .nil
      · exact .cons (.uint rfl) .nil
    rw [SelectDescription.literals, Select.literals]
    exact List.rel_append (List.rel_append (List.rel_append (field_literals_bound hcolumns)
      (source_literals_bound hsource)) (where_literals_bound hcondition)) hlimit

end

end Conversion

namespace Columns

variable {α β : Type} {R : α → β → Prop}

/-- Columns whose cells are related have rows whose cells are. -/
theorem rel_rows {left : Columns α} {right : Columns β}
    (h : List.Forall₂ (List.Forall₂ R) left.values right.values) :
    List.Forall₂ (List.Forall₂ R) left.rows right.rows := by
  have hlengths : left.values.map List.length = right.values.map List.length := by
    have hrel := List.rel_map (fun _ _ hcells => List.Forall₂.length_eq hcells) h
    exact List.forall₂_eq_eq_eq ▸ hrel
  have hcount : left.rowCount = right.rowCount := by
    rw [rowCount, rowCount, hlengths]
  have hcell (index : Nat) ⦃cells : List α⦄ ⦃others : List β⦄
      (hcells : List.Forall₂ R cells others) : Option.Rel R cells[index]? others[index]? := by
    induction hcells generalizing index with
    | nil => exact .none
    | cons hhead _ ih =>
      cases index with
      | zero => exact .some hhead
      | succ index => exact ih index
  rw [rows, rows, hcount, List.forall₂_map_left_iff, List.forall₂_map_right_iff, List.forall₂_same]
  exact fun index _ => List.rel_filterMap (hcell index) h

end Columns

section Statements

theorem rel_traverseEntries {entries : List (String × List Json)}
    {converted : List (String × List Value)}
    (h : Columns.traverseEntries Value.ofJsonItems entries = .ok converted) :
    List.Forall₂ (List.Forall₂ Json.BoundAs) (entries.map Prod.snd) (converted.map Prod.snd) := by
  induction entries generalizing converted with
  | nil => cases h; exact .nil
  | cons entry rest ih =>
    obtain ⟨name, cells⟩ := entry
    rw [Columns.traverseEntries, bind_eq_ok] at h
    obtain ⟨values, hvalues, h⟩ := h
    obtain ⟨others, hothers, h⟩ := bind_eq_ok.mp h
    cases h
    exact .cons (boundAs_of_ofJsonItems hvalues) (ih hothers)

theorem rel_traverse {cells : Columns Json} {converted : Columns Value}
    (h : cells.traverse Value.ofJsonItems = .ok converted) :
    List.Forall₂ (List.Forall₂ Json.BoundAs) cells.values converted.values := by
  unfold Columns.traverse at h
  split at h
  next => cases h
  next heq =>
    cases h
    exact rel_traverseEntries heq

theorem assignments_bound {assignments : List (String × Json)} {assigned : List (String × Value)}
    (h : assignAll assignments [] = .ok assigned) :
    List.Forall₂ Json.BoundAs ((lastAssigned assignments).map Prod.snd)
      (assigned.map Prod.snd) := by
  obtain ⟨values, hvalues, rfl⟩ := assignAll_eq_ok_iff.mp h
  have hbound := hvalues.imp fun _ _ hentry => And.imp_right Json.boundAs_of_ofJson hentry
  rw [foldl_assign, List.forall₂_map_left_iff, List.forall₂_map_right_iff]
  exact (rel_lastAssigned hbound).imp fun _ _ hentry => hentry.2

/-- What a statement binds. -/
def Statement.literals : Statement → List Value
  | .select query => query.literals
  | .insert query => query.cells.rows.flatten
  | .update query => query.literals
  | .delete query => query.literals

theorem Description.literals_bound {description : Description} {statement : Statement}
    (h : description.toStatement = .ok statement) :
    List.Forall₂ Json.BoundAs description.literals statement.literals := by
  cases description with
  | select description =>
    obtain ⟨query, hquery, rfl⟩ := map_eq_ok.mp h
    exact SelectDescription.literals_bound hquery
  | insert description =>
    obtain ⟨query, hquery, rfl⟩ := map_eq_ok.mp h
    obtain ⟨cells, hcells, hinsert⟩ := bind_eq_ok.mp hquery
    cases hinsert
    exact List.rel_flatten (Columns.rel_rows (rel_traverse hcells))
  | update description =>
    obtain ⟨query, hquery, rfl⟩ := map_eq_ok.mp h
    obtain ⟨assigned, hassigned, hquery⟩ := bind_eq_ok.mp hquery
    obtain ⟨filter, hfilter, hupdate⟩ := bind_eq_ok.mp hquery
    cases hupdate
    exact List.rel_append (assignments_bound hassigned) (where_literals_bound hfilter)
  | delete description =>
    obtain ⟨query, hquery, rfl⟩ := map_eq_ok.mp h
    obtain ⟨filter, hfilter, hdelete⟩ := bind_eq_ok.mp hquery
    cases hdelete
    exact where_literals_bound hfilter

end Statements

end QueryTree
