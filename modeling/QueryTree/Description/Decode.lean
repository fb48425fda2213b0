import QueryTree.Data
import QueryTree.Description

/-!
Decoding descriptions. An object may also be written as a list of its members in their order. A
member that is not declared or is repeated is refused, and so is one of the wrong type; members that
are missing have their defaults.

The formats differ in two details, which `Format` stands for here. What is described in full for a
field or a table is decoded by the rules of JSON in both formats.
-/

namespace QueryTree

namespace Data

/-- The values of the members `names`, by name or by position. A TOML list may have more items than
there are members. -/
def members? (format : Format) (names : List String) : Data → Option (List (Option Data))
  | .table members =>
    let given := members.map Prod.fst
    if given.all names.contains && given.eraseDups.length == given.length then
      some (names.map (fun name => members.lookup name))
    else none
  | .list items =>
    if items.length ≤ names.length || format == .toml then
      some ((List.range names.length).map (fun i => items[i]?))
    else none
  | _ => none

/-- A member that may be missing. -/
def orMissing {α : Type} (default : α) (decode : Data → Option α) : Option Data → Option α
  | none => some default
  | some data => decode data

/-- A value that may be null. -/
def orNull {α : Type} (decode : Data → Option α) : Data → Option (Option α)
  | .null => some none
  | data => (decode data).map some

/-- A member that may be missing or null, which mean the same. -/
def optionally {α : Type} (decode : Data → Option α) : Option Data → Option (Option α) :=
  orMissing none (orNull decode)

def asString? : Data → Option String
  | .string s => some s
  | _ => none

def asWord? : Data → Option UInt64
  | .number (.natural n) => some n
  | _ => none

def asList? {α : Type} (decode : Data → Option α) : Data → Option (List α)
  | .list items => items.mapM decode
  | _ => none

/-- What stands as the value of the only member of an object that is written for a name. TOML has
no null and takes whatever is empty. -/
def isFiller (format : Format) : Data → Bool
  | .null => format == .json
  | .table [] | .list [] => format == .toml
  | _ => false

/-- One of several names, written as a string or as an object with that one member. -/
def asName? {α : Type} (format : Format) (all : List α) (nameOf : α → String) :
    Data → Option α
  | .string s => all.find? (fun x => nameOf x == s)
  | .table [(name, value)] =>
    if value.isFiller format then all.find? (fun x => nameOf x == name) else none
  | _ => none

/-- A sort key; without a field it has an empty one. -/
def asSortKey? (format : Format) (data : Data) : Option SortKey :=
  match data.members? format ["field", "direction"] with
  | some [field, direction] => do
    let field ← orMissing "" asString? field
    let direction ← optionally (asName? format Direction.all Direction.keyword) direction
    some ⟨field, direction⟩
  | _ => none

mutual

def asField? : (fuel : Nat) → Data → Option FieldDescription
  | 0, _ => none
  | _ + 1, .string name => some (.column name)
  | fuel + 1, data =>
    match data.members? .json ["table", "column", "subquery", "alias"] with
    | some [qualifier, column, subquery, aliasName] => do
      let qualifier ← optionally asString? qualifier
      let column ← optionally asString? column
      let subquery ← optionally (asSelect? fuel .json) subquery
      let aliasName ← optionally asString? aliasName
      some (.full qualifier column subquery aliasName)
    | _ => none

def asTable? : (fuel : Nat) → Data → Option TableDescription
  | 0, _ => none
  | _ + 1, .string name => some (.named name)
  | fuel + 1, data =>
    match data.members? .json ["name", "subquery", "alias"] with
    | some [name, subquery, aliasName] => do
      let name ← optionally asString? name
      let subquery ← optionally (asSelect? fuel .json) subquery
      let aliasName ← optionally asString? aliasName
      some (.full name subquery aliasName)
    | _ => none

def asFilter? : (fuel : Nat) → Format → Data → Option FilterDescription
  | 0, _, _ => none
  | fuel + 1, format, data =>
    match data.members? format
        ["logic", "field", "operator", "value", "subquery", "filters"] with
    | some [logic, field, operator, value, subquery, filters] => do
      let logic ← optionally (asName? format Logic.all Logic.keyword) logic
      let field ← optionally (asField? fuel) field
      let operator ← optionally (asName? format Operator.all Operator.name) operator
      let value ← optionally (fun value => some value.toJson) value
      let subquery ← optionally (asSelect? fuel format) subquery
      let filters ← orMissing [] (asList? (orNull (asFilter? fuel format))) filters
      some ⟨logic, field, operator, value, subquery, filters⟩
    | _ => none

def asSelect? : (fuel : Nat) → Format → Data → Option SelectDescription
  | 0, _, _ => none
  | fuel + 1, format, data =>
    match data.members? format ["fields", "table", "where", "order_by", "limit", "alias"] with
    | some [fields, source, filter, sorts, take, aliasName] => do
      let fields ← orMissing [] (asList? (orNull (asField? fuel))) fields
      let source ← optionally (asTable? fuel) source
      let filter ← optionally (asFilter? fuel format) filter
      let sorts ← orMissing [] (asList? (orNull (asSortKey? format))) sorts
      let take ← orMissing 0 asWord? take
      let aliasName ← optionally asString? aliasName
      some ⟨fields, source, filter, sorts, take, aliasName⟩
    | _ => none

end

/-- Columns with their cells. Of a repeated column the last list counts. -/
def asColumns? : Data → Option (Columns Json)
  | .table members => do
    let entries ← members.mapM (fun (name, cells) => do
      let cells ← asList? (fun cell => some cell.toJson) cells
      some (name, cells))
    some (.ofList entries)
  | _ => none

def asInsert? (format : Format) (data : Data) : Option InsertDescription :=
  match data.members? format ["into", "values"] with
  | some [target, cells] => do
    let target ← orMissing "" asString? target
    let cells ← orMissing .empty asColumns? cells
    some ⟨target, cells⟩
  | _ => none

/-- An assignment, which must name its field. Without a value it assigns null. -/
def asAssignment? (format : Format) (data : Data) : Option (String × Json) :=
  match data.members? format ["field", "value"] with
  | some [some field, value] => do
    let field ← field.asString?
    let value ← orMissing .null (fun value => some value.toJson) value
    some (field, value)
  | _ => none

def asUpdate? (fuel : Nat) (format : Format) (data : Data) : Option UpdateDescription :=
  match data.members? format ["table", "set", "where"] with
  | some [target, assignments, filter] => do
    let target ← orMissing "" asString? target
    let assignments ← orMissing [] (asList? (asAssignment? format)) assignments
    let filter ← optionally (asFilter? fuel format) filter
    some ⟨target, assignments, filter⟩
  | _ => none

def asDelete? (fuel : Nat) (format : Format) (data : Data) : Option DeleteDescription :=
  match data.members? format ["from", "where"] with
  | some [target, filter] => do
    let target ← orMissing "" asString? target
    let filter ← optionally (asFilter? fuel format) filter
    some ⟨target, filter⟩
  | _ => none

/-- A description: an object with one member, which is named for the statement. Each step down goes
one level deeper into the data, so its height bounds the steps. -/
def asDescription? (format : Format) (data : Data) : Option Description :=
  match data with
  | .table [(kind, body)] =>
    let fuel := body.height + 1
    if kind = "select" then (body.asSelect? fuel format).map .select
    else if kind = "insert" then (body.asInsert? format).map .insert
    else if kind = "update" then (body.asUpdate? fuel format).map .update
    else if kind = "delete" then (body.asDelete? fuel format).map .delete
    else none
  | _ => none

end Data

end QueryTree
