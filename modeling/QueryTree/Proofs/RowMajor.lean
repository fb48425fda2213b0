import Mathlib.Data.List.Perm.Basic
import QueryTree.Proofs.ByteOrder
import QueryTree.Proofs.Compilation

/-!
The table that an insert writes. The cells are given column by column and are bound row by row, so
they have to be transposed, and a column that is too short would let the cells behind it move to the
left. Validation refuses exactly the inserts in which that can happen.
-/

namespace QueryTree

section Transposition

variable {α β : Type} {width : Nat}

/-- Nothing moves to the left if nothing is left out. -/
theorem getElem?_filterMap {f : α → Option β} {l : List α} (h : ∀ a ∈ l, (f a).isSome = true)
    (i : Nat) : (l.filterMap f)[i]? = l[i]?.bind f := by
  induction l generalizing i with
  | nil => rfl
  | cons a rest ih =>
    obtain ⟨b, hb⟩ := Option.isSome_iff_exists.mp (h a List.mem_cons_self)
    rw [List.filterMap_cons_some hb]
    cases i with
    | zero => simp [hb]
    | succ i => simpa using ih (fun other hother => h other (List.mem_cons_of_mem a hother)) i

theorem length_flatten_of_width {rows : List (List α)} (h : ∀ row ∈ rows, row.length = width) :
    rows.flatten.length = rows.length * width := by
  induction rows with
  | nil => simp
  | cons row rest ih =>
    obtain ⟨hrow, hrest⟩ := List.forall_mem_cons.mp h
    rw [List.flatten_cons, List.length_append, hrow, ih hrest, List.length_cons, Nat.succ_mul,
      Nat.add_comm]

/-- The place of a cell in rows of one width. -/
theorem getElem?_flatten_of_width {rows : List (List α)} (h : ∀ row ∈ rows, row.length = width)
    {column : Nat} (hcolumn : column < width) (r : Nat) :
    rows.flatten[r * width + column]? = rows[r]?.bind fun row => row[column]? := by
  induction rows generalizing r with
  | nil => simp
  | cons row rest ih =>
    obtain ⟨hrow, hrest⟩ := List.forall_mem_cons.mp h
    rw [List.flatten_cons]
    cases r with
    | zero =>
      rw [Nat.zero_mul, Nat.zero_add, List.getElem?_append_left (by omega)]
      rfl
    | succ r =>
      have hskip : (r + 1) * width + column = row.length + (r * width + column) := by
        rw [hrow, Nat.succ_mul]
        omega
      rw [hskip, List.getElem?_append_right (Nat.le_add_right _ _), Nat.add_sub_cancel_left,
        ih hrest]
      rfl

/-- The cells of a column, looked up one after the other. -/
theorem flatMap_getElem? {cells : List α} {height : Nat} (h : cells.length ≤ height) :
    (List.range height).flatMap (fun r => cells[r]?.toList) = cells := by
  have htake (n : Nat) : (List.range n).flatMap (fun r => cells[r]?.toList) = cells.take n := by
    induction n with
    | zero => rfl
    | succ n ih => rw [List.range_succ, List.flatMap_append, ih, List.take_add_one]; simp
  rw [htake, List.take_of_length_le h]

/-- Transposing columns neither loses nor doubles a cell. -/
theorem transpose_perm {columns : List (List α)} {height : Nat}
    (h : ∀ cells ∈ columns, cells.length ≤ height) :
    ((List.range height).map fun r => columns.filterMap fun cells => cells[r]?).flatten.Perm
      columns.flatten := by
  rw [← List.flatMap_def]
  induction columns with
  | nil => simp
  | cons cells rest ih =>
    obtain ⟨hcells, hrest⟩ := List.forall_mem_cons.mp h
    have hhead (r : Nat) : (cells :: rest).filterMap (fun cells => cells[r]?) =
        cells[r]?.toList ++ rest.filterMap fun cells => cells[r]? := by
      cases hcell : cells[r]? <;> simp [hcell]
    simp only [hhead, List.flatten_cons]
    exact (List.flatMap_append_perm _ _ _).symm.trans
      (.append (.of_eq (flatMap_getElem? hcells)) (ih hrest))

end Transposition

namespace Columns

variable {α : Type} (columns : Columns α)

theorem length_names : columns.names.length = columns.values.length := by
  simp [names, values]

theorem rowCount_le_iff (height : Nat) :
    columns.rowCount ≤ height ↔ ∀ cells ∈ columns.values, cells.length ≤ height := by
  have hfold (lengths : List Nat) (start : Nat) :
      lengths.foldl max start ≤ height ↔ start ≤ height ∧ ∀ n ∈ lengths, n ≤ height := by
    induction lengths generalizing start with
    | nil => simp
    | cons n rest ih =>
      rw [List.foldl_cons, ih, Nat.max_le, List.forall_mem_cons, and_assoc]
  rw [rowCount, hfold, List.forall_mem_map]
  exact and_iff_right (Nat.zero_le height)

theorem length_le_rowCount {columns : Columns α} {cells : List α} (h : cells ∈ columns.values) :
    cells.length ≤ columns.rowCount :=
  (columns.rowCount_le_iff columns.rowCount).mp (Nat.le_refl _) cells h

theorem rowCount_of_height {columns : Columns α} {height : Nat} (hne : columns.names ≠ [])
    (h : ∀ cells ∈ columns.values, cells.length = height) : columns.rowCount = height := by
  have hvalues : columns.values ≠ [] := by
    rw [← List.length_pos_iff, length_names, List.length_pos_iff] at hne
    exact hne
  obtain ⟨cells, rest, heq⟩ := List.exists_cons_of_ne_nil hvalues
  have hmem : cells ∈ columns.values := heq ▸ List.mem_cons_self
  have hle : columns.rowCount ≤ height :=
    (columns.rowCount_le_iff height).mpr fun cells hcells => Nat.le_of_eq (h cells hcells)
  have hge := length_le_rowCount hmem
  rw [h cells hmem] at hge
  exact Nat.le_antisymm hle hge

/-- A row has a cell of each column exactly if all columns reach down to it. -/
theorem length_row_iff (r : Nat) :
    (columns.row r).length = columns.names.length ↔ ∀ cells ∈ columns.values, r < cells.length := by
  rw [row, length_names, List.filterMap_length_eq_length]
  simp

/-- Whatever the lengths of the columns are, the rows hold the same cells. -/
theorem flatten_rows_perm : columns.rows.flatten.Perm columns.values.flatten :=
  transpose_perm fun _ hcells => length_le_rowCount hcells

end Columns

theorem Value.isBindable_iff (value : Value) :
    value.isBindable = true ↔ value.kind = .null ∨ value.kind.isScalar = true := by
  simp [isBindable, isNull]

theorem checkAllBindable_eq_ok_iff (values : List Value) :
    checkAllBindable values = .ok () ↔ ∀ value ∈ values, value.isBindable = true := by
  induction values with
  | nil => simp [checkAllBindable]
  | cons value rest ih =>
    rw [checkAllBindable, check_bind_eq_ok, ih, Value.checkBindable, ensure_eq_ok,
      List.forall_mem_cons]

namespace Insert

theorem checkRows_eq_ok_iff (width : Nat) (rows : List (List Value)) :
    checkRows width rows = .ok () ↔
      (∀ row ∈ rows, row.length = width) ∧ ∀ value ∈ rows.flatten, value.isBindable = true := by
  induction rows with
  | nil => simp [checkRows]
  | cons row rest ih =>
    rw [checkRows, check_bind_eq_ok, check_bind_eq_ok, ih, ensure_eq_ok, beq_iff_eq,
      checkAllBindable_eq_ok_iff, List.forall_mem_cons, List.flatten_cons, List.forall_mem_append]
    tauto

/-- The cells are a table: there is at least one column, no column lacks a name, and all columns
have the same number of cells, which is not zero. Each cell is a scalar or null. -/
structure Rectangular (query : Insert) (height : Nat) : Prop where
  table : query.table ≠ ""
  columns : query.cells.names ≠ []
  named : ∀ name ∈ query.cells.names, name ≠ ""
  rows : 1 ≤ height
  filled : ∀ cells ∈ query.cells.values, cells.length = height
  bindable : ∀ cells ∈ query.cells.values, ∀ value ∈ cells,
    value.kind = .null ∨ value.kind.isScalar = true

/-- The rows are as wide as the table exactly if all columns are as long as the longest one. -/
theorem rows_full_iff {columns : Columns Value} (h : columns.rowCount ≠ 0) :
    (∀ row ∈ columns.rows, row.length = columns.names.length) ↔
      ∀ cells ∈ columns.values, cells.length = columns.rowCount := by
  simp only [Columns.rows, List.forall_mem_map, List.mem_range, columns.length_row_iff]
  constructor
  · intro hfull cells hcells
    have hlast := hfull (columns.rowCount - 1) (by omega) cells hcells
    have hle := Columns.length_le_rowCount hcells
    omega
  · intro hfull r hr cells hcells
    rw [hfull cells hcells]
    exact hr

theorem validate_eq_ok_iff (query : Insert) :
    query.validate = .ok () ↔ ∃ height, query.Rectangular height := by
  have hcells : (∀ value ∈ query.cells.rows.flatten, value.isBindable = true) ↔
      ∀ cells ∈ query.cells.values, ∀ value ∈ cells,
        value.kind = .null ∨ value.kind.isScalar = true := by
    simp only [query.cells.flatten_rows_perm.mem_iff, Value.isBindable_iff, List.mem_flatten]
    exact ⟨fun h cells hcells value hvalue => h value ⟨cells, hcells, hvalue⟩,
      fun h value ⟨cells, hcells, hvalue⟩ => h cells hcells value hvalue⟩
  have hrows : query.cells.rows = [] ↔ query.cells.rowCount = 0 := by
    simp [Columns.rows]
  simp only [validate, check_bind_eq_ok, ensure_eq_ok, checkRows_eq_ok_iff, hcells,
    Bool.not_eq_true', List.isEmpty_eq_false_iff, List.all_eq_true, String.isEmpty_eq_false_iff,
    ne_eq, hrows]
  constructor
  · rintro ⟨htable, hcolumns, hnamed, hcount, hfull, hbindable⟩
    exact ⟨query.cells.rowCount, htable, hcolumns, hnamed, Nat.one_le_iff_ne_zero.mpr hcount,
      (rows_full_iff hcount).mp hfull, hbindable⟩
  · rintro ⟨height, htable, hcolumns, hnamed, hheight, hfilled, hbindable⟩
    have hcount := Columns.rowCount_of_height hcolumns hfilled
    subst hcount
    have hne := Nat.one_le_iff_ne_zero.mp hheight
    exact ⟨htable, hcolumns, hnamed, hne, (rows_full_iff hne).mpr hfilled, hbindable⟩

/-- The marks of row `r` of a table, counted through all rows before it. -/
def rowText (dialect : Dialect) (width r : Nat) : String :=
  "(" ++ ", ".intercalate ((List.range width).map fun c => dialect.mark (r * width + c + 1)) ++ ")"

theorem placeholder_of_width (dialect : Dialect) (count width : Nat) :
    dialect.placeholder (count + 1) (count + width) =
      ", ".intercalate ((List.range width).map fun c => dialect.mark (count + c + 1)) := by
  cases width with
  | zero => simp [Dialect.placeholder]
  | succ width =>
    have hlength : count + (width + 1) - (count + 1) + 1 = width + 1 := by omega
    have hshift (c : Nat) : count + 1 + c = count + c + 1 := by omega
    rw [Dialect.placeholder, if_neg (by omega), hlength, List.range'_eq_map_range, List.map_map]
    simp only [Function.comp_def, hshift]

/-- Each row goes on counting where the rows before it have stopped. -/
theorem rowMarks_of_width (dialect : Dialect) {width : Nat} {rows : List (List Value)}
    (h : ∀ row ∈ rows, row.length = width) (r : Nat) :
    rowMarks dialect (r * width) rows =
      (List.range' r rows.length).map (rowText dialect width) := by
  induction rows generalizing r with
  | nil => rfl
  | cons row rest ih =>
    obtain ⟨hrow, hrest⟩ := List.forall_mem_cons.mp h
    rw [rowMarks, hrow, ← Nat.succ_mul, ih hrest, Nat.succ_mul, placeholder_of_width,
      List.length_cons, List.range'_succ, List.map_cons, rowText]

/-- What a table of cells is written and bound as. The rows stand one behind the other in the text
and in the arguments, and the cell in row `r` and column `c` is the argument that is marked
there. -/
structure Tabulates (query : Insert) (height : Nat) (dialect : Dialect) (compiled : Compiled) :
    Prop where
  sql_eq : compiled.sql = "insert into " ++ query.table ++ "("
    ++ ", ".intercalate query.cells.names ++ ") values "
    ++ ", ".intercalate ((List.range height).map (rowText dialect query.cells.names.length))
  size_eq : compiled.args.size = height * query.cells.names.length
  cell : ∀ r < height, ∀ c name cells, query.cells.entries[c]? = some (name, cells) →
    ∃ value, cells[r]? = some value ∧
      compiled.args[r * query.cells.names.length + c]? = some value
  perm : compiled.args.toList.Perm query.cells.values.flatten

/-- The rows of a table are as many as it is high, and as wide as it has columns. -/
theorem Rectangular.rows_eq {query : Insert} {height : Nat} (h : query.Rectangular height) :
    query.cells.rows = (List.range height).map query.cells.row ∧
      ∀ row ∈ query.cells.rows, row.length = query.cells.names.length := by
  have hcount := Columns.rowCount_of_height h.columns h.filled
  have hheight := h.rows
  refine ⟨by rw [Columns.rows, hcount], (rows_full_iff (by omega)).mpr ?_⟩
  rw [hcount]
  exact h.filled

theorem Rectangular.cell {query : Insert} {height : Nat} (h : query.Rectangular height) {r : Nat}
    (hr : r < height) {c : Nat} {name : String} {cells : List Value}
    (hentry : query.cells.entries[c]? = some (name, cells)) :
    ∃ value, cells[r]? = some value ∧
      query.cells.rows.flatten[r * query.cells.names.length + c]? = some value := by
  obtain ⟨hrows, hwidth⟩ := h.rows_eq
  have hvalues : query.cells.values[c]? = some cells := by
    rw [Columns.values, List.getElem?_map, hentry]
    rfl
  have hc : c < query.cells.names.length := by
    rw [Columns.length_names]
    exact (List.getElem?_eq_some_iff.mp hvalues).1
  have hfilled : ∀ column ∈ query.cells.values, (column[r]?).isSome = true := by
    intro column hcolumn
    rw [isSome_getElem?, h.filled column hcolumn]
    exact hr
  obtain ⟨value, hvalue⟩ :=
    Option.isSome_iff_exists.mp (hfilled cells (List.mem_of_getElem? hvalues))
  have hrow : query.cells.rows[r]? = some (query.cells.row r) := by
    rw [hrows, List.getElem?_map, List.getElem?_range hr]
    rfl
  refine ⟨value, hvalue, ?_⟩
  rw [getElem?_flatten_of_width hwidth hc, hrow, Option.bind_some, Columns.row,
    getElem?_filterMap hfilled, hvalues]
  exact hvalue

theorem Rectangular.tabulates {query : Insert} {height : Nat} (h : query.Rectangular height)
    (dialect : Dialect) :
    query.Tabulates height dialect
      ⟨"insert into " ++ query.table ++ "(" ++ ", ".intercalate query.cells.names ++ ") values "
        ++ ", ".intercalate (rowMarks dialect 0 query.cells.rows),
        query.cells.rows.flatten.toArray⟩ := by
  obtain ⟨hrows, hwidth⟩ := h.rows_eq
  have hlength : query.cells.rows.length = height := by simp [hrows]
  have hmarks := rowMarks_of_width dialect hwidth 0
  rw [Nat.zero_mul, hlength, ← List.range_eq_range'] at hmarks
  refine ⟨by rw [hmarks], ?_, ?_, ?_⟩
  · rw [List.size_toArray, length_flatten_of_width hwidth, hlength]
  · intro r hr c name cells hentry
    obtain ⟨value, hvalue, hbound⟩ := h.cell hr hentry
    exact ⟨value, hvalue, by simpa using hbound⟩
  · exact query.cells.flatten_rows_perm

/-- An insert that compiles holds a table, and that is what it writes and binds. -/
theorem tabulates_of_compile {query : Insert} {context : Context} {compiled : Compiled}
    (h : query.compile context = .ok compiled) :
    ∃ height, query.Rectangular height ∧ query.Tabulates height context.dialect compiled := by
  rw [compile, check_bind_eq_ok] at h
  obtain ⟨hvalid, hcompiled⟩ := h
  obtain ⟨height, hrect⟩ := query.validate_eq_ok_iff.mp hvalid
  cases hcompiled
  exact ⟨height, hrect, hrect.tabulates context.dialect⟩

end Insert

end QueryTree
