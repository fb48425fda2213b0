/-!
The cells of an insert, column by column. The columns stand in strictly ascending order of their
names, by code points, so there is one form for each assignment of cells to columns.
-/

namespace QueryTree

/-- An assignment of values to named columns. -/
structure Columns (α : Type) where
  entries : List (String × List α)
  ascending : (entries.map Prod.fst).Pairwise (· < ·)

namespace Columns

variable {α : Type}

def empty : Columns α := ⟨[], .nil⟩

/-- The entries with the values of one column changed. A column that is not there has no values
yet, and is put at its place. -/
def alterEntries (column : String) (f : List α → List α) :
    List (String × List α) → List (String × List α)
  | [] => [(column, f [])]
  | (name, values) :: rest =>
    if column < name then (column, f []) :: (name, values) :: rest
    else if column = name then (name, f values) :: rest
    else (name, values) :: alterEntries column f rest

theorem mem_names_alterEntries {column name : String} {f : List α → List α}
    {entries : List (String × List α)}
    (h : name ∈ (alterEntries column f entries).map Prod.fst) :
    name = column ∨ name ∈ entries.map Prod.fst := by
  induction entries with
  | nil => simpa [alterEntries] using h
  | cons entry rest ih =>
    obtain ⟨head, values⟩ := entry
    unfold alterEntries at h
    split at h
    · simpa using h
    · split at h
      · exact .inr (by simpa using h)
      · rcases List.mem_cons.mp h with h | h
        · exact .inr (by simp [h])
        · rcases ih h with h | h
          · exact .inl h
          · exact .inr (List.mem_cons_of_mem _ h)

theorem alterEntries_ascending (column : String) (f : List α → List α)
    {entries : List (String × List α)} (h : (entries.map Prod.fst).Pairwise (· < ·)) :
    ((alterEntries column f entries).map Prod.fst).Pairwise (· < ·) := by
  induction entries with
  | nil => simp [alterEntries]
  | cons entry rest ih =>
    obtain ⟨head, values⟩ := entry
    obtain ⟨hhead, hrest⟩ := List.pairwise_cons.mp h
    unfold alterEntries
    split
    next hlt =>
      refine List.pairwise_cons.mpr ⟨?_, h⟩
      intro name hname
      rcases List.mem_cons.mp hname with rfl | hname
      · exact hlt
      · exact String.lt_trans hlt (hhead name hname)
    next hlt =>
      split
      next => exact h
      next hne =>
        refine List.pairwise_cons.mpr ⟨?_, ih hrest⟩
        intro name hname
        rcases mem_names_alterEntries hname with rfl | hname
        · exact Classical.byContradiction fun hge =>
            hne (String.le_antisymm (String.not_lt.mp hge) (String.not_lt.mp hlt))
        · exact hhead name hname

/-- Changes the values of one column, which has none if it is not there. -/
def alter (columns : Columns α) (column : String) (f : List α → List α) : Columns α :=
  ⟨alterEntries column f columns.entries, alterEntries_ascending column f columns.ascending⟩

/-- Puts a value at the end of a column. -/
def push (columns : Columns α) (column : String) (value : α) : Columns α :=
  columns.alter column (· ++ [value])

/-- Sets all values of a column, in place of those it may have had. -/
def put (columns : Columns α) (column : String) (values : List α) : Columns α :=
  columns.alter column (fun _ => values)

/-- The columns of a list of entries, of which the last one counts for a name that is repeated. -/
def ofList (entries : List (String × List α)) : Columns α :=
  entries.foldl (fun columns (name, values) => columns.put name values) empty

/-- The entries with the values of each column converted, up to the first column that fails. -/
def traverseEntries {β ε : Type} (f : List α → Except ε (List β)) :
    List (String × List α) → Except ε (List (String × List β))
  | [] => .ok []
  | (name, values) :: rest => do
    let values ← f values
    let entries ← traverseEntries f rest
    .ok ((name, values) :: entries)

theorem names_traverseEntries {β ε : Type} {f : List α → Except ε (List β)}
    {entries : List (String × List α)} {converted : List (String × List β)}
    (h : traverseEntries f entries = .ok converted) :
    converted.map Prod.fst = entries.map Prod.fst := by
  induction entries generalizing converted with
  | nil => cases h; rfl
  | cons entry rest ih =>
    obtain ⟨name, values⟩ := entry
    unfold traverseEntries at h
    cases hvalues : f values with
    | error e => simp [hvalues, bind, Except.bind] at h
    | ok values =>
      cases hrest : traverseEntries f rest with
      | error e => simp [hvalues, hrest, bind, Except.bind] at h
      | ok entries =>
        simp only [hvalues, hrest, bind, Except.bind, Except.ok.injEq] at h
        subst h
        simp [ih hrest]

/-- Converts the values of each column and keeps the names. -/
def traverse {β ε : Type} (columns : Columns α) (f : List α → Except ε (List β)) :
    Except ε (Columns β) :=
  match h : traverseEntries f columns.entries with
  | .error e => .error e
  | .ok entries => .ok ⟨entries, names_traverseEntries h ▸ columns.ascending⟩

def names (columns : Columns α) : List String :=
  columns.entries.map Prod.fst

/-- The values of the columns, in the order of the names. -/
def values (columns : Columns α) : List (List α) :=
  columns.entries.map Prod.snd

/-- The length of the longest column. -/
def rowCount (columns : Columns α) : Nat :=
  (columns.values.map List.length).foldl max 0

/-- What the columns have in one row, from left to right. A column that is too short has nothing
there. -/
def row (columns : Columns α) (index : Nat) : List α :=
  columns.values.filterMap (fun cells => cells[index]?)

def rows (columns : Columns α) : List (List α) :=
  (List.range columns.rowCount).map columns.row

end Columns

end QueryTree
