import QueryTree.Proofs.Assignments
import QueryTree.Proofs.RowMajor

/-!
The order in which the cells of an insert arrive. A cell goes to the end of its column, and where
its column stands depends on the names of the columns alone. So only the order of the cells within a
column matters: columns are equal if they hold the same under every name, and what they hold under a
name is what was given for it, in the order in which it was given.
-/

namespace QueryTree

/-- The values that are given for a column, in the order in which they are given. -/
def valuesFor {α : Type} (column : String) (calls : List (String × α)) : List α :=
  (calls.filter fun call => call.1 = column).map Prod.snd

namespace Columns

variable {α : Type}

section Lookup

/-- A name that comes before the first of ascending names is none of them. -/
theorem notMem_of_lt {column head : String} {names : List String}
    (h : (head :: names).Pairwise (· < ·)) (hlt : column < head) : column ∉ head :: names := by
  intro hmem
  rcases List.mem_cons.mp hmem with rfl | hmem
  · exact String.lt_irrefl column hlt
  · have hhead : head < column := (List.pairwise_cons.mp h).1 column hmem
    exact String.lt_irrefl column (String.lt_trans hlt hhead)

/-- Changing a column changes what is held under its name, and nothing else. -/
theorem lookup_alterEntries (column name : String) (f : List α → List α)
    {entries : List (String × List α)} (h : (entries.map Prod.fst).Pairwise (· < ·)) :
    (alterEntries column f entries).lookup name =
      if name = column then some (f ((entries.lookup column).getD []))
      else entries.lookup name := by
  induction entries with
  | nil => exact lookup_cons_eq name column (f []) []
  | cons entry rest ih =>
    obtain ⟨head, cells⟩ := entry
    rw [alterEntries]
    by_cases hlt : column < head
    · have hnew : ((head, cells) :: rest).lookup column = none :=
        lookup_eq_none_iff_notMem.mpr (notMem_of_lt h hlt)
      rw [if_pos hlt, lookup_cons_eq, hnew]
      rfl
    · rw [if_neg hlt]
      by_cases heq : column = head
      · have hself : ((head, cells) :: rest).lookup head = some cells := List.lookup_cons_self
        rw [if_pos heq, heq, hself, lookup_cons_eq, lookup_cons_eq]
        split <;> rfl
      · rw [if_neg heq, lookup_cons_eq, lookup_cons_eq, lookup_cons_eq, if_neg heq,
          ih (List.pairwise_cons.mp h).2]
        by_cases hname : name = head
        · have hother : head ≠ column := Ne.symm heq
          rw [hname, if_pos rfl, if_neg hother, if_pos rfl]
        · rw [if_neg hname, if_neg hname]

theorem lookup_of_mem {entries : List (String × List α)} {name : String} {cells : List α}
    (h : (entries.map Prod.fst).Pairwise (· < ·)) (hmem : (name, cells) ∈ entries) :
    entries.lookup name = some cells := by
  induction entries with
  | nil => cases hmem
  | cons entry rest ih =>
    obtain ⟨head, first⟩ := entry
    obtain ⟨hhead, hrest⟩ := List.pairwise_cons.mp h
    rw [lookup_cons_eq]
    rcases List.mem_cons.mp hmem with heq | hmem
    · cases heq
      exact if_pos rfl
    · have hlt : head < name := hhead name (List.mem_map_of_mem hmem)
      have hne : name ≠ head := by
        intro heq
        exact String.lt_irrefl head (heq ▸ hlt)
      rw [if_neg hne]
      exact ih hrest hmem

theorem mem_entries_iff (columns : Columns α) (name : String) (cells : List α) :
    (name, cells) ∈ columns.entries ↔ columns.entries.lookup name = some cells :=
  ⟨lookup_of_mem columns.ascending, mem_of_lookup⟩

theorem nodup_entries (columns : Columns α) : columns.entries.Nodup := by
  have hascending := List.pairwise_map.mp columns.ascending
  apply hascending.imp
  intro entry other hlt heq
  rw [heq] at hlt
  exact String.lt_irrefl other.1 hlt

/-- There is one form for what columns hold. -/
theorem eq_of_lookup {first second : Columns α}
    (h : ∀ name, first.entries.lookup name = second.entries.lookup name) : first = second := by
  have hmem : ∀ entry, entry ∈ first.entries ↔ entry ∈ second.entries := by
    intro entry
    obtain ⟨name, cells⟩ := entry
    rw [mem_entries_iff, mem_entries_iff, h]
  have hperm : first.entries.Perm second.entries :=
    (List.perm_ext_iff_of_nodup first.nodup_entries second.nodup_entries).mpr hmem
  have hentries : first.entries = second.entries := by
    apply hperm.eq_of_pairwise _ (List.pairwise_map.mp first.ascending)
      (List.pairwise_map.mp second.ascending)
    intro entry other _ _ hlt hgt
    exact absurd (String.lt_trans hlt hgt) (String.lt_irrefl entry.1)
  cases first
  cases second
  simp only at hentries
  subst hentries
  rfl

end Lookup

section Calls

/-- The columns hold, for each column that was given a value, the values that it was given. -/
def Collects (columns : Columns α) (calls : List (String × α)) : Prop :=
  ∀ column, columns.entries.lookup column =
    if column ∈ calls.map Prod.fst then some (valuesFor column calls) else none

theorem valuesFor_eq_nil {column : String} {calls : List (String × α)} :
    valuesFor column calls = [] ↔ column ∉ calls.map Prod.fst := by
  rw [valuesFor, List.map_eq_nil_iff, List.filter_eq_nil_iff]
  constructor
  · intro hnone hmem
    obtain ⟨call, hcall, hname⟩ := List.mem_map.mp hmem
    exact hnone call hcall (decide_eq_true hname)
  · intro hnew call hcall hname
    exact hnew (List.mem_map.mpr ⟨call, hcall, of_decide_eq_true hname⟩)

theorem valuesFor_concat (column name : String) (value : α) (calls : List (String × α)) :
    valuesFor name (calls ++ [(column, value)]) =
      if name = column then valuesFor name calls ++ [value] else valuesFor name calls := by
  by_cases hname : name = column
  · simp [valuesFor, hname]
  · have hother : column ≠ name := Ne.symm hname
    simp [valuesFor, hname, hother]

theorem Collects.empty : (Columns.empty : Columns α).Collects [] :=
  fun _ => rfl

/-- One more value goes to the end of its column. -/
theorem Collects.push {columns : Columns α} {calls : List (String × α)} (h : columns.Collects calls)
    (column : String) (value : α) :
    (columns.push column value).Collects (calls ++ [(column, value)]) := by
  intro name
  have hheld : (columns.entries.lookup column).getD [] = valuesFor column calls := by
    rw [h column]
    split
    next => rfl
    next hnew => exact (valuesFor_eq_nil.mpr hnew).symm
  have hpush : (columns.push column value).entries.lookup name =
      if name = column then some (valuesFor column calls ++ [value])
      else columns.entries.lookup name := by
    have halter := lookup_alterEntries column name (· ++ [value]) columns.ascending
    rwa [hheld] at halter
  rw [hpush, valuesFor_concat, List.map_append, h name]
  by_cases hname : name = column
  · simp [hname]
  · have hgiven : name ∈ calls.map Prod.fst ++ [(column, value)].map Prod.fst ↔
        name ∈ calls.map Prod.fst := by
      simp [hname]
    simp only [if_neg hname, hgiven]

theorem collects_foldl (calls : List (String × α)) :
    (calls.foldl (fun columns call => columns.push call.1 call.2) Columns.empty).Collects
      calls := by
  -- The last call is one more value behind all others.
  induction calls using List.reverseRecOn with
  | nil => exact .empty
  | append_singleton earlier call ih =>
    rw [List.foldl_append]
    exact ih.push call.1 call.2

/-- Columns that collect the same for each column are the same. -/
theorem Collects.unique {first second : Columns α} {calls others : List (String × α)}
    (hfirst : first.Collects calls) (hsecond : second.Collects others)
    (h : ∀ column, valuesFor column calls = valuesFor column others) : first = second := by
  apply eq_of_lookup
  intro column
  have hgiven : column ∈ calls.map Prod.fst ↔ column ∈ others.map Prod.fst := by
    rw [← not_iff_not, ← valuesFor_eq_nil, ← valuesFor_eq_nil, h]
  rw [hfirst column, hsecond column, h]
  simp only [hgiven]

theorem Collects.mem_iff {columns : Columns α} {calls : List (String × α)}
    (h : columns.Collects calls) (column : String) (cells : List α) :
    (column, cells) ∈ columns.entries ↔
      column ∈ calls.map Prod.fst ∧ cells = valuesFor column calls := by
  rw [mem_entries_iff, h column]
  split
  next hgiven => simp [hgiven, eq_comm]
  next hnew => simp [hnew]

end Calls

end Columns

namespace Insert

/-- Gives values to columns one after the other. -/
def addAll (query : Insert) (calls : List (String × Value)) : Insert :=
  calls.foldl (fun query call => query.addValue call.1 call.2) query

theorem addAll_eq (query : Insert) (calls : List (String × Value)) :
    query.addAll calls =
      { query with
        cells := calls.foldl (fun columns call => columns.push call.1 call.2) query.cells } := by
  induction calls generalizing query with
  | nil => rfl
  | cons call rest ih => exact ih (query.addValue call.1 call.2)

/-- The insert into a table that gets its values by the given calls. -/
def ofCalls (table : String) (calls : List (String × Value)) : Insert :=
  (intoTable {} table).addAll calls

theorem ofCalls_eq (table : String) (calls : List (String × Value)) :
    ofCalls table calls =
      ⟨table, calls.foldl (fun columns call => columns.push call.1 call.2) .empty⟩ :=
  addAll_eq _ calls

theorem collects_ofCalls (table : String) (calls : List (String × Value)) :
    (ofCalls table calls).cells.Collects calls := by
  rw [ofCalls_eq]
  exact Columns.collects_foldl calls

/-- The rows are filled by the calls: each column is given as many values as there are rows, and the
value that it is given in its call `n` is bound in its place in row `n`. -/
structure FillsRows (query : Insert) (calls : List (String × Value)) (dialect : Dialect)
    (compiled : Compiled) : Prop where
  rows : ∃ height, query.Tabulates height dialect compiled ∧
    ∀ column ∈ query.cells.names, (valuesFor column calls).length = height
  cell : ∀ (c : Nat) column, query.cells.names[c]? = some column →
    ∀ (n : Nat) value, (valuesFor column calls)[n]? = some value →
      compiled.args[n * query.cells.names.length + c]? = some value

theorem fillsRows_of_compile {query : Insert} {calls : List (String × Value)} {context : Context}
    {compiled : Compiled} (hcollects : query.cells.Collects calls)
    (h : query.compile context = .ok compiled) :
    query.FillsRows calls context.dialect compiled := by
  obtain ⟨height, hrect, htable⟩ := tabulates_of_compile h
  -- What stands in a column is what was given for it.
  have hentry (c : Nat) (column : String) (hname : query.cells.names[c]? = some column) :
      query.cells.entries[c]? = some (column, valuesFor column calls) := by
    obtain ⟨⟨name, cells⟩, hc, hfst⟩ := Option.map_eq_some_iff.mp (List.getElem?_map ▸ hname)
    cases hfst
    obtain ⟨-, hcells⟩ := (hcollects.mem_iff name cells).mp (List.mem_of_getElem? hc)
    rw [hc, hcells]
  have hlength : ∀ column ∈ query.cells.names, (valuesFor column calls).length = height := by
    intro column hcolumn
    obtain ⟨c, hc⟩ := List.mem_iff_getElem?.mp hcolumn
    apply hrect.filled
    exact List.mem_map_of_mem (List.mem_of_getElem? (hentry c column hc))
  refine ⟨⟨height, htable, hlength⟩, ?_⟩
  intro c column hname n value hvalue
  have hn : n < height := by
    rw [← hlength column (List.mem_of_getElem? hname)]
    exact (List.getElem?_eq_some_iff.mp hvalue).1
  obtain ⟨bound, hcell, harg⟩ := htable.cell n hn c column _ (hentry c column hname)
  rw [hvalue] at hcell
  cases hcell
  exact harg

/-- The order in which values are given across columns does not matter. A column holds what was
given for it, in that order; calls that agree column by column make the same insert, which compiles
alike; and if it compiles, call `n` for a column fills row `n`. -/
theorem order_across_columns_irrelevant (table : String) :
    (∀ (calls : List (String × Value)) column cells,
      (column, cells) ∈ (ofCalls table calls).cells.entries ↔
        column ∈ calls.map Prod.fst ∧ cells = valuesFor column calls) ∧
    (∀ first second : List (String × Value),
      (∀ column, valuesFor column first = valuesFor column second) →
        ofCalls table first = ofCalls table second ∧
        ∀ context, (ofCalls table first).compile context = (ofCalls table second).compile context) ∧
    (∀ (calls : List (String × Value)) context compiled,
      (ofCalls table calls).compile context = .ok compiled →
        (ofCalls table calls).FillsRows calls context.dialect compiled) := by
  refine ⟨?_, ?_, ?_⟩
  · intro calls
    exact (collects_ofCalls table calls).mem_iff
  · intro first second hsame
    have hcells : (ofCalls table first).cells = (ofCalls table second).cells :=
      (collects_ofCalls table first).unique (collects_ofCalls table second) hsame
    have heq : ofCalls table first = ofCalls table second := by
      rw [ofCalls_eq, ofCalls_eq] at hcells ⊢
      exact congrArg (Insert.mk table) hcells
    exact ⟨heq, fun context => by rw [heq]⟩
  · intro calls context compiled hcompile
    exact fillsRows_of_compile (collects_ofCalls table calls) hcompile

/-- Two rows, given row by row and column by column. -/
def visits : List (String × Value) × List (String × Value) :=
  ([("user", .string "ann"), ("at", .int 1), ("user", .string "bob"), ("at", .int 2)],
    [("at", .int 1), ("at", .int 2), ("user", .string "ann"), ("user", .string "bob")])

theorem visits_order_irrelevant :
    ∃ compiled,
      (ofCalls "visits" visits.1).compile ⟨.postgres, 0, {}⟩ = .ok compiled ∧
      (ofCalls "visits" visits.2).compile ⟨.postgres, 0, {}⟩ = .ok compiled ∧
      compiled.sql = "insert into visits(at, user) values ($1, $2), ($3, $4)" ∧
      compiled.args[2]? = some (.int 2) ∧ compiled.args[3]? = some (.string "bob") := by
  obtain ⟨-, hsame, hfills⟩ := order_across_columns_irrelevant "visits"
  have hvalues : ∀ column, valuesFor column visits.1 = valuesFor column visits.2 := by
    intro column
    by_cases huser : column = "user"
    · rw [huser]
      rfl
    · by_cases hat : column = "at"
      · rw [hat]
        rfl
      · have hnone (calls : List (String × Value))
            (h : ∀ call ∈ calls, call.1 = "user" ∨ call.1 = "at") :
            valuesFor column calls = [] := by
          rw [Columns.valuesFor_eq_nil]
          intro hmem
          obtain ⟨call, hcall, rfl⟩ := List.mem_map.mp hmem
          exact (h call hcall).elim huser hat
        rw [hnone visits.1 (by decide), hnone visits.2 (by decide)]
  obtain ⟨sql, hcompile⟩ : ∃ sql, (ofCalls "visits" visits.1).compile ⟨.postgres, 0, {}⟩ =
      .ok ⟨sql, #[.int 1, .string "ann", .int 2, .string "bob"]⟩ := ⟨_, rfl⟩
  have hrows := hfills _ _ _ hcompile
  obtain ⟨height, htable, hheight⟩ := hrows.rows
  have htwo : 2 = height := hheight "at" (by decide +kernel)
  subst htwo
  exact ⟨_, hcompile, ((hsame _ _ hvalues).2 _).symm.trans hcompile,
    htable.sql_eq.trans (by decide +kernel), hrows.cell 0 "at" rfl 1 (.int 2) rfl,
    hrows.cell 1 "user" rfl 1 (.string "bob") rfl⟩

end Insert

end QueryTree
