import QueryTree.Proofs.Conditions
import QueryTree.Tree.Build

/-!
Which rows an update or a delete is restricted to. Both are refused without a filter, but a filter
need not have a condition: a logic whose children are all absent passes the checks and renders
nothing. Then there is no where clause and every row is changed. In all other cases the where clause
holds every condition of the filter.
-/

namespace QueryTree

open Piece

/-- The condition compiles by itself, behind some arguments, and what it compiles to is a part of
the text. -/
def Filter.StandsIn (condition : Filter) (context : Context) (text : String) : Prop :=
  ∃ inner args fragment before after,
    inner.dialect = context.dialect ∧ condition.compile inner args = .ok fragment ∧
      text = before ++ fragment.sql ++ after

/-- The statement that starts with `head` goes on with a where clause in which all conditions of the
filter stand. Without a condition it ends there. -/
structure Filter.Restricts (filter : Filter) (context : Context) (head sql : String) : Prop where
  unrestricted : filter.conditions = [] → sql = head
  restricted : filter.conditions ≠ [] → ∃ text, sql = head ++ " where " ++ text ∧ text ≠ "" ∧
    ∀ condition ∈ filter.conditions, condition.StandsIn context text

section Clause

variable {context : Context} {filter : Filter}

theorem Filter.standsIn_of_mem {condition : Filter} (h : filter.accept context = .ok ())
    (hmem : condition ∈ filter.conditions) (args : Array Value) :
    condition.StandsIn context (fill context.dialect args.size (filter.pieces true)) := by
  have hinfix : condition.pieces true <:+: filter.pieces true := infix_pieces hmem
  obtain ⟨before, after, hpieces⟩ := hinfix
  obtain ⟨inner, hdialect, haccept⟩ := accept_of_mem_conditions h hmem
  have hcompile : condition.compile inner (args ++ slots before) =
      .ok (.ofPieces inner.dialect (args ++ slots before) (condition.pieces true)) := by
    rw [compile_eq, haccept, map_ok]
  have htext : fill context.dialect args.size (filter.pieces true) =
      fill context.dialect args.size before
        ++ fill inner.dialect (args ++ slots before).size (condition.pieces true)
        ++ fill context.dialect (args.size + (slots (before ++ condition.pieces true)).length)
          after := by
    rw [← hpieces, fill_append, fill_append, size_append_values, hdialect]
  exact ⟨inner, _, _, _, _, hdialect, hcompile, htext⟩

theorem Filter.restricts_of_accept (h : filter.accept context = .ok ()) (pieces : List Piece) :
    filter.Restricts context (fill context.dialect 0 pieces)
      (fill context.dialect 0 (pieces ++ wherePieces (some filter))) := by
  have hempty : filter.pieces true = [] ↔ filter.conditions = [] := pieces_eq_nil_iff h
  rw [fill_append, wherePieces,
    fill_ofWhere _ _ _ fun hne => filter.fill_root_ne_empty context.dialect hne _]
  constructor
  · intro hnone
    simp [hempty.mpr hnone, fill]
  · intro hsome
    have hvisible := filter.fill_root_ne_empty context.dialect (hsome ∘ hempty.mp)
      (0 + (slots pieces).length)
    rw [if_neg (by simpa using hvisible), ← String.append_assoc]
    refine ⟨_, rfl, hvisible, ?_⟩
    intro condition hmem
    have hstands := standsIn_of_mem h hmem (slots pieces).toArray
    rwa [List.size_toArray, ← Nat.zero_add (slots pieces).length] at hstands

end Clause

/-- A statement that is refused without a filter has one that is accepted. -/
theorem accept_of_acceptWhere {context : Context} {filter : Option Filter}
    (hsome : filter.isSome = true) (h : acceptWhere context filter = .ok ()) :
    ∃ present, filter = some present ∧ present.accept context = .ok () := by
  obtain ⟨present, rfl⟩ := Option.isSome_iff_exists.mp hsome
  exact ⟨present, rfl, h⟩

theorem Update.filter_of_accept {context : Context} {query : Update}
    (h : query.accept context = .ok ()) :
    ∃ filter, query.filter = some filter ∧ filter.accept context = .ok () := by
  simp only [accept, validate, bind_eq_ok, ensure_eq_ok] at h
  obtain ⟨_, ⟨_, -, _, -, _, -, hsome⟩, hwhere⟩ := h
  exact accept_of_acceptWhere hsome hwhere

theorem Delete.filter_of_accept {context : Context} {query : Delete}
    (h : query.accept context = .ok ()) :
    ∃ filter, query.filter = some filter ∧ filter.accept context = .ok () := by
  simp only [accept, validate, bind_eq_ok, ensure_eq_ok] at h
  obtain ⟨_, ⟨_, -, hsome⟩, hwhere⟩ := h
  exact accept_of_acceptWhere hsome hwhere

/-- An update or a delete that compiles has a filter, and is restricted to all of its conditions. -/
theorem compile_restricts_to_conditions (context : Context) :
    (∀ (query : Update) (compiled : Compiled), query.compile context = .ok compiled →
      ∃ filter, query.filter = some filter ∧
        filter.Restricts context
          ("update " ++ query.table ++ " set " ++
            ", ".intercalate (Update.assignmentTexts context.dialect 0 query.assignments))
          compiled.sql) ∧
    (∀ (query : Delete) (compiled : Compiled), query.compile context = .ok compiled →
      ∃ filter, query.filter = some filter ∧
        filter.Restricts context ("delete from " ++ query.table) compiled.sql) := by
  constructor
  · intro query compiled hcompile
    rw [query.compile_eq, map_eq_ok] at hcompile
    obtain ⟨_, haccept, rfl⟩ := hcompile
    obtain ⟨filter, hfilter, haccept⟩ := query.filter_of_accept haccept
    have hrestricts := Filter.restricts_of_accept haccept
      ([.text ("update " ++ query.table ++ " set ")]
        ++ commaSeparated (assignmentPieces query.assignments))
    rw [fill_append, fill_commaSeparated, ← assignmentTexts_eq] at hrestricts
    refine ⟨filter, hfilter, ?_⟩
    rw [Update.pieces, hfilter]
    simpa [Compiled.ofPieces, fill] using hrestricts
  · intro query compiled hcompile
    rw [query.compile_eq, map_eq_ok] at hcompile
    obtain ⟨_, haccept, rfl⟩ := hcompile
    obtain ⟨filter, hfilter, haccept⟩ := query.filter_of_accept haccept
    have hrestricts := Filter.restricts_of_accept haccept [.text ("delete from " ++ query.table)]
    refine ⟨filter, hfilter, ?_⟩
    rw [Delete.pieces, hfilter]
    simpa [Compiled.ofPieces, fill] using hrestricts

/-- The sessions that have expired or belong to nobody. -/
def staleSessions : Filter :=
  .any [.condition (.ofColumn "expired") .equal (.bool true), .isNull (.ofColumn "user_id")]

theorem staleSessions_restricts :
    ∃ compiled text, Delete.compile ⟨.mysql, 0, {}⟩ ⟨"sessions", some staleSessions⟩ = .ok compiled ∧
      compiled.sql = "delete from sessions" ++ " where " ++ text ∧ text ≠ "" := by
  have hcompile : Delete.compile ⟨.mysql, 0, {}⟩ ⟨"sessions", some staleSessions⟩ =
      .ok (.ofPieces .mysql #[] (Delete.pieces ⟨"sessions", some staleSessions⟩)) := by
    rw [Delete.compile_eq]
    rfl
  obtain ⟨filter, hfilter, hrestricts⟩ :=
    (compile_restricts_to_conditions ⟨.mysql, 0, {}⟩).2 _ _ hcompile
  cases hfilter
  obtain ⟨text, hsql, hne, -⟩ := hrestricts.restricted nofun
  exact ⟨_, text, hcompile, hsql, hne⟩

/-- A filter may pass all checks and restrict nothing, here with a logic inside of a logic. -/
theorem delete_without_where_clause :
    ¬ ∀ (context : Context) (query : Delete) (compiled : Compiled),
      query.compile context = .ok compiled →
        ∃ head text, compiled.sql = head ++ " where " ++ text ∧ text ≠ "" := by
  intro h
  let query : Delete := ⟨"t", some ((Filter.all [.addOptional (.any []) none]).addOptional none)⟩
  have hcompile : query.compile ⟨.mysql, 0, {}⟩ = .ok (.ofPieces .mysql #[] query.pieces) := by
    rw [Delete.compile_eq]
    rfl
  obtain ⟨head, text, hsql, -⟩ := h _ _ _ hcompile
  have hmem : 'w' ∈ (head ++ " where " ++ text).toList := by simp
  rw [← hsql] at hmem
  revert hmem
  decide +kernel

end QueryTree
