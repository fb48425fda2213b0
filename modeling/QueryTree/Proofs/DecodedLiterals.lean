import Mathlib.Data.List.ReduceOption
import QueryTree.Description.Decode
import QueryTree.Proofs.DescribedLiterals
import QueryTree.Proofs.RowMajor

/-!
Where the literals of a description come from. Decoding takes a description apart and keeps what
stands at the places of values as it is, in its JSON form; so each literal is the form of a part of
the data, unless it is the null of an assignment that has no value.
-/

namespace QueryTree

namespace Data

/-- The data are this part themselves, or have it in them. -/
inductive Holds : Data → Data → Prop
  | itself (data : Data) : Holds data data
  | item {items : List Data} {item part : Data} (hitem : item ∈ items) (hpart : Holds item part) :
      Holds (.list items) part
  | member {members : List (String × Data)} {name : String} {value part : Data}
      (hmember : (name, value) ∈ members) (hpart : Holds value part) : Holds (.table members) part

theorem Holds.trans {data part deeper : Data} (h : data.Holds part) (hpart : part.Holds deeper) :
    data.Holds deeper := by
  induction h with
  | itself data => exact hpart
  | item hitem _ ih => exact .item hitem (ih hpart)
  | member hmember _ ih => exact .member hmember (ih hpart)

/-- The tree is the JSON form of a part of the data. -/
def Yields (data : Data) (json : Json) : Prop :=
  ∃ part, data.Holds part ∧ json = part.toJson

theorem Yields.within {data part : Data} {json : Json} (h : part.Yields json)
    (hpart : data.Holds part) : data.Yields json := by
  obtain ⟨deeper, hdeeper, rfl⟩ := h
  exact ⟨deeper, hpart.trans hdeeper, rfl⟩

section Members

variable {α : Type} {data : Data}

/-- The members of data are parts of them. -/
theorem holds_of_members? {format : Format} {names : List String} {values : List (Option Data)}
    (h : data.members? format names = some values) {value : Data} (hvalue : some value ∈ values) :
    data.Holds value := by
  unfold members? at h
  split at h
  next members =>
    simp only at h
    split at h
    next =>
      cases h
      obtain ⟨name, -, hlookup⟩ := List.mem_map.mp hvalue
      exact .member (mem_of_lookup hlookup) (.itself value)
    next => cases h
  next items =>
    split at h
    next =>
      cases h
      obtain ⟨index, -, hitem⟩ := List.mem_map.mp hvalue
      exact .item (List.mem_of_getElem? hitem) (.itself value)
    next => cases h
  next => cases h

theorem optionally_eq_some {decode : Data → Option α} {value : Option Data} {result : α}
    (h : optionally decode value = some (some result)) :
    ∃ data, value = some data ∧ decode data = some result := by
  cases value with
  | none => cases h
  | some data =>
    refine ⟨data, rfl, ?_⟩
    have hnull : orNull decode data = some (some result) := h
    unfold orNull at hnull
    split at hnull
    next => cases hnull
    next =>
      obtain ⟨found, hfound, heq⟩ := Option.map_eq_some_iff.mp hnull
      cases heq
      exact hfound

theorem mem_of_mapM {β : Type} {decode : α → Option β} {items : List α} {results : List β}
    (h : items.mapM decode = some results) {result : β} (hresult : result ∈ results) :
    ∃ item ∈ items, decode item = some result := by
  induction items generalizing results with
  | nil =>
    cases h
    cases hresult
  | cons item rest ih =>
    rw [List.mapM_cons] at h
    obtain ⟨first, hfirst, h⟩ := Option.bind_eq_some_iff.mp h
    obtain ⟨others, hothers, h⟩ := Option.bind_eq_some_iff.mp h
    cases h
    rcases List.mem_cons.mp hresult with rfl | hmem
    · exact ⟨item, List.mem_cons_self, hfirst⟩
    · obtain ⟨found, hfound, hdecode⟩ := ih hothers hmem
      exact ⟨found, List.mem_cons_of_mem _ hfound, hdecode⟩

/-- What is decoded from a list that may be missing is decoded from an item of it. -/
theorem mem_of_asList? {decode : Data → Option α} {value : Option Data} {results : List α}
    (h : orMissing [] (asList? decode) value = some results) {result : α}
    (hresult : result ∈ results) :
    ∃ items item, value = some (.list items) ∧ item ∈ items ∧ decode item = some result := by
  cases value with
  | none =>
    cases h
    cases hresult
  | some list =>
    have hlist : list.asList? decode = some results := h
    unfold asList? at hlist
    split at hlist
    next items =>
      obtain ⟨item, hitem, hdecode⟩ := mem_of_mapM hlist hresult
      exact ⟨items, item, rfl, hitem, hdecode⟩
    next => cases hlist

theorem orNull_eq_some {decode : Data → Option α} {value : Data} {result : α}
    (h : orNull decode value = some (some result)) : decode value = some result := by
  have hpresent : optionally decode (some value) = some (some result) := h
  obtain ⟨found, heq, hfound⟩ := optionally_eq_some hpresent
  cases heq
  exact hfound

end Members

section Literals

/-- All of these literals are JSON forms of parts of the data. -/
def YieldsAll (data : Data) (literals : List Json) : Prop :=
  ∀ json ∈ literals, data.Yields json

variable {data : Data}

theorem YieldsAll.append {left right : List Json} (hleft : data.YieldsAll left)
    (hright : data.YieldsAll right) : data.YieldsAll (left ++ right) :=
  List.forall_mem_append.mpr ⟨hleft, hright⟩

theorem YieldsAll.within {part : Data} {literals : List Json} (h : part.YieldsAll literals)
    (hpart : data.Holds part) : data.YieldsAll literals :=
  fun json hjson => (h json hjson).within hpart

theorem yields_of_mem_toJsonItems {items : List Data} {json : Json} (h : json ∈ toJsonItems items) :
    ∃ item ∈ items, json = item.toJson := by
  induction items with
  | nil => cases h
  | cons item rest ih =>
    rcases List.mem_cons.mp h with rfl | hrest
    · exact ⟨item, List.mem_cons_self, rfl⟩
    · obtain ⟨found, hfound, heq⟩ := ih hrest
      exact ⟨found, List.mem_cons_of_mem _ hfound, heq⟩

/-- The items of a list that is a value are JSON forms of parts of it, and any other value is one
itself. -/
theorem yieldsAll_toJson (data : Data) : data.YieldsAll data.toJson.literals := by
  have hitself : data.YieldsAll [data.toJson] :=
    List.forall_mem_singleton.mpr ⟨data, .itself data, rfl⟩
  cases data with
  | list items =>
    intro json hjson
    obtain ⟨item, hitem, heq⟩ := yields_of_mem_toJsonItems hjson
    exact ⟨item, .item hitem (.itself item), heq⟩
  | null => nofun
  | nonFinite x => nofun
  | _ => exact hitself

/-- A sub-query that may be missing is decoded from a part, and so are its literals. -/
theorem yieldsAll_of_optionally {α : Type} {decode : Data → Option α} {value : Option Data}
    {values : List (Option Data)} {format : Format} {names : List String} {result : Option α}
    {literals : α → List Json}
    (hdecode : ∀ {part : Data} {found : α}, decode part = some found →
      part.YieldsAll (literals found))
    (hmembers : data.members? format names = some values) (hvalue : value ∈ values)
    (h : optionally decode value = some result) :
    data.YieldsAll ((result.map literals).getD []) := by
  cases result with
  | none => nofun
  | some found =>
    obtain ⟨part, rfl, hfound⟩ := optionally_eq_some h
    exact (hdecode hfound).within (holds_of_members? hmembers hvalue)

/-- Likewise for what is decoded from the items of a list, of which some may be null. -/
theorem yieldsAll_of_asList? {α : Type} {decode : Data → Option α} {value : Option Data}
    {values : List (Option Data)} {format : Format} {names : List String}
    {results : List (Option α)} {literals : α → List Json}
    (hdecode : ∀ {part : Data} {found : α}, decode part = some found →
      part.YieldsAll (literals found))
    (hmembers : data.members? format names = some values) (hvalue : value ∈ values)
    (h : orMissing [] (asList? (orNull decode)) value = some results) {found : α}
    (hfound : some found ∈ results) : data.YieldsAll (literals found) := by
  obtain ⟨items, item, rfl, hitem, hnull⟩ := mem_of_asList? h hfound
  have hlist := holds_of_members? hmembers hvalue
  exact (hdecode (orNull_eq_some hnull)).within (hlist.trans (.item hitem (.itself item)))

theorem fieldLiterals_eq (fields : List (Option FieldDescription)) :
    Described.fieldLiterals fields = fields.reduceOption.flatMap FieldDescription.literals := by
  induction fields with
  | nil => rfl
  | cons entry rest ih => cases entry <;> simp [Described.fieldLiterals, ih]

theorem childLiterals_eq (filters : List (Option FilterDescription)) :
    Described.childLiterals filters = filters.reduceOption.flatMap FilterDescription.literals := by
  induction filters with
  | nil => rfl
  | cons entry rest ih => cases entry <;> simp [Described.childLiterals, ih]

theorem yieldsAll_of_asWord? {take : UInt64} (h : asWord? data = some take) :
    data.YieldsAll [.number (.natural take)] := by
  unfold asWord? at h
  split at h
  next n =>
    cases h
    exact List.forall_mem_singleton.mpr ⟨_, .itself _, rfl⟩
  next => cases h

end Literals

section Queries

mutual

theorem asField?_yields : ∀ (fuel : Nat) {data : Data} {field : FieldDescription},
    asField? fuel data = some field → data.YieldsAll field.literals
  | 0, _, _, h => nomatch h
  | fuel + 1, data, field, h => by
    unfold asField? at h
    split at h
    next => cases h
    next =>
      cases h
      nofun
    next inner heq _ =>
      cases heq
      split at h
      next qualifier column subquery aliasName hmembers =>
        obtain ⟨_, -, h⟩ := Option.bind_eq_some_iff.mp h
        obtain ⟨_, -, h⟩ := Option.bind_eq_some_iff.mp h
        obtain ⟨query, hquery, h⟩ := Option.bind_eq_some_iff.mp h
        obtain ⟨_, -, h⟩ := Option.bind_eq_some_iff.mp h
        cases h
        have hyields := yieldsAll_of_optionally (asSelect?_yields fuel .json) hmembers
          (by simp) hquery
        cases query <;> exact hyields
      next => cases h

theorem asTable?_yields : ∀ (fuel : Nat) {data : Data} {source : TableDescription},
    asTable? fuel data = some source → data.YieldsAll source.literals
  | 0, _, _, h => nomatch h
  | fuel + 1, data, source, h => by
    unfold asTable? at h
    split at h
    next => cases h
    next =>
      cases h
      nofun
    next inner heq _ =>
      cases heq
      split at h
      next name subquery aliasName hmembers =>
        obtain ⟨_, -, h⟩ := Option.bind_eq_some_iff.mp h
        obtain ⟨query, hquery, h⟩ := Option.bind_eq_some_iff.mp h
        obtain ⟨_, -, h⟩ := Option.bind_eq_some_iff.mp h
        cases h
        have hyields := yieldsAll_of_optionally (asSelect?_yields fuel .json) hmembers
          (by simp) hquery
        cases query <;> exact hyields
      next => cases h

theorem asFilter?_yields : ∀ (fuel : Nat) (format : Format) {data : Data}
    {filter : FilterDescription}, asFilter? fuel format data = some filter →
      data.YieldsAll filter.literals
  | 0, _, _, _, h => nomatch h
  | fuel + 1, format, data, filter, h => by
    rw [asFilter?] at h
    split at h
    next logic left operator right subquery children hmembers =>
      obtain ⟨_, -, h⟩ := Option.bind_eq_some_iff.mp h
      obtain ⟨field, hfield, h⟩ := Option.bind_eq_some_iff.mp h
      obtain ⟨_, -, h⟩ := Option.bind_eq_some_iff.mp h
      obtain ⟨value, hvalue, h⟩ := Option.bind_eq_some_iff.mp h
      obtain ⟨query, hquery, h⟩ := Option.bind_eq_some_iff.mp h
      obtain ⟨filters, hfilters, h⟩ := Option.bind_eq_some_iff.mp h
      cases h
      rw [FilterDescription.literals]
      have hleft : data.YieldsAll (Described.leftLiterals field) := by
        have hyields := yieldsAll_of_optionally (asField?_yields fuel) hmembers (by simp) hfield
        cases field <;> exact hyields
      have hright : data.YieldsAll (Described.rightLiterals value query) := by
        cases query with
        | some query =>
          exact yieldsAll_of_optionally (asSelect?_yields fuel format) hmembers (by simp) hquery
        | none =>
          refine yieldsAll_of_optionally ?_ hmembers (by simp) hvalue
          intro part found hfound
          cases hfound
          exact part.yieldsAll_toJson
      refine (hleft.append hright).append fun json hjson => ?_
      rw [childLiterals_eq, List.mem_flatMap] at hjson
      obtain ⟨child, hchild, hmem⟩ := hjson
      exact yieldsAll_of_asList? (asFilter?_yields fuel format) hmembers (by simp) hfilters
        (List.reduceOption_mem_iff.mp hchild) json hmem
    next => cases h

theorem asSelect?_yields : ∀ (fuel : Nat) (format : Format) {data : Data}
    {query : SelectDescription}, asSelect? fuel format data = some query →
      data.YieldsAll query.literals
  | 0, _, _, _, h => nomatch h
  | fuel + 1, format, data, query, h => by
    rw [asSelect?] at h
    split at h
    next columns source condition sorts limit aliasName hmembers =>
      obtain ⟨fields, hfields, h⟩ := Option.bind_eq_some_iff.mp h
      obtain ⟨table?, htable, h⟩ := Option.bind_eq_some_iff.mp h
      obtain ⟨filter, hfilter, h⟩ := Option.bind_eq_some_iff.mp h
      obtain ⟨_, -, h⟩ := Option.bind_eq_some_iff.mp h
      obtain ⟨take, htake, h⟩ := Option.bind_eq_some_iff.mp h
      obtain ⟨_, -, h⟩ := Option.bind_eq_some_iff.mp h
      cases h
      rw [SelectDescription.literals]
      have hcolumns : data.YieldsAll (Described.fieldLiterals fields) := fun json hjson => by
        rw [fieldLiterals_eq, List.mem_flatMap] at hjson
        obtain ⟨field, hfield, hmem⟩ := hjson
        exact yieldsAll_of_asList? (asField?_yields fuel) hmembers (by simp) hfields
          (List.reduceOption_mem_iff.mp hfield) json hmem
      have hsource : data.YieldsAll (Described.sourceLiterals table?) := by
        have hyields := yieldsAll_of_optionally (asTable?_yields fuel) hmembers (by simp) htable
        cases table? <;> exact hyields
      have hcondition : data.YieldsAll (Described.whereLiterals filter) := by
        have hyields :=
          yieldsAll_of_optionally (asFilter?_yields fuel format) hmembers (by simp) hfilter
        cases filter <;> exact hyields
      have hlimit : data.YieldsAll (if take = 0 then [] else [.number (.natural take)]) := by
        split
        next => nofun
        next hne =>
          cases limit with
          | none => cases htake; exact absurd rfl hne
          | some part =>
            have hpart : data.Holds part := holds_of_members? hmembers (by simp)
            exact (yieldsAll_of_asWord? htake).within hpart
      exact ((hcolumns.append hsource).append hcondition).append hlimit
    next => cases h

end

end Queries

end Data

namespace Columns

variable {α : Type}

end Columns

namespace Data

section Statements

end Statements

end Data

end QueryTree
