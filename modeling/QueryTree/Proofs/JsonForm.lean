import QueryTree.Proofs.Convertible
import QueryTree.Proofs.Describing

/-!
Values and their JSON forms. The two conversions are inverse to each other but for what JSON cannot
say: it has one type of integers and no floats beyond the finite ones. A value loses exactly that on
its way to JSON and back, while a tree without objects comes back as it was.
-/

namespace QueryTree

section Normal

mutual

/-- What is left of a value in JSON: an unsigned number that a signed one can hold becomes one, and
a float that is not finite becomes null. -/
def Value.norm : Value → Value
  | .null => .null
  | .bool b => .bool b
  | .int n => .int n
  | .uint n => if n.toNat < Nat.pow 2 63 then .int (.ofNat n.toNat) else .uint n
  | .float x => if x.isFinite then .float x else .null
  | .string s => .string s
  | .list items => .list (normItems items)

def normItems : List Value → List Value
  | [] => []
  | item :: rest => item.norm :: normItems rest

end

theorem toInt64_eq_ofNat (n : UInt64) : n.toInt64 = .ofNat n.toNat := by
  rw [← UInt64.toInt64_ofNat', UInt64.ofNat_toNat]

/-- A natural number that fits into a signed word has the same form whether it is held in a signed
word or in an unsigned one. -/
theorem JsonNumber.ofInt_ofNat {n : UInt64} (h : n.toNat < Nat.pow 2 63) :
    JsonNumber.ofInt (.ofNat n.toNat) = .natural n := by
  have hnonneg : ¬ Int64.ofNat n.toNat < 0 := by
    rw [Int64.lt_iff_toInt_lt, Int64.toInt_ofNat_of_lt h]
    exact Int.not_lt.mpr (Int.natCast_nonneg _)
  rw [ofInt, dif_neg hnonneg, Int64.toUInt64_ofNat', UInt64.ofNat_toNat]

mutual

/-- Nothing more is lost in JSON. -/
theorem Value.toJson_norm : ∀ (value : Value), value.norm.toJson = value.toJson
  | .null => rfl
  | .bool _ => rfl
  | .int _ => rfl
  | .uint n => by
    rw [Value.norm]
    split
    next hsmall => rw [Value.toJson, Value.toJson, JsonNumber.ofInt_ofNat hsmall]
    next => rfl
  | .float x => by
    rw [Value.norm]
    split
    next => rfl
    next hinfinite => rw [Value.toJson, Value.toJson, dif_neg hinfinite]
  | .string _ => rfl
  | .list items => by
    rw [Value.norm, Value.toJson, Value.toJson, toJsonItems_normItems items]

theorem toJsonItems_normItems : ∀ (items : List Value),
    Value.toJsonItems (normItems items) = Value.toJsonItems items
  | [] => rfl
  | item :: rest => by
    rw [normItems, Value.toJsonItems, Value.toJsonItems, item.toJson_norm,
      toJsonItems_normItems rest]

end

mutual

theorem Value.representable_norm : ∀ (value : Value), value.norm.Representable
  | .null => trivial
  | .bool _ => trivial
  | .int _ => trivial
  | .uint n => by
    rw [Value.norm]
    split
    next => trivial
    next hlarge => exact Nat.le_of_not_lt hlarge
  | .float x => by
    rw [Value.norm]
    split
    next hfinite => exact hfinite
    next => trivial
  | .string _ => trivial
  | .list items => itemsRepresentable_norm items

theorem itemsRepresentable_norm : ∀ (items : List Value), itemsRepresentable (normItems items)
  | [] => trivial
  | item :: rest => ⟨item.representable_norm, itemsRepresentable_norm rest⟩

end

end Normal

section Trees

theorem JsonNumber.toJson_toValue (n : JsonNumber) : n.toValue.toJson = .number n := by
  cases n with
  | natural n =>
    rw [toValue]
    split
    next hsmall => rw [Value.toJson, toInt64_eq_ofNat, ofInt_ofNat hsmall]
    next => rfl
  | negative n hnegative => rw [toValue, Value.toJson, ofInt, dif_pos hnegative]
  | float x hfinite => rw [toValue, Value.toJson, dif_pos hfinite]

mutual

theorem Value.toJson_of_ofJson : ∀ (json : Json) (value : Value),
    Value.ofJson json = .ok value → value.toJson = json
  | .null, _, h => by cases h; rfl
  | .bool _, _, h => by cases h; rfl
  | .number n, _, h => by cases h; exact n.toJson_toValue
  | .string _, _, h => by cases h; rfl
  | .array items, value, h => by
    rw [Value.ofJson, bind_eq_ok] at h
    obtain ⟨values, hvalues, hlist⟩ := h
    cases hlist
    rw [Value.toJson, toJsonItems_of_ofJsonItems items values hvalues]
  | .object _, _, h => nomatch h

theorem toJsonItems_of_ofJsonItems : ∀ (items : List Json) (values : List Value),
    Value.ofJsonItems items = .ok values → Value.toJsonItems values = items
  | [], _, h => by cases h; rfl
  | item :: rest, values, h => by
    rw [Value.ofJsonItems, bind_eq_ok] at h
    obtain ⟨value, hvalue, h⟩ := h
    obtain ⟨others, hothers, hcons⟩ := bind_eq_ok.mp h
    cases hcons
    rw [Value.toJsonItems, Value.toJson_of_ofJson item value hvalue,
      toJsonItems_of_ofJsonItems rest others hothers]

end

mutual

/-- There is one reason to refuse a tree. -/
theorem Value.error_of_ofJson : ∀ (json : Json) (error : QueryError),
    Value.ofJson json = .error error → error = .kindUnbound .map
  | .null, _, h => nomatch h
  | .bool _, _, h => nomatch h
  | .number _, _, h => nomatch h
  | .string _, _, h => nomatch h
  | .array items, error, h => by
    rw [Value.ofJson, bind_eq_error] at h
    rcases h with hitems | ⟨values, -, hlist⟩
    · exact error_of_ofJsonItems items error hitems
    · cases hlist
  | .object _, _, h => by cases h; rfl

theorem error_of_ofJsonItems : ∀ (items : List Json) (error : QueryError),
    Value.ofJsonItems items = .error error → error = .kindUnbound .map
  | [], _, h => nomatch h
  | item :: rest, error, h => by
    rw [Value.ofJsonItems, bind_eq_error] at h
    rcases h with hitem | ⟨value, -, h⟩
    · exact Value.error_of_ofJson item error hitem
    · rcases bind_eq_error.mp h with hrest | ⟨values, -, hcons⟩
      · exact error_of_ofJsonItems rest error hrest
      · cases hcons

end

theorem Value.ofJson_eq_error_iff (json : Json) (error : QueryError) :
    Value.ofJson json = .error error ↔ ¬ json.ObjectFree ∧ error = .kindUnbound .map := by
  have hdecides := Value.ofJson_decides json
  have herror := Value.error_of_ofJson json
  generalize Value.ofJson json = result at hdecides herror
  cases hdecides with
  | ok holds => exact iff_of_false nofun fun ⟨hobject, _⟩ => hobject holds
  | @error other fails _ =>
    cases herror other rfl
    exact ⟨fun h => ⟨fails, (Except.error.inj h).symm⟩, fun ⟨_, h⟩ => h ▸ rfl⟩

theorem Value.exists_ofJson {json : Json} (h : json.ObjectFree) :
    ∃ value, Value.ofJson json = .ok value := by
  cases hvalue : Value.ofJson json with
  | ok value => exact ⟨value, rfl⟩
  | error error => exact absurd h ((Value.ofJson_eq_error_iff json error).mp hvalue).1

end Trees

/-- A value is read back from JSON as its normal form, a tree without objects is written back as it
was, and a tree with an object in it is the only one that has no value. -/
theorem Value.json_form_faithful :
    (∀ value : Value, Value.ofJson value.toJson = .ok value.norm) ∧
    (∀ json : Json, json.ObjectFree →
      ∃ value, Value.ofJson json = .ok value ∧ value.toJson = json) ∧
    ∀ (json : Json) (error : QueryError), Value.ofJson json = .error error ↔
      ¬ json.ObjectFree ∧ error = .kindUnbound .map := by
  refine ⟨fun value => ?_, fun json hfree => ?_, Value.ofJson_eq_error_iff⟩
  · rw [← value.toJson_norm]
    exact value.norm.ofJson_toJson value.representable_norm
  · obtain ⟨value, hvalue⟩ := Value.exists_ofJson hfree
    exact ⟨value, hvalue, Value.toJson_of_ofJson json value hvalue⟩

/-- Numbers on both sides of the limit of a signed word. -/
theorem Value.bounds_written_back :
    let bounds := Json.array [.number (.natural 9223372036854775807), .number
      (.natural 9223372036854775808), .array [.number (.negative (-1) (by decide)), .null]]
    bounds.ObjectFree ∧ ∃ value, Value.ofJson bounds = .ok value ∧ value.toJson = bounds := by
  intro bounds
  have hfree : bounds.ObjectFree := ⟨trivial, trivial, ⟨trivial, trivial, trivial⟩, trivial⟩
  exact ⟨hfree, Value.json_form_faithful.2.1 bounds hfree⟩

end QueryTree
