import QueryTree.Proofs.NumberTokens

/-!
What a JSON text says, by its grammar. A derivation goes through the text from its start to its end
and says what the tree is made of, so that each number of the tree has a token of its own in the
text. The reader counts its calls and the levels of the tree; a derivation counts neither.
-/

namespace QueryTree

namespace Json

mutual

/-- Behind blanks the text starts with what is written for a value, and `rest` is left. -/
inductive Spelled : List Char → Json → List Char → Prop
  | null {cs rest : List Char} (h : skipBlanks cs = 'n' :: 'u' :: 'l' :: 'l' :: rest) :
      Spelled cs .null rest
  | yes {cs rest : List Char} (h : skipBlanks cs = 't' :: 'r' :: 'u' :: 'e' :: rest) :
      Spelled cs (.bool true) rest
  | no {cs rest : List Char} (h : skipBlanks cs = 'f' :: 'a' :: 'l' :: 's' :: 'e' :: rest) :
      Spelled cs (.bool false) rest
  | number {cs token rest : List Char} {n : JsonNumber} (h : skipBlanks cs = token ++ rest)
      (hn : n.WrittenAs token) : Spelled cs (.number n) rest
  | string {cs inside rest : List Char} {s : String} {fuel : Nat}
      (h : skipBlanks cs = '"' :: inside) (hs : readString fuel inside = some (s, rest)) :
      Spelled cs (.string s) rest
  | emptyArray {cs inside rest : List Char} (h : skipBlanks cs = '[' :: inside)
      (hend : skipBlanks inside = ']' :: rest) : Spelled cs (.array []) rest
  | array {cs inside rest : List Char} {items : List Json} (h : skipBlanks cs = '[' :: inside)
      (hitems : ItemsSpelled (skipBlanks inside) items rest) : Spelled cs (.array items) rest
  | emptyObject {cs inside rest : List Char} (h : skipBlanks cs = '\x7b' :: inside)
      (hend : skipBlanks inside = '\x7d' :: rest) : Spelled cs (.object []) rest
  | object {cs inside rest : List Char} {members : List (String × Json)}
      (h : skipBlanks cs = '\x7b' :: inside)
      (hmembers : MembersSpelled (skipBlanks inside) members rest) :
      Spelled cs (.object members) rest

/-- Items with commas between them, and the bracket that closes their array. -/
inductive ItemsSpelled : List Char → List Json → List Char → Prop
  | last {cs more rest : List Char} {item : Json} (hitem : Spelled cs item more)
      (hend : skipBlanks more = ']' :: rest) : ItemsSpelled cs [item] rest
  | next {cs more following rest : List Char} {item : Json} {items : List Json}
      (hitem : Spelled cs item more) (hcomma : skipBlanks more = ',' :: following)
      (hitems : ItemsSpelled following items rest) : ItemsSpelled cs (item :: items) rest

/-- Members with commas between them, and the brace that closes their object. -/
inductive MembersSpelled : List Char → List (String × Json) → List Char → Prop
  | last {cs inside afterName start more rest : List Char} {name : String} {value : Json}
      {fuel : Nat} (h : skipBlanks cs = '"' :: inside)
      (hname : readString fuel inside = some (name, afterName))
      (hcolon : skipBlanks afterName = ':' :: start) (hvalue : Spelled start value more)
      (hend : skipBlanks more = '\x7d' :: rest) : MembersSpelled cs [(name, value)] rest
  | next {cs inside afterName start more following rest : List Char} {name : String}
      {value : Json} {members : List (String × Json)} {fuel : Nat}
      (h : skipBlanks cs = '"' :: inside)
      (hname : readString fuel inside = some (name, afterName))
      (hcolon : skipBlanks afterName = ':' :: start) (hvalue : Spelled start value more)
      (hcomma : skipBlanks more = ',' :: following)
      (hmembers : MembersSpelled following members rest) :
      MembersSpelled cs ((name, value) :: members) rest

end

/-- The text holds one value and nothing but blanks around it. -/
def Spells (text : String) (json : Json) : Prop :=
  ∃ rest, Spelled text.toList json rest ∧ skipBlanks rest = []

mutual

theorem readValue_spelled : ∀ (fuel nesting : Nat) {cs rest : List Char} {json : Json},
    readValue fuel nesting cs = some (json, rest) → Spelled cs json rest
  | 0, _, _, _, _, h => nomatch h
  | fuel + 1, nesting, cs, rest, json, h => by
    rw [readValue] at h
    split at h
    next => cases h
    next after hcs =>
      obtain ⟨rest, hword, heq⟩ := Option.map_eq_some_iff.mp h
      cases heq
      exact .null (hcs.trans (congrArg _ (eq_of_drop_word hword)))
    next after hcs =>
      obtain ⟨rest, hword, heq⟩ := Option.map_eq_some_iff.mp h
      cases heq
      exact .yes (hcs.trans (congrArg _ (eq_of_drop_word hword)))
    next after hcs =>
      obtain ⟨rest, hword, heq⟩ := Option.map_eq_some_iff.mp h
      cases heq
      exact .no (hcs.trans (congrArg _ (eq_of_drop_word hword)))
    next after hcs =>
      obtain ⟨⟨s, rest⟩, hs, heq⟩ := Option.bind_eq_some_iff.mp h
      cases heq
      exact .string hcs hs
    next after hcs =>
      cases nesting with
      | zero => cases h
      | succ nesting =>
        simp only at h
        split at h
        next _ hend =>
          cases h
          exact .emptyArray hcs hend
        next =>
          obtain ⟨⟨items, rest⟩, hitems, heq⟩ := Option.bind_eq_some_iff.mp h
          cases heq
          exact .array hcs (readItems_spelled fuel nesting hitems)
    next after hcs =>
      cases nesting with
      | zero => cases h
      | succ nesting =>
        simp only at h
        split at h
        next _ hend =>
          cases h
          exact .emptyObject hcs hend
        next =>
          obtain ⟨⟨members, rest⟩, hmembers, heq⟩ := Option.bind_eq_some_iff.mp h
          cases heq
          exact .object hcs (readMembers_spelled fuel nesting hmembers)
    next =>
      obtain ⟨⟨n, rest⟩, hn, heq⟩ := Option.bind_eq_some_iff.mp h
      cases heq
      obtain ⟨token, hcs, htoken⟩ := readNumber_written hn
      exact .number hcs htoken

theorem readItems_spelled : ∀ (fuel nesting : Nat) {cs rest : List Char} {items : List Json},
    readItems fuel nesting cs = some (items, rest) → ItemsSpelled cs items rest
  | 0, _, _, _, _, h => nomatch h
  | fuel + 1, nesting, cs, rest, items, h => by
    rw [readItems] at h
    obtain ⟨⟨item, more⟩, hitem, h⟩ := Option.bind_eq_some_iff.mp h
    have hspelled := readValue_spelled fuel nesting hitem
    simp only at h
    split at h
    next _ hend =>
      cases h
      exact .last hspelled hend
    next _ hcomma =>
      obtain ⟨⟨others, rest⟩, hothers, heq⟩ := Option.bind_eq_some_iff.mp h
      cases heq
      exact .next hspelled hcomma (readItems_spelled fuel nesting hothers)
    next => cases h

theorem readMembers_spelled : ∀ (fuel nesting : Nat) {cs rest : List Char}
    {members : List (String × Json)},
    readMembers fuel nesting cs = some (members, rest) → MembersSpelled cs members rest
  | 0, _, _, _, _, h => nomatch h
  | fuel + 1, nesting, cs, rest, members, h => by
    rw [readMembers] at h
    split at h
    next inside hcs =>
      obtain ⟨⟨name, afterName⟩, hname, h⟩ := Option.bind_eq_some_iff.mp h
      simp only at h
      split at h
      next start hcolon =>
        obtain ⟨⟨value, more⟩, hvalue, h⟩ := Option.bind_eq_some_iff.mp h
        have hspelled := readValue_spelled fuel nesting hvalue
        simp only at h
        split at h
        next _ hend =>
          cases h
          exact .last hcs hname hcolon hspelled hend
        next _ hcomma =>
          obtain ⟨⟨others, rest⟩, hothers, heq⟩ := Option.bind_eq_some_iff.mp h
          cases heq
          exact .next hcs hname hcolon hspelled hcomma (readMembers_spelled fuel nesting hothers)
        next => cases h
      next => cases h
    next => cases h

end

/-- A text that is read has a derivation. -/
theorem spells_of_read {text : String} {json : Json} (h : read text = some json) :
    Spells text json := by
  unfold read readNested at h
  simp only at h
  split at h
  next _ tree rest hread =>
    split at h
    next hend =>
      cases h
      exact ⟨rest, readValue_spelled _ _ hread, List.isEmpty_iff.mp hend⟩
    next => cases h
  next => cases h

end Json

end QueryTree
