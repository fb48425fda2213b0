import QueryTree.Proofs.TomlNumbers
import QueryTree.Toml.Reader

/-!
What a TOML text says. A derivation goes through the lines of the text and through the values on
them, so that each number of a value has a token of its own; how the values of the lines make up one
tree is left to the keys. As for JSON, a derivation counts neither calls nor levels.
-/

namespace QueryTree

namespace Toml

mutual

/-- The text starts with what is written for a value, and `rest` is left. -/
inductive Spelled : List Char → Data → List Char → Prop
  | string {c : Char} {cs rest : List Char} {s : String} {fuel : Nat} (hquote : c = '"' ∨ c = '\'')
      (hs : readString fuel (c :: cs) = some (s, rest)) : Spelled (c :: cs) (.string s) rest
  | yes {rest : List Char} : Spelled ('t' :: 'r' :: 'u' :: 'e' :: rest) (.bool true) rest
  | no {rest : List Char} : Spelled ('f' :: 'a' :: 'l' :: 's' :: 'e' :: rest) (.bool false) rest
  | dateTime {cs rest : List Char} (h : readDateTime cs = some rest) : Spelled cs .dateTime rest
  | number {token rest : List Char} {data : Data} (hdata : NumberWritten data token) :
      Spelled (token ++ rest) data rest
  | list {inside rest : List Char} {items : List Data} (hitems : ItemsSpelled inside items rest) :
      Spelled ('[' :: inside) (.list items) rest
  | emptyTable {inside rest : List Char} (hend : skipBlanks inside = '\x7d' :: rest) :
      Spelled ('\x7b' :: inside) (.table []) rest
  | table {inside rest : List Char} {pairs : List (KeyPath × Data)} {data : Data}
      (hpairs : PairsSpelled (skipBlanks inside) pairs rest) (hdata : ofPairs? pairs = some data) :
      Spelled ('\x7b' :: inside) data rest

/-- Items with commas between them, and perhaps one behind them, and the bracket that closes their
list. -/
inductive ItemsSpelled : List Char → List Data → List Char → Prop
  | close {cs rest : List Char} {fuel : Nat} (hend : skipSpace fuel cs = some (']' :: rest)) :
      ItemsSpelled cs [] rest
  | last {cs start more rest : List Char} {item : Data} {fuel : Nat}
      (hstart : skipSpace fuel cs = some start) (hitem : Spelled start item more)
      (hend : skipSpace fuel more = some (']' :: rest)) : ItemsSpelled cs [item] rest
  | next {cs start more following rest : List Char} {item : Data} {items : List Data} {fuel : Nat}
      (hstart : skipSpace fuel cs = some start) (hitem : Spelled start item more)
      (hcomma : skipSpace fuel more = some (',' :: following))
      (hitems : ItemsSpelled following items rest) : ItemsSpelled cs (item :: items) rest

/-- Members with commas between them, and the brace that closes their table. -/
inductive PairsSpelled : List Char → List (KeyPath × Data) → List Char → Prop
  | last {cs start more rest : List Char} {path : KeyPath} {data : Data} {fuel : Nat}
      (hkey : readKeyPath fuel cs = some (path, '=' :: start))
      (hvalue : Spelled (skipBlanks start) data more) (hend : skipBlanks more = '\x7d' :: rest) :
      PairsSpelled cs [(path, data)] rest
  | next {cs start more following rest : List Char} {path : KeyPath} {data : Data}
      {pairs : List (KeyPath × Data)} {fuel : Nat}
      (hkey : readKeyPath fuel cs = some (path, '=' :: start))
      (hvalue : Spelled (skipBlanks start) data more) (hcomma : skipBlanks more = ',' :: following)
      (hpairs : PairsSpelled following pairs rest) : PairsSpelled cs ((path, data) :: pairs) rest

end

/-- The text consists of these lines. -/
inductive LinesSpelled : List Char → List Line → Prop
  | done {cs : List Char} (h : skipBlanks cs = []) : LinesSpelled cs []
  | blank {cs more rest : List Char} {c : Char} {lines : List Line} (h : skipBlanks cs = c :: more)
      (hend : readLineEnd (c :: more) = some rest) (hlines : LinesSpelled rest lines) :
      LinesSpelled cs (.blank :: lines)
  | header {cs start after rest : List Char} {path : KeyPath} {lines : List Line} {fuel : Nat}
      (h : skipBlanks cs = '[' :: start) (hkey : readKeyPath fuel start = some (path, ']' :: after))
      (hend : readLineEnd after = some rest) (hlines : LinesSpelled rest lines) :
      LinesSpelled cs (.header path false :: lines)
  | listedHeader {cs start after rest : List Char} {path : KeyPath} {lines : List Line} {fuel : Nat}
      (h : skipBlanks cs = '[' :: '[' :: start)
      (hkey : readKeyPath fuel start = some (path, ']' :: ']' :: after))
      (hend : readLineEnd after = some rest) (hlines : LinesSpelled rest lines) :
      LinesSpelled cs (.header path true :: lines)
  | value {cs start after rest : List Char} {path : KeyPath} {data : Data} {lines : List Line}
      {fuel : Nat} (hkey : readKeyPath fuel (skipBlanks cs) = some (path, '=' :: start))
      (hvalue : Spelled (skipBlanks start) data after) (hend : readLineEnd after = some rest)
      (hlines : LinesSpelled rest lines) : LinesSpelled cs (.value path data :: lines)

/-- The lines of the text, behind a byte order mark if there is one, make up the data. -/
def Spells (text : String) (data : Data) : Prop :=
  ∃ (cs : List Char) (lines : List Line), (text.toList = cs ∨ text.toList = '\ufeff' :: cs) ∧
    LinesSpelled cs lines ∧ ofLines? lines = some data

theorem readScalar_spelled {cs rest : List Char} {data : Data}
    (h : readScalar cs = some (data, rest)) : Spelled cs data rest := by
  unfold readScalar at h
  split at h
  next hdate =>
    cases h
    exact .dateTime hdate
  next =>
    obtain ⟨token, rfl, hwritten⟩ := readNumber_written h
    exact .number hwritten

mutual

theorem readValue_spelled : ∀ (fuel levels : Nat) {cs rest : List Char} {data : Data},
    readValue fuel levels cs = some (data, rest) → Spelled cs data rest
  | 0, _, _, _, _, h => nomatch h
  | _ + 1, _, [], _, _, h => nomatch h
  | fuel + 1, levels, c :: cs, rest, data, h => by
    unfold readValue at h
    split at h
    next hquote =>
      obtain ⟨⟨s, _⟩, hs, heq⟩ := Option.bind_eq_some_iff.mp h
      cases heq
      exact .string (by simpa using hquote) hs
    split at h
    next hc =>
      obtain ⟨_, hword, heq⟩ := Option.map_eq_some_iff.mp h
      cases heq
      rw [hc, eq_of_drop_word hword]
      exact .yes
    split at h
    next hc =>
      obtain ⟨_, hword, heq⟩ := Option.map_eq_some_iff.mp h
      cases heq
      rw [hc, eq_of_drop_word hword]
      exact .no
    split at h
    next hc =>
      cases levels with
      | zero => cases h
      | succ levels =>
        obtain ⟨⟨items, _⟩, hitems, heq⟩ := Option.bind_eq_some_iff.mp h
        cases heq
        rw [hc]
        exact .list (readItems_spelled fuel levels hitems)
    split at h
    next hc =>
      cases levels with
      | zero => cases h
      | succ levels =>
        obtain ⟨⟨pairs, _⟩, hpairs, h⟩ := Option.bind_eq_some_iff.mp h
        obtain ⟨table, htable, heq⟩ := Option.bind_eq_some_iff.mp h
        cases heq
        rw [hc]
        split at hpairs
        next _ hend =>
          cases hpairs
          cases htable
          exact .emptyTable hend
        next => exact .table (readPairs_spelled fuel levels hpairs) htable
    next => exact readScalar_spelled h

theorem readItems_spelled : ∀ (fuel levels : Nat) {cs rest : List Char} {items : List Data},
    readItems fuel levels cs = some (items, rest) → ItemsSpelled cs items rest
  | 0, _, _, _, _, h => nomatch h
  | fuel + 1, levels, cs, rest, items, h => by
    rw [readItems] at h
    obtain ⟨start, hstart, h⟩ := Option.bind_eq_some_iff.mp h
    split at h
    next =>
      cases h
      exact .close hstart
    next =>
      obtain ⟨⟨item, more⟩, hitem, h⟩ := Option.bind_eq_some_iff.mp h
      have hspelled := readValue_spelled fuel levels hitem
      obtain ⟨after, hafter, h⟩ := Option.bind_eq_some_iff.mp h
      split at h
      next =>
        cases h
        exact .last hstart hspelled hafter
      next =>
        obtain ⟨⟨others, _⟩, hothers, heq⟩ := Option.bind_eq_some_iff.mp h
        cases heq
        exact .next hstart hspelled hafter (readItems_spelled fuel levels hothers)
      next => cases h

theorem readPairs_spelled : ∀ (fuel levels : Nat) {cs rest : List Char}
    {pairs : List (KeyPath × Data)},
    readPairs fuel levels cs = some (pairs, rest) → PairsSpelled cs pairs rest
  | 0, _, _, _, _, h => nomatch h
  | fuel + 1, levels, cs, rest, pairs, h => by
    rw [readPairs] at h
    obtain ⟨⟨path, after⟩, hkey, h⟩ := Option.bind_eq_some_iff.mp h
    split at h
    next heq =>
      cases heq
      obtain ⟨⟨data, more⟩, hvalue, h⟩ := Option.bind_eq_some_iff.mp h
      have hspelled := readValue_spelled fuel levels hvalue
      simp only at h
      split at h
      next _ hend =>
        cases h
        exact .last hkey hspelled hend
      next _ hcomma =>
        obtain ⟨⟨others, _⟩, hothers, heq⟩ := Option.bind_eq_some_iff.mp h
        cases heq
        exact .next hkey hspelled hcomma (readPairs_spelled fuel levels hothers)
      next => cases h
    next => cases h

end

/-- A line with something on it, and the lines behind it. -/
theorem readContentLine_spelled {fuel : Nat} {cs start rest : List Char} {line : Line}
    {lines : List Line} (hstart : skipBlanks cs = start)
    (h : readContentLine fuel start = some (line, rest)) (hlines : LinesSpelled rest lines) :
    LinesSpelled cs (line :: lines) := by
  unfold readContentLine at h
  split at h
  next =>
    obtain ⟨⟨path, after⟩, hkey, h⟩ := Option.bind_eq_some_iff.mp h
    split at h
    next heq =>
      cases heq
      obtain ⟨_, hend, heq⟩ := Option.bind_eq_some_iff.mp h
      cases heq
      exact .listedHeader hstart hkey hend hlines
    next => cases h
  next =>
    obtain ⟨⟨path, after⟩, hkey, h⟩ := Option.bind_eq_some_iff.mp h
    split at h
    next heq =>
      cases heq
      obtain ⟨_, hend, heq⟩ := Option.bind_eq_some_iff.mp h
      cases heq
      exact .header hstart hkey hend hlines
    next => cases h
  next =>
    obtain ⟨⟨path, after⟩, hkey, h⟩ := Option.bind_eq_some_iff.mp h
    split at h
    next heq =>
      cases heq
      obtain ⟨⟨data, more⟩, hvalue, h⟩ := Option.bind_eq_some_iff.mp h
      obtain ⟨_, hend, heq⟩ := Option.bind_eq_some_iff.mp h
      cases heq
      rw [← hstart] at hkey
      exact .value hkey (readValue_spelled _ _ hvalue) hend hlines
    next => cases h

theorem readLinesOf_spelled : ∀ (fuel : Nat) {cs : List Char} {lines : List Line},
    readLinesOf fuel cs = some lines → LinesSpelled cs lines
  | 0, _, _, h => nomatch h
  | fuel + 1, cs, lines, h => by
    rw [readLinesOf] at h
    split at h
    next hdone =>
      cases h
      exact .done hdone
    next c more hstart =>
      obtain ⟨⟨line, rest⟩, hline, h⟩ := Option.bind_eq_some_iff.mp h
      obtain ⟨following, hfollowing, heq⟩ := Option.bind_eq_some_iff.mp h
      cases heq
      have hlines := readLinesOf_spelled fuel hfollowing
      split at hline
      next hend =>
        cases hline
        exact .blank hstart hend hlines
      next => exact readContentLine_spelled hstart hline hlines

/-- A text that is read has a derivation. -/
theorem spells_of_read {text : String} {data : Data} (h : read text = some data) :
    Spells text data := by
  obtain ⟨lines, hlines, hdata⟩ := Option.bind_eq_some_iff.mp h
  refine ⟨_, lines, ?_, readLinesOf_spelled _ hlines, hdata⟩
  split
  next hmark => exact .inr hmark
  next => exact .inl rfl

end Toml

end QueryTree
