import QueryTree.Dialect
import QueryTree.Value

/-!
Pieces of SQL. A rendering is a list of pieces that knows neither the dialect nor how many arguments
were bound before it: a literal stands at the spot where its mark will be written, and the keyword
of a substring match is left open. Filling a rendering chooses the dialect and counts the marks.

The main statements say how filling goes through concatenation and through lists with separators,
and that a range of marks is the filling of one slot after the other. What holds of separators in
any list comes first.
-/

namespace QueryTree

section Parts

variable {α β : Type} {f : List α → List β}

/-- What goes through concatenation goes through a list with separators. -/
theorem map_intercalate (hnil : f [] = [])
    (happend : ∀ left right, f (left ++ right) = f left ++ f right) (separator : List α)
    (parts : List (List α)) :
    f (separator.intercalate parts) = (f separator).intercalate (parts.map f) := by
  induction parts with
  | nil => exact hnil
  | cons part rest ih =>
    cases rest with
    | nil => simp
    | cons next rest =>
      rw [List.intercalate_cons_cons, happend, happend, ih]
      simp only [List.map_cons, List.intercalate_cons_cons]

theorem nil_intercalate (parts : List (List α)) : [].intercalate parts = parts.flatten := by
  induction parts with
  | nil => rfl
  | cons part rest ih =>
    cases rest with
    | nil => simp
    | cons next rest =>
      rw [List.intercalate_cons_cons, ih, List.append_nil]
      rfl

/-- The parts that are not empty, where `f` makes nothing empty and fills nothing. -/
theorem filter_nonempty_map {parts : List (List α)} (h : ∀ part ∈ parts, f part = [] ↔ part = []) :
    (parts.map f).filter (fun part => !part.isEmpty) =
      (parts.filter fun part => !part.isEmpty).map f := by
  rw [List.filter_map]
  congr 1
  apply List.filter_congr
  intro part hpart
  have hempty : (f part).isEmpty = part.isEmpty := by
    rw [Bool.eq_iff_iff, List.isEmpty_iff, List.isEmpty_iff]
    exact h part hpart
  rw [Function.comp_apply, hempty]

theorem flatMap_filter_nonempty (hnil : f [] = []) (parts : List (List α)) :
    (parts.filter fun part => !part.isEmpty).flatMap f = parts.flatMap f := by
  induction parts with
  | nil => rfl
  | cons part rest ih =>
    cases part with
    | nil => simpa [hnil] using ih
    | cons head tail => simp [ih]

end Parts

inductive Piece where
  /-- Text that is the same whatever the dialect and the arguments are. -/
  | text (s : String)
  /-- The spot of a literal, which is bound as an argument and leaves a mark. -/
  | slot (literal : Value)
  /-- The keyword of a substring match, or of its negation. -/
  | like (negated : Bool)

namespace Piece

def literal? : Piece → Option Value
  | .text _ => none
  | .slot literal => some literal
  | .like _ => none

/-- The literals of a rendering, in the order of their spots. -/
def slots (pieces : List Piece) : List Value :=
  pieces.filterMap literal?

/-- The text of a rendering that starts after `count` arguments: the literal at spot `k`, counted
from one, is written as the mark of argument `count + k`. -/
def fill (dialect : Dialect) : (count : Nat) → List Piece → String
  | _, [] => ""
  | count, .text s :: rest => s ++ fill dialect count rest
  | count, .slot _ :: rest => dialect.mark (count + 1) ++ fill dialect (count + 1) rest
  | count, .like negated :: rest => dialect.likeKeyword negated ++ fill dialect count rest

/-- The texts of renderings that stand one after the other, where each starts after the arguments
of those before it. -/
def fillEach (dialect : Dialect) : (count : Nat) → List (List Piece) → List String
  | _, [] => []
  | count, part :: rest =>
    fill dialect count part :: fillEach dialect (count + (slots part).length) rest

/-- Renderings with a comma between two of them. -/
def commaSeparated (parts : List (List Piece)) : List Piece :=
  [.text ", "].intercalate parts

@[simp] theorem slots_nil : slots [] = [] := rfl

@[simp] theorem slots_text (s : String) (rest : List Piece) :
    slots (.text s :: rest) = slots rest := rfl

@[simp] theorem slots_slot (literal : Value) (rest : List Piece) :
    slots (.slot literal :: rest) = literal :: slots rest := rfl

@[simp] theorem slots_like (negated : Bool) (rest : List Piece) :
    slots (.like negated :: rest) = slots rest := rfl

@[simp] theorem slots_append (left right : List Piece) :
    slots (left ++ right) = slots left ++ slots right :=
  List.filterMap_append

theorem slots_intercalate (separator : String) (parts : List (List Piece)) :
    slots ([.text separator].intercalate parts) = parts.flatMap slots := by
  rw [map_intercalate slots_nil slots_append, slots_text, slots_nil, nil_intercalate,
    List.flatMap_def]

@[simp] theorem slots_commaSeparated (parts : List (List Piece)) :
    slots (commaSeparated parts) = parts.flatMap slots :=
  slots_intercalate ", " parts

/-- The second of two renderings starts after the arguments of the first. -/
theorem fill_append (dialect : Dialect) (count : Nat) (left right : List Piece) :
    fill dialect count (left ++ right) =
      fill dialect count left ++ fill dialect (count + (slots left).length) right := by
  induction left generalizing count with
  | nil => simp [fill]
  | cons piece rest ih =>
    cases piece with
    | text s => simp [fill, ih, String.append_assoc]
    | slot literal =>
      have hcount : count + 1 + (slots rest).length = count + ((slots rest).length + 1) := by omega
      simp [fill, ih, String.append_assoc, hcount]
    | like negated => simp [fill, ih, String.append_assoc]

theorem fill_intercalate (dialect : Dialect) (count : Nat) (separator : String)
    (parts : List (List Piece)) :
    fill dialect count ([.text separator].intercalate parts) =
      separator.intercalate (fillEach dialect count parts) := by
  induction parts generalizing count with
  | nil => rfl
  | cons part rest ih =>
    cases rest with
    | nil => simp [fillEach]
    | cons next rest =>
      have htail := ih (count + (slots part).length)
      rw [List.intercalate_cons_cons, List.append_assoc, fill_append]
      simp only [List.cons_append, List.nil_append, fill, htail]
      simp only [fillEach]
      rw [String.intercalate_cons_cons, String.append_assoc]

theorem fill_commaSeparated (dialect : Dialect) (count : Nat) (parts : List (List Piece)) :
    fill dialect count (commaSeparated parts) = ", ".intercalate (fillEach dialect count parts) :=
  fill_intercalate dialect count ", " parts

/-- One slot for each literal, written one after the other. -/
theorem fillEach_slots (dialect : Dialect) (count : Nat) (literals : List Value) :
    fillEach dialect count (literals.map fun literal => [.slot literal]) =
      (List.range' (count + 1) literals.length).map dialect.mark := by
  induction literals generalizing count with
  | nil => rfl
  | cons literal rest ih =>
    simp [fillEach, fill, ih, List.range'_succ]

theorem flatMap_slots_map_slot (literals : List Value) :
    (literals.map fun literal => [Piece.slot literal]).flatMap slots = literals := by
  induction literals with
  | nil => rfl
  | cons literal rest ih => simpa using ih

/-- The marks of a range of arguments are the filling of as many slots. There are none of them in
a range without arguments. -/
theorem placeholder_eq_fill (dialect : Dialect) (count : Nat) (literals : List Value) :
    dialect.placeholder (count + 1) (count + literals.length) =
      fill dialect count (commaSeparated (literals.map fun literal => [.slot literal])) := by
  rw [fill_commaSeparated, fillEach_slots]
  cases literals with
  | nil => simp [Dialect.placeholder]
  | cons literal rest =>
    have hlength : count + (rest.length + 1) - (count + 1) + 1 = rest.length + 1 := by omega
    simp [Dialect.placeholder, hlength]

theorem lastPlaceholder_eq_mark (dialect : Dialect) (count : Nat) :
    dialect.lastPlaceholder (count + 1) = dialect.mark (count + 1) := by
  simp [Dialect.lastPlaceholder, Dialect.placeholder]

end Piece

end QueryTree
