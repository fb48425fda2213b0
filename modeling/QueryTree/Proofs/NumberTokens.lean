import QueryTree.Json.Reader
import QueryTree.Proofs.Outcome

/-!
Integers in JSON texts. A token without a point and without an exponent is an integer, and it is
read as that integer where JSON has a form for it. The digits are taken in one by one up to the
limit of a word, so an integer is read as one exactly if none of its digits is left out.
-/

namespace QueryTree

/-- The integer of a sign and a magnitude. -/
def signedInt (negative : Bool) (magnitude : Nat) : Int :=
  if negative then -magnitude else magnitude

/-- The integer that a number is, unless it is a float. -/
def JsonNumber.toInt? : JsonNumber → Option Int
  | .natural n => some n.toNat
  | .negative n _ => some n.toInt
  | .float _ _ => none

/-- There is a form for the integer. A zero with a sign has none. -/
def JsonNumber.HasForm (negative : Bool) (magnitude : Nat) : Prop :=
  if negative then 0 < magnitude ∧ magnitude ≤ Nat.pow 2 63 else magnitude < Nat.pow 2 64

instance (negative : Bool) (magnitude : Nat) : Decidable (JsonNumber.HasForm negative magnitude) :=
  inferInstanceAs (Decidable (if negative then _ else _))

/-- The integer of a token, if it is one and there is a form for it. -/
def NumberToken.integer? (token : NumberToken) : Option Int :=
  match token.fraction, token.exponent with
  | none, none =>
    if JsonNumber.HasForm token.negative (ofDigits 10 token.whole) then
      some (signedInt token.negative (ofDigits 10 token.whole))
    else none
  | _, _ => none

section Absorption

/-- The number to which digits extend a number. -/
def extendBy (n : Nat) (digits : List Nat) : Nat :=
  digits.foldl (fun n d => n * 10 + d) n

theorem le_extendBy (n : Nat) (digits : List Nat) : n ≤ extendBy n digits := by
  induction digits generalizing n with
  | nil => exact Nat.le_refl n
  | cons d rest ih =>
    have hstep : n ≤ n * 10 + d := by omega
    exact Nat.le_trans hstep (ih (n * 10 + d))

/-- All digits are taken in if the number stays below the limit. -/
theorem absorbDigits_of_lt {n : Nat} {digits : List Nat} (h : extendBy n digits < Nat.pow 2 64) :
    absorbDigits n digits = (extendBy n digits, digits.length) := by
  induction digits generalizing n with
  | nil => rfl
  | cons d rest ih =>
    have hstep : n * 10 + d < Nat.pow 2 64 := Nat.lt_of_le_of_lt (le_extendBy (n * 10 + d) rest) h
    rw [absorbDigits, if_pos hstep, ih h]
    rfl

/-- Digits are left out if the number would not stay below the limit. -/
theorem absorbDigits_of_le {n : Nat} {digits : List Nat} (hn : n < Nat.pow 2 64)
    (h : Nat.pow 2 64 ≤ extendBy n digits) : (absorbDigits n digits).2 < digits.length := by
  induction digits generalizing n with
  | nil => exact absurd hn (Nat.not_lt.mpr h)
  | cons d rest ih =>
    rw [absorbDigits]
    split
    next hstep => exact Nat.succ_lt_succ (ih hstep h)
    next => exact Nat.succ_pos rest.length

end Absorption

namespace JsonNumber

theorem toInt?_ofFloat {x : Binary64} {n : JsonNumber} (h : ofFloat? x = some n) :
    n.toInt? = none := by
  unfold ofFloat? at h
  split at h
  · cases h
    rfl
  · cases h

theorem ofInteger?_of_hasForm {negative : Bool} {magnitude : Nat}
    (h : HasForm negative magnitude) :
    ∃ n, ofInteger? negative magnitude = some n ∧
      n.toInt? = some (signedInt negative magnitude) := by
  unfold HasForm at h
  cases negative with
  | true =>
    obtain ⟨hpos, hle⟩ := h
    have hbound : magnitude ≤ 9223372036854775808 := hle
    have hword : (Int64.ofInt (-magnitude)).toInt = -magnitude :=
      Int64.toInt_ofInt_of_le (by omega) (by omega)
    have hneg : Int64.ofInt (-magnitude) < 0 := by
      rw [Int64.lt_iff_toInt_lt, hword]
      simpa using hpos
    refine ⟨.negative _ hneg, ?_, ?_⟩
    · simp only [ofInteger?, if_true]
      rw [if_pos hle, dif_pos hneg]
    · rw [toInt?, hword]
      rfl
  | false =>
    refine ⟨.natural (UInt64.ofNat magnitude), if_pos h, ?_⟩
    rw [toInt?, UInt64.toNat_ofNat_of_lt' h]
    rfl

theorem ofInteger?_of_not_hasForm {negative : Bool} {magnitude : Nat}
    (h : ¬ HasForm negative magnitude) : ofInteger? negative magnitude = none := by
  unfold HasForm at h
  unfold ofInteger?
  cases negative with
  | true =>
    by_cases hle : magnitude ≤ Nat.pow 2 63
    · have hzero : magnitude = 0 :=
        Nat.eq_zero_of_not_pos fun hpos => h ⟨hpos, hle⟩
      rw [hzero]
      rfl
    · simp only [if_true, if_neg hle]
  | false => exact if_neg h

theorem HasForm.lt {negative : Bool} {magnitude : Nat} (h : HasForm negative magnitude) :
    magnitude < Nat.pow 2 64 := by
  unfold HasForm at h
  cases negative with
  | true => exact Nat.lt_of_le_of_lt h.2 (by decide)
  | false => exact h

/-- A token is read as the integer that it is if there is a form for it, and as a float if not. -/
theorem toInt?_ofToken {token : NumberToken} {n : JsonNumber} (h : ofToken? token = some n) :
    n.toInt? = token.integer? := by
  obtain ⟨negative, whole, fraction, exponent⟩ := token
  unfold ofToken? at h
  unfold NumberToken.integer?
  cases fraction with
  | some digits => cases exponent <;> exact toInt?_ofFloat h
  | none =>
    cases exponent with
    | some power => exact toInt?_ofFloat h
    | none =>
      have hvalue : ofDigits 10 whole = extendBy 0 whole := rfl
      simp only [hvalue] at h ⊢
      by_cases hlt : extendBy 0 whole < Nat.pow 2 64
      · simp only [absorbDigits_of_lt hlt, Nat.sub_self, if_true] at h
        by_cases hform : HasForm negative (extendBy 0 whole)
        · obtain ⟨m, hm, hint⟩ := ofInteger?_of_hasForm hform
          rw [if_pos hform, ← hint]
          rw [hm] at h
          cases h
          rfl
        · rw [ofInteger?_of_not_hasForm hform] at h
          rw [if_neg hform]
          exact toInt?_ofFloat h
      · have hfewer := absorbDigits_of_le (n := 0) (by decide) (Nat.le_of_not_lt hlt)
        have hdropped : whole.length - (absorbDigits 0 whole).2 ≠ 0 := by omega
        rw [if_neg hdropped] at h
        rw [if_neg fun hform => hlt hform.lt]
        exact toInt?_ofFloat h

end JsonNumber

section Characters

/-- A word that can be dropped from a text stands at its start. -/
theorem eq_of_drop_word {word cs rest : List Char}
    (h : (if word.isPrefixOf cs then some (cs.drop word.length) else none) = some rest) :
    cs = word ++ rest := by
  split at h
  next hprefix =>
    cases h
    exact (List.prefix_iff_eq_append.mp (List.isPrefixOf_iff_prefix.mp hprefix)).symm
  next => cases h

/-- The number for which decimal digits stand. -/
def decimal? (digits : List Char) : Option Nat :=
  (digits.mapM decimalValue?).map (ofDigits 10)

theorem takeDigits_spelled (cs : List Char) :
    ∃ digits, cs = digits ++ (takeDigits cs).2 ∧
      digits.mapM decimalValue? = some (takeDigits cs).1 := by
  induction cs with
  | nil => exact ⟨[], rfl, rfl⟩
  | cons c rest ih =>
    obtain ⟨digits, hrest, hvalues⟩ := ih
    rw [takeDigits]
    cases hc : decimalValue? c with
    | none => exact ⟨[], rfl, rfl⟩
    | some d =>
      refine ⟨c :: digits, ?_, ?_⟩
      · exact congrArg (c :: ·) hrest
      · rw [List.mapM_cons, hc, hvalues]
        rfl

theorem isSome_of_mapM {digits : List Char} {values : List Nat}
    (h : digits.mapM decimalValue? = some values) : ∀ c ∈ digits, (decimalValue? c).isSome := by
  induction digits generalizing values with
  | nil => nofun
  | cons c rest ih =>
    rw [List.mapM_cons] at h
    obtain ⟨d, hc, h⟩ := Option.bind_eq_some_iff.mp h
    obtain ⟨others, hrest, -⟩ := Option.bind_eq_some_iff.mp h
    refine List.forall_mem_cons.mpr ⟨?_, ih hrest⟩
    rw [hc]
    rfl

/-- Characters of which numbers consist. -/
def IsNumberChar (c : Char) : Prop :=
  (decimalValue? c).isSome ∨ c ∈ ['+', '-', '.', 'e', 'E']

/-- What makes a number a float: a point or an exponent, with what is behind it. -/
structure FloatTail (tail : List Char) : Prop where
  starts : ∃ c more, tail = c :: more ∧ (c = '.' ∨ c = 'e' ∨ c = 'E')
  chars : ∀ c ∈ tail, IsNumberChar c

theorem FloatTail.append {tail more : List Char} (h : FloatTail tail)
    (hmore : ∀ c ∈ more, IsNumberChar c) : FloatTail (tail ++ more) := by
  obtain ⟨c, rest, rfl, hc⟩ := h.starts
  exact ⟨⟨c, rest ++ more, rfl, hc⟩, List.forall_mem_append.mpr ⟨h.chars, hmore⟩⟩

/-- What is written for a number: an integer, which is kept as such if there is a form for it, or
something with a point or an exponent, which is a float. -/
inductive JsonNumber.WrittenAs : JsonNumber → List Char → Prop
  | integer {n : JsonNumber} {negative : Bool} {digits : List Char} {magnitude : Nat}
      (hne : digits ≠ []) (hdigits : decimal? digits = some magnitude)
      (hn : n.toInt? = if HasForm negative magnitude then some (signedInt negative magnitude)
        else none) :
      WrittenAs n ((if negative then ['-'] else []) ++ digits)
  | float {n : JsonNumber} {negative : Bool} {digits tail : List Char} {magnitude : Nat}
      (hne : digits ≠ []) (hdigits : decimal? digits = some magnitude) (htail : FloatTail tail)
      (hn : n.toInt? = none) : WrittenAs n ((if negative then ['-'] else []) ++ digits ++ tail)

namespace Json

theorem readFraction_spelled {cs rest : List Char} {fraction : Option (List Nat)}
    (h : readFraction cs = some (fraction, rest)) :
    ∃ chars, cs = chars ++ rest ∧ if fraction = none then chars = [] else FloatTail chars := by
  unfold readFraction at h
  split at h
  next more =>
    obtain ⟨digits, hmore, hdigits⟩ := takeDigits_spelled more
    split at h
    next => cases h
    next _ values after _ htake =>
      cases h
      rw [htake] at hmore
      refine ⟨'.' :: digits, congrArg ('.' :: ·) hmore, ⟨'.', digits, rfl, .inl rfl⟩, ?_⟩
      refine List.forall_mem_cons.mpr ⟨.inr (by decide), fun c hc => .inl ?_⟩
      exact isSome_of_mapM hdigits c hc
  next =>
    cases h
    exact ⟨[], rfl, rfl⟩

theorem readExponent_spelled {cs rest : List Char} {exponent : Option Int}
    (h : readExponent cs = some (exponent, rest)) :
    ∃ chars, cs = chars ++ rest ∧ if exponent = none then chars = [] else FloatTail chars := by
  unfold readExponent at h
  split at h
  next =>
    cases h
    exact ⟨[], rfl, rfl⟩
  next c more =>
    split at h
    next hletter =>
      have hc : c = 'e' ∨ c = 'E' := by simpa using hletter
      split at h
      next negative after hsign =>
      have hafter : ∃ sign, more = sign ++ after ∧ ∀ d ∈ sign, IsNumberChar d := by
        split at hsign <;> cases hsign
        · exact ⟨['-'], rfl, List.forall_mem_singleton.mpr (.inr (by decide))⟩
        · exact ⟨['+'], rfl, List.forall_mem_singleton.mpr (.inr (by decide))⟩
        · exact ⟨[], rfl, nofun⟩
      obtain ⟨sign, rfl, hchars⟩ := hafter
      obtain ⟨digits, hafter, hdigits⟩ := takeDigits_spelled after
      split at h
      next => cases h
      next _ values others _ htake =>
        cases h
        rw [htake] at hafter
        have htail : FloatTail [c] := by
          refine ⟨⟨c, [], rfl, .inr hc⟩, List.forall_mem_singleton.mpr (.inr ?_)⟩
          rcases hc with rfl | rfl <;> decide
        refine ⟨[c] ++ (sign ++ digits), by simp [hafter], ?_⟩
        rw [if_neg nofun]
        refine htail.append (List.forall_mem_append.mpr ⟨hchars, fun d hd => .inl ?_⟩)
        exact isSome_of_mapM hdigits d hd
    next =>
      cases h
      exact ⟨[], rfl, rfl⟩

/-- A number is read from a token that is written at the start of the text. -/
theorem readNumber_written {cs rest : List Char} {n : JsonNumber}
    (h : readNumber cs = some (n, rest)) : ∃ token, cs = token ++ rest ∧ n.WrittenAs token := by
  unfold readNumber at h
  split at h
  next negative after hsign =>
  have hcs : cs = (if negative then ['-'] else []) ++ after := by
    split at hsign <;> cases hsign <;> rfl
  obtain ⟨digits, hdigits, hvalues⟩ := takeDigits_spelled after
  split at h
  next whole others htake =>
  rw [htake] at hdigits hvalues
  split at h
  next => cases h
  next hwhole =>
  simp only [Option.bind_eq_bind, Option.bind_eq_some_iff] at h
  obtain ⟨⟨fraction, more⟩, hfraction, ⟨exponent, left⟩, hexponent, number, hnumber, h⟩ := h
  cases h
  have hne : digits ≠ [] := by
    rintro rfl
    cases hvalues
    exact hwhole rfl
  have hmagnitude : decimal? digits = some (ofDigits 10 whole) := by
    rw [decimal?, hvalues]
    rfl
  have hinteger := JsonNumber.toInt?_ofToken hnumber
  obtain ⟨point, hpoint, hpoints⟩ := readFraction_spelled hfraction
  obtain ⟨power, hpower, hpowers⟩ := readExponent_spelled hexponent
  refine ⟨(if negative then ['-'] else []) ++ digits ++ (point ++ power), ?_, ?_⟩
  · simp only at hpoint hpower
    rw [hcs, hdigits, hpoint, hpower]
    simp
  · cases fraction with
    | some values =>
      rw [if_neg nofun] at hpoints
      refine .float hne hmagnitude (hpoints.append ?_) hinteger
      split at hpowers
      next => rw [hpowers]; nofun
      next => exact hpowers.chars
    | none =>
      rw [if_pos rfl] at hpoints
      rw [hpoints, List.nil_append]
      cases exponent with
      | some value =>
        rw [if_neg nofun] at hpowers
        exact .float hne hmagnitude hpowers hinteger
      | none =>
        rw [if_pos rfl] at hpowers
        rw [hpowers, List.append_nil]
        exact .integer hne hmagnitude hinteger

end Json

end Characters

end QueryTree
