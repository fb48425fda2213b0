import QueryTree.Proofs.NumberTokens
import QueryTree.Toml.Scalar

/-!
Numbers in TOML texts. An integer is read exactly, in whatever base it is written, or else not at
all. A decimal with a fraction or an exponent is read as a float, and there are words for the floats
that are not finite.
-/

namespace QueryTree

theorem JsonNumber.toInt?_ofInt (z : Int64) : (ofInt z).toInt? = some z.toInt := by
  by_cases hneg : z < 0
  · rw [ofInt, dif_pos hneg, toInt?]
  · have hnonneg : 0 ≤ z := Int64.not_lt.mp hneg
    have hword : (z.toUInt64.toNat : Int) = z.toInt := by
      rw [Int64.toNat_toUInt64_of_le hnonneg, Int64.toNatClampNeg,
        Int.toNat_of_nonneg (Int64.le_iff_toInt_le.mp hnonneg)]
    rw [ofInt, dif_neg hneg, toInt?, hword]

namespace Toml

theorem ofInteger?_exact {negative : Bool} {magnitude : Nat} {data : Data}
    (h : ofInteger? negative magnitude = some data) :
    ∃ n : JsonNumber, data = .number n ∧ n.toInt? = some (signedInt negative magnitude) := by
  have hdef : ofInteger? negative magnitude =
      if -(2 : Int) ^ 63 ≤ signedInt negative magnitude ∧ signedInt negative magnitude < 2 ^ 63 then
        some (.number (.ofInt (Int64.ofInt (signedInt negative magnitude))))
      else none := rfl
  rw [hdef] at h
  split at h
  next hrange =>
    cases h
    have hint := JsonNumber.toInt?_ofInt (Int64.ofInt (signedInt negative magnitude))
    rw [Int64.toInt_ofInt_of_le hrange.1 hrange.2] at hint
    exact ⟨_, rfl, hint⟩
  next => cases h

section Digits

/-- Characters that stand for digits, of which there is at least one. Two of them may have one
underscore between them. -/
inductive Digits (value? : Char → Option Nat) : List Char → List Nat → Prop
  | last {c : Char} {d : Nat} (h : value? c = some d) : Digits value? [c] [d]
  | next {c : Char} {d : Nat} {chars : List Char} {values : List Nat} (h : value? c = some d)
      (hrest : Digits value? chars values) : Digits value? (c :: chars) (d :: values)
  | apart {c : Char} {d : Nat} {chars : List Char} {values : List Nat} (h : value? c = some d)
      (hrest : Digits value? chars values) : Digits value? (c :: '_' :: chars) (d :: values)

variable {value? : Char → Option Nat}

theorem Digits.ne_nil {chars : List Char} {values : List Nat} (h : Digits value? chars values) :
    values ≠ [] := by
  cases h <;> exact List.cons_ne_nil _ _

theorem readMoreDigits_spelled {c : Char} {d : Nat} (hc : value? c = some d) {cs rest : List Char}
    {values : List Nat} (h : readMoreDigits value? cs = some (values, rest)) :
    ∃ chars, cs = chars ++ rest ∧ Digits value? (c :: chars) (d :: values) := by
  fun_induction readMoreDigits value? cs generalizing c d values with
  | case1 =>
    cases h
    exact ⟨[], rfl, .last hc⟩
  | case2 => cases h
  | case3 => cases h
  | case4 after more d' hafter ih =>
    obtain ⟨⟨others, left⟩, hmore, heq⟩ := Option.bind_eq_some_iff.mp h
    cases heq
    obtain ⟨chars, hchars, hdigits⟩ := ih hafter hmore
    exact ⟨'_' :: after :: chars, by rw [hchars]; rfl, .apart hc hdigits⟩
  | case5 =>
    cases h
    exact ⟨[], rfl, .last hc⟩
  | case6 after more hend hnext d' hafter ih =>
    obtain ⟨⟨others, left⟩, hmore, heq⟩ := Option.bind_eq_some_iff.mp h
    cases heq
    obtain ⟨chars, hchars, hdigits⟩ := ih hafter hmore
    exact ⟨after :: chars, by rw [hchars]; rfl, .next hc hdigits⟩

theorem readDigits_spelled {cs rest : List Char} {values : List Nat}
    (h : readDigits value? cs = some (values, rest)) :
    ∃ chars, cs = chars ++ rest ∧ Digits value? chars values := by
  cases cs with
  | nil => cases h
  | cons c more =>
    obtain ⟨d, hc, h⟩ := Option.bind_eq_some_iff.mp h
    obtain ⟨⟨others, left⟩, hmore, heq⟩ := Option.bind_eq_some_iff.mp h
    cases heq
    obtain ⟨chars, hchars, hdigits⟩ := readMoreDigits_spelled hc hmore
    exact ⟨c :: chars, by rw [hchars]; rfl, hdigits⟩

theorem readWhole_spelled {cs rest : List Char} {values : List Nat}
    (h : readWhole cs = some (values, rest)) :
    ∃ chars, cs = chars ++ rest ∧ Digits decimalValue? chars values := by
  unfold readWhole at h
  split at h
  next =>
    cases h
    exact ⟨['0'], rfl, .last rfl⟩
  next => exact readDigits_spelled h

end Digits

section Tokens

/-- A sign, which is a minus if the number is negative, and may be left out if it is not. -/
inductive Sign : Bool → List Char → Prop
  | minus : Sign true ['-']
  | plus : Sign false ['+']
  | absent : Sign false []

theorem readSign_spelled (cs : List Char) :
    ∃ sign, cs = sign ++ (readSign cs).2 ∧ Sign (readSign cs).1 sign := by
  unfold readSign
  split
  next => exact ⟨['-'], rfl, .minus⟩
  next => exact ⟨['+'], rfl, .plus⟩
  next => exact ⟨[], rfl, .absent⟩

/-- What is written for an integer. Only decimal digits have a sign. -/
inductive IntegerToken : List Char → Int → Prop
  | decimal {negative : Bool} {sign digits : List Char} {values : List Nat}
      (hsign : Sign negative sign) (hdigits : Digits decimalValue? digits values) :
      IntegerToken (sign ++ digits) (signedInt negative (ofDigits 10 values))
  | hexadecimal {digits : List Char} {values : List Nat}
      (hdigits : Digits hexValue? digits values) :
      IntegerToken ('0' :: 'x' :: digits) (ofDigits 16 values)
  | octal {digits : List Char} {values : List Nat} (hdigits : Digits (digitBelow 8) digits values) :
      IntegerToken ('0' :: 'o' :: digits) (ofDigits 8 values)
  | binary {digits : List Char} {values : List Nat}
      (hdigits : Digits (digitBelow 2) digits values) :
      IntegerToken ('0' :: 'b' :: digits) (ofDigits 2 values)

/-- A point with digits behind it, or nothing. -/
inductive Fraction : List Char → List Nat → Prop
  | absent : Fraction [] []
  | present {digits : List Char} {values : List Nat}
      (hdigits : Digits decimalValue? digits values) : Fraction ('.' :: digits) values

/-- The letter of an exponent with a sign and digits behind it, or nothing. -/
inductive Exponent : List Char → Option Int → Prop
  | absent : Exponent [] none
  | present {letter : Char} {negative : Bool} {sign digits : List Char} {values : List Nat}
      (hletter : letter = 'e' ∨ letter = 'E') (hsign : Sign negative sign)
      (hdigits : Digits decimalValue? digits values) :
      Exponent (letter :: (sign ++ digits)) (some (signedInt negative (ofDigits 10 values)))

/-- The float that a decimal is read as. -/
def decimalFloat (negative : Bool) (whole fraction : List Nat) (power : Option Int) : Binary64 :=
  Binary64.ofDecimal negative (ofDigits 10 (whole ++ fraction)) (power.getD 0 - fraction.length)

/-- The data that a number is read as. An integer is the one that is written. A decimal with a
fraction or an exponent is a float, and so are the words for what is not finite; a decimal without a
minus is not read as an infinity. -/
inductive NumberWritten : Data → List Char → Prop
  | integer {n : JsonNumber} {token : List Char} {z : Int} (htoken : IntegerToken token z)
      (hn : n.toInt? = some z) : NumberWritten (.number n) token
  | decimal {negative : Bool} {sign digits point exponent : List Char} {whole fraction : List Nat}
      {power : Option Int} (hsign : Sign negative sign)
      (hdigits : Digits decimalValue? digits whole) (hpoint : Fraction point fraction)
      (hexponent : Exponent exponent power) (hparts : fraction ≠ [] ∨ power ≠ none)
      (hbound : (decimalFloat negative whole fraction power).isFinite = true ∨ negative = true) :
      NumberWritten (Data.ofFloat (decimalFloat negative whole fraction power))
        (sign ++ (digits ++ (point ++ exponent)))
  | infinity {negative : Bool} {sign : List Char} (hsign : Sign negative sign) :
      NumberWritten (.nonFinite (.infinity negative)) (sign ++ ['i', 'n', 'f'])
  | notANumber {negative : Bool} {sign : List Char} (hsign : Sign negative sign) :
      NumberWritten (.nonFinite .nan) (sign ++ ['n', 'a', 'n'])

theorem readInBase_written {base : Nat} {value? : Char → Option Nat} {mark : Char}
    {cs rest : List Char} {data : Data}
    (htoken : ∀ {digits : List Char} {values : List Nat}, Digits value? digits values →
      IntegerToken ('0' :: mark :: digits) (ofDigits base values))
    (h : readInBase base value? cs = some (data, rest)) :
    ∃ token, '0' :: mark :: cs = token ++ rest ∧ NumberWritten data token := by
  obtain ⟨⟨values, left⟩, hdigits, h⟩ := Option.bind_eq_some_iff.mp h
  obtain ⟨number, hnumber, heq⟩ := Option.bind_eq_some_iff.mp h
  cases heq
  obtain ⟨digits, rfl, hspelled⟩ := readDigits_spelled hdigits
  obtain ⟨n, rfl, hn⟩ := ofInteger?_exact hnumber
  exact ⟨'0' :: mark :: digits, rfl, .integer (htoken hspelled) hn⟩

theorem readExponent_spelled {letter : Char} (hletter : letter = 'e' ∨ letter = 'E')
    {cs rest : List Char} {power : Int} (h : readExponent cs = some (power, rest)) :
    ∃ exponent, letter :: cs = exponent ++ rest ∧ Exponent exponent (some power) := by
  obtain ⟨sign, hcs, hsign⟩ := readSign_spelled cs
  obtain ⟨⟨values, left⟩, hvalues, heq⟩ := Option.bind_eq_some_iff.mp h
  cases heq
  obtain ⟨digits, hrest, hdigits⟩ := readDigits_spelled hvalues
  have hdrop : (readSign cs).2 = digits ++ rest := hrest
  refine ⟨letter :: (sign ++ digits), ?_, .present hletter hsign hdigits⟩
  rw [hcs, hdrop, List.cons_append, List.append_assoc]

/-- A decimal with a fraction or an exponent is a float. -/
theorem ofParts?_float {negative : Bool} {whole fraction : List Nat} {power : Option Int}
    {data : Data} (hparts : fraction ≠ [] ∨ power ≠ none)
    (h : ofParts? negative whole fraction power = some data) :
    data = Data.ofFloat (decimalFloat negative whole fraction power) ∧
      ((decimalFloat negative whole fraction power).isFinite = true ∨ negative = true) := by
  have hfloat : ¬ (fraction.isEmpty && power.isNone) = true := by
    rw [Bool.and_eq_true, List.isEmpty_iff, Option.isNone_iff_eq_none]
    exact fun hnone => hparts.elim (· hnone.1) (· hnone.2)
  rw [ofParts?, if_neg hfloat, ofDecimal?] at h
  split at h
  next hbound => exact ⟨(Option.some.inj h).symm, by simpa [decimalFloat] using hbound⟩
  next => cases h

/-- The parts of a decimal make up the number that is written. -/
theorem ofParts?_written {negative : Bool} {sign digits point exponent : List Char}
    {whole fraction : List Nat} {power : Option Int} {data : Data} (hsign : Sign negative sign)
    (hdigits : Digits decimalValue? digits whole) (hpoint : Fraction point fraction)
    (hexponent : Exponent exponent power)
    (h : ofParts? negative whole fraction power = some data) :
    NumberWritten data (sign ++ (digits ++ (point ++ exponent))) := by
  by_cases hparts : fraction ≠ [] ∨ power ≠ none
  · obtain ⟨rfl, hbound⟩ := ofParts?_float hparts h
    exact .decimal hsign hdigits hpoint hexponent hparts hbound
  · cases hpoint with
    | present hmore => exact absurd (.inl hmore.ne_nil) hparts
    | absent =>
      cases hexponent with
      | present => exact absurd (.inr nofun) hparts
      | absent =>
        obtain ⟨n, rfl, hn⟩ := ofInteger?_exact h
        rw [List.append_nil, List.append_nil]
        exact .integer (.decimal hsign hdigits) hn

theorem readDecimal_written {negative : Bool} {sign cs rest : List Char} {data : Data}
    (hsign : Sign negative sign) (h : readDecimal negative cs = some (data, rest)) :
    ∃ token, cs = token ++ rest ∧ NumberWritten data (sign ++ token) := by
  obtain ⟨⟨whole, afterWhole⟩, hwhole, h⟩ := Option.bind_eq_some_iff.mp h
  obtain ⟨⟨fraction, afterPoint⟩, hfraction, h⟩ := Option.bind_eq_some_iff.mp h
  obtain ⟨⟨power, left⟩, hpower, h⟩ := Option.bind_eq_some_iff.mp h
  obtain ⟨number, hnumber, heq⟩ := Option.bind_eq_some_iff.mp h
  cases heq
  obtain ⟨digits, rfl, hdigits⟩ := readWhole_spelled hwhole
  simp only at hfraction hpower hnumber
  have hpoint : ∃ point, afterWhole = point ++ afterPoint ∧ Fraction point fraction := by
    split at hfraction
    next after =>
      obtain ⟨⟨values, _⟩, hvalues, heq⟩ := Option.bind_eq_some_iff.mp hfraction
      cases heq
      obtain ⟨chars, rfl, hchars⟩ := readDigits_spelled hvalues
      exact ⟨'.' :: chars, rfl, .present hchars⟩
    next =>
      cases hfraction
      exact ⟨[], rfl, .absent⟩
  have hexponent : ∃ exponent, afterPoint = exponent ++ rest ∧ Exponent exponent power := by
    split at hpower
    next =>
      obtain ⟨⟨value, _⟩, hvalue, heq⟩ := Option.bind_eq_some_iff.mp hpower
      cases heq
      exact readExponent_spelled (.inl rfl) hvalue
    next =>
      obtain ⟨⟨value, _⟩, hvalue, heq⟩ := Option.bind_eq_some_iff.mp hpower
      cases heq
      exact readExponent_spelled (.inr rfl) hvalue
    next =>
      cases hpower
      exact ⟨[], rfl, .absent⟩
  obtain ⟨point, rfl, hpoint⟩ := hpoint
  obtain ⟨exponent, rfl, hexponent⟩ := hexponent
  exact ⟨digits ++ (point ++ exponent), by simp,
    ofParts?_written hsign hdigits hpoint hexponent hnumber⟩

theorem readNumber_written {cs rest : List Char} {data : Data}
    (h : readNumber cs = some (data, rest)) :
    ∃ token, cs = token ++ rest ∧ NumberWritten data token := by
  unfold readNumber at h
  split at h
  next more => exact readInBase_written .hexadecimal h
  next more => exact readInBase_written .octal h
  next more => exact readInBase_written .binary h
  next =>
    obtain ⟨sign, hcs, hsign⟩ := readSign_spelled cs
    simp only at h
    split at h
    next left hleft =>
      cases h
      refine ⟨sign ++ ['i', 'n', 'f'], ?_, .infinity hsign⟩
      rw [hcs, hleft]
      simp
    next left hleft =>
      cases h
      refine ⟨sign ++ ['n', 'a', 'n'], ?_, .notANumber hsign⟩
      rw [hcs, hleft]
      simp
    next left hinf hnan =>
      obtain ⟨token, htoken, hwritten⟩ := readDecimal_written hsign h
      refine ⟨sign ++ token, ?_, hwritten⟩
      rw [hcs, htoken, List.append_assoc]

end Tokens

end Toml

end QueryTree
