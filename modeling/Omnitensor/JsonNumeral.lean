/-
This file develops decimal numerals as JSON writes and reads them.

A numeral has digits before the dot, and may have digits after it and an exponent. The numeral of
an integer has neither. What is written is read back, as long as a value may end there.
-/

import Mathlib

namespace Omnitensor

/-! ### Numerals -/

/-- A decimal numeral: digits before and after the dot, and an exponent with its sign. -/
structure Numeral where
  negative : Bool
  whole : List Char
  fraction : List Char
  exponent : Option (List Char × List Char)
  deriving DecidableEq

namespace Numeral

/-- A decimal digit. -/
def digit (char : Char) : Bool := '0' ≤ char && char ≤ '9'

/-- The numeral is not one of an integer. -/
def fractional (numeral : Numeral) : Bool :=
  !numeral.fraction.isEmpty || numeral.exponent.isSome

/-- The text of a fraction. -/
def fractionText : List Char → List Char
  | [] => []
  | first :: rest => '.' :: first :: rest

/-- The text of an exponent. -/
def exponentText : Option (List Char × List Char) → List Char
  | none => []
  | some (sign, digits) => 'e' :: (sign ++ digits)

/-- The text of a numeral. -/
def text (numeral : Numeral) : List Char :=
  (if numeral.negative then ['-'] else []) ++
    (numeral.whole ++ (fractionText numeral.fraction ++ exponentText numeral.exponent))

/-- A numeral that the grammar of JSON admits. -/
structure WellFormed (numeral : Numeral) : Prop where
  whole : numeral.whole = ['0'] ∨
    ∃ first rest, numeral.whole = first :: rest ∧ first ≠ '0' ∧
      ∀ char ∈ numeral.whole, digit char = true
  fraction : ∀ char ∈ numeral.fraction, digit char = true
  exponent : ∀ sign digits, numeral.exponent = some (sign, digits) →
    (sign = [] ∨ sign = ['+'] ∨ sign = ['-']) ∧ digits ≠ [] ∧ ∀ char ∈ digits, digit char = true

instance (numeral : Numeral) : Decidable numeral.WellFormed :=
  decidable_of_iff
    ((numeral.whole = ['0'] ∨ (numeral.whole ≠ [] ∧ numeral.whole.head? ≠ some '0' ∧
        ∀ char ∈ numeral.whole, digit char = true)) ∧
      (∀ char ∈ numeral.fraction, digit char = true) ∧
      ∀ power ∈ numeral.exponent, (power.1 = [] ∨ power.1 = ['+'] ∨ power.1 = ['-']) ∧
        power.2 ≠ [] ∧ ∀ char ∈ power.2, digit char = true)
    (by
      constructor
      · rintro ⟨whole, fraction, exponent⟩
        refine ⟨whole.imp_right fun ⟨filled, other, all⟩ => ?_, fraction, fun sign digits same =>
          exponent (sign, digits) same⟩
        cases same : numeral.whole with
        | nil => exact absurd same filled
        | cons first rest =>
          refine ⟨first, rest, rfl, fun zero => other ?_, same ▸ all⟩
          rw [same, zero]
          rfl
      · rintro ⟨whole, fraction, exponent⟩
        refine ⟨whole.imp_right fun ⟨first, rest, same, other, all⟩ => ⟨?_, ?_, all⟩, fraction,
          fun power same => exponent power.1 power.2 same⟩
        · rw [same]
          exact List.cons_ne_nil _ _
        · rw [same]
          exact fun zero => other (Option.some.inj zero))

/-- The numeral of an integer. -/
def ofInt (value : Int) : Numeral where
  negative := decide (value < 0)
  whole := Nat.toDigits 10 value.natAbs
  fraction := []
  exponent := none

/-- The integer that a numeral without fraction and exponent is of. -/
def toInt (numeral : Numeral) : Int :=
  let magnitude : Int := Nat.ofDigitChars 10 numeral.whole 0
  if numeral.negative then -magnitude else magnitude

/-- The integer a numeral equals, if it equals one. -/
def toInt? (numeral : Numeral) : Option Int :=
  let magnitude := Nat.ofDigitChars 10 (numeral.whole ++ numeral.fraction) 0
  let signed : Int := if numeral.negative then -magnitude else magnitude
  let power : Int := match numeral.exponent with
    | none => 0
    | some (sign, digits) =>
      if sign = ['-'] then -Nat.ofDigitChars 10 digits 0 else Nat.ofDigitChars 10 digits 0
  let shift := power - numeral.fraction.length
  if 0 ≤ shift then some (signed * 10 ^ shift.toNat)
  else if signed % 10 ^ (-shift).toNat = 0 then some (signed / 10 ^ (-shift).toNat)
  else none

/-- The digits a text begins with, and what follows them. -/
def scanDigits (text : List Char) : List Char × List Char :=
  (text.takeWhile digit, text.dropWhile digit)

/-- Read the digits before the dot: one zero, or digits that begin with another one. -/
def scanWhole : List Char → List Char × List Char
  | '0' :: rest => (['0'], rest)
  | text => scanDigits text

/-- Read a dot and the digits after it, if they are there. -/
def scanFraction : List Char → List Char × List Char
  | '.' :: rest => if (scanDigits rest).1.isEmpty then ([], '.' :: rest) else scanDigits rest
  | text => ([], text)

/-- Read the sign of an exponent, if there is one. -/
def scanSign : List Char → List Char × List Char
  | '+' :: rest => (['+'], rest)
  | '-' :: rest => (['-'], rest)
  | text => ([], text)

/-- Read an exponent after its letter, if its digits are there. -/
def scanPower (letter : Char) (rest : List Char) : Option (List Char × List Char) × List Char :=
  let (sign, digits) := scanSign rest
  if (scanDigits digits).1.isEmpty then (none, letter :: rest)
  else (some (sign, (scanDigits digits).1), (scanDigits digits).2)

/-- Read an exponent, if it is there. -/
def scanExponent : List Char → Option (List Char × List Char) × List Char
  | 'e' :: rest => scanPower 'e' rest
  | 'E' :: rest => scanPower 'E' rest
  | text => (none, text)

/-- Read a numeral without its sign. -/
def scanMagnitude (negative : Bool) (text : List Char) : Option (Numeral × List Char) :=
  let (whole, text) := scanWhole text
  if whole.isEmpty then none
  else
    let (fraction, text) := scanFraction text
    let (exponent, text) := scanExponent text
    some (⟨negative, whole, fraction, exponent⟩, text)

/-- Read a numeral. -/
def scan : List Char → Option (Numeral × List Char)
  | '-' :: rest => scanMagnitude true rest
  | text => scanMagnitude false text

/-! ### Reading a numeral back -/

/-- What may follow a value: nothing, or the end of what it is part of. -/
def Ends (rest : List Char) : Prop :=
  ∀ char ∈ rest.head?, char = ',' ∨ char = ']' ∨ char = '}'

theorem ends_nil : Ends [] := fun _ impossible => by cases impossible

theorem ends_cons {char : Char} {rest : List Char} (ends : char = ',' ∨ char = ']' ∨ char = '}') :
    Ends (char :: rest) := by
  rintro _ ⟨⟩
  exact ends

variable {rest : List Char}

theorem scanDigits_append {digits : List Char} (all : ∀ char ∈ digits, digit char = true)
    (stops : ∀ char ∈ rest.head?, digit char = false) :
    scanDigits (digits ++ rest) = (digits, rest) := by
  rw [scanDigits, List.takeWhile_append_of_pos all, List.dropWhile_append_of_pos all]
  cases rest with
  | nil => simp
  | cons char rest => simp [stops char rfl]

theorem ne_of_digit {char other : Char} (isDigit : digit char = true)
    (notDigit : digit other = false) : char ≠ other := by
  rintro rfl
  rw [isDigit] at notDigit
  cases notDigit

theorem digit_of_ends (ends : Ends rest) : ∀ char ∈ rest.head?, digit char = false := by
  intro char first
  rcases ends char first with rfl | rfl | rfl <;> rfl

theorem scanExponent_append {exponent : Option (List Char × List Char)}
    (valid : ∀ sign digits, exponent = some (sign, digits) →
      (sign = [] ∨ sign = ['+'] ∨ sign = ['-']) ∧ digits ≠ [] ∧ ∀ char ∈ digits, digit char = true)
    (ends : Ends rest) : scanExponent (exponentText exponent ++ rest) = (exponent, rest) := by
  cases exponent with
  | none =>
    cases rest with
    | nil => rfl
    | cons char rest => rcases ends char rfl with rfl | rfl | rfl <;> rfl
  | some power =>
    obtain ⟨sign, digits⟩ := power
    obtain ⟨signs, some, all⟩ := valid sign digits rfl
    have scanned := scanDigits_append all (digit_of_ends ends)
    have first : ∃ char tail, digits = char :: tail ∧ digit char = true := by
      cases digits with
      | nil => exact absurd rfl some
      | cons char tail => exact ⟨char, tail, rfl, all char List.mem_cons_self⟩
    have signed : scanSign (sign ++ (digits ++ rest)) = (sign, digits ++ rest) := by
      obtain ⟨char, tail, rfl, isDigit⟩ := first
      rcases signs with rfl | rfl | rfl
      · rw [List.nil_append, List.cons_append]
        unfold scanSign
        split
        · rename_i same
          exact absurd (List.cons.inj same).1 (ne_of_digit isDigit rfl)
        · rename_i same
          exact absurd (List.cons.inj same).1 (ne_of_digit isDigit rfl)
        · rfl
      · rfl
      · rfl
    have kept : digits.isEmpty = false := by
      obtain ⟨char, tail, rfl, _⟩ := first
      rfl
    rw [exponentText, List.cons_append, List.append_assoc]
    simp only [scanExponent, scanPower, signed, scanned, kept, Bool.false_eq_true, if_false]

theorem scanFraction_append {fraction : List Char} (all : ∀ char ∈ fraction, digit char = true)
    (stops : ∀ char ∈ rest.head?, digit char = false ∧ char ≠ '.') :
    scanFraction (fractionText fraction ++ rest) = (fraction, rest) := by
  cases fraction with
  | nil =>
    cases rest with
    | nil => rfl
    | cons char rest =>
      show scanFraction (char :: rest) = _
      unfold scanFraction
      split
      · rename_i same
        exact absurd (List.cons.inj same).1 (stops char rfl).2
      · rfl
  | cons char fraction =>
    have scanned := scanDigits_append all fun other first => (stops other first).1
    show scanFraction ('.' :: (char :: fraction ++ rest)) = _
    simp only [scanFraction, scanned, List.isEmpty_cons, Bool.false_eq_true, if_false]

theorem scanWhole_append {whole : List Char}
    (valid : whole = ['0'] ∨ ∃ first rest, whole = first :: rest ∧ first ≠ '0' ∧
      ∀ char ∈ whole, digit char = true) (stops : ∀ char ∈ rest.head?, digit char = false) :
    scanWhole (whole ++ rest) = (whole, rest) := by
  rcases valid with rfl | ⟨first, others, rfl, other, all⟩
  · rfl
  · rw [← scanDigits_append all stops]
    show scanWhole (first :: (others ++ rest)) = _
    unfold scanWhole
    split
    · rename_i same
      exact absurd (List.cons.inj same).1 other
    · rfl

theorem stops_exponentText (exponent : Option (List Char × List Char)) (ends : Ends rest) :
    ∀ char ∈ (exponentText exponent ++ rest).head?,
      digit char = false ∧ char ≠ '.' := by
  intro char first
  cases exponent with
  | none =>
    refine ⟨digit_of_ends ends char first, ?_⟩
    rcases ends char first with rfl | rfl | rfl <;> decide
  | some power =>
    cases first
    decide

theorem stops_fractionText (fraction : List Char)
    (stops : ∀ char ∈ rest.head?, digit char = false ∧ char ≠ '.') :
    ∀ char ∈ (fractionText fraction ++ rest).head?, digit char = false := by
  intro char first
  cases fraction with
  | nil => exact (stops char first).1
  | cons head tail =>
    cases first
    rfl

/-- A numeral is read back where a value may end. -/
theorem scan_text_append {numeral : Numeral} (valid : numeral.WellFormed) (ends : Ends rest) :
    scan (numeral.text ++ rest) = some (numeral, rest) := by
  obtain ⟨negative, whole, fraction, exponent⟩ := numeral
  have stops := stops_exponentText exponent ends
  have wholeScanned := scanWhole_append valid.whole (stops_fractionText fraction stops)
  have fractionScanned := scanFraction_append valid.fraction stops
  have exponentScanned := scanExponent_append valid.exponent ends
  have some : ∃ first others, whole = first :: others ∧ digit first = true := by
    rcases valid.whole with rfl | ⟨first, others, same, _, all⟩
    · exact ⟨'0', [], rfl, rfl⟩
    · exact ⟨first, others, same, all first (by rw [same]; exact List.mem_cons_self)⟩
  obtain ⟨first, others, same, isDigit⟩ := some
  have magnitude : scanMagnitude negative (whole ++ (fractionText fraction ++
      (exponentText exponent ++ rest))) = Option.some (⟨negative, whole, fraction, exponent⟩, rest) := by
    have kept : whole.isEmpty = false := by rw [same]; rfl
    simp only [scanMagnitude, wholeScanned, fractionScanned, exponentScanned, kept,
      Bool.false_eq_true, if_false]
  simp only [text, List.append_assoc]
  cases negative with
  | true => exact magnitude
  | false =>
    rw [← magnitude]
    show scan (whole ++ _) = _
    rw [same, List.cons_append]
    unfold scan
    split
    · rename_i minus
      exact absurd (List.cons.inj minus).1 (ne_of_digit isDigit rfl)
    · rfl

/-! ### Integers -/

theorem digit_of_mem_toDigits {value : Nat} {char : Char} (member : char ∈ Nat.toDigits 10 value) :
    digit char = true := by
  have isDigit := Nat.isDigit_of_mem_toDigits (by decide) (by decide) member
  simpa [digit, Char.isDigit, Char.le_def, UInt32.le_iff_toNat_le] using isDigit

theorem digit_toDigits (value : Nat) : ∀ char ∈ Nat.toDigits 10 value, digit char = true :=
  fun _ => digit_of_mem_toDigits

/-- Only zero begins with a zero. -/
theorem head_toDigits {value : Nat} (positive : 0 < value) :
    ∃ first rest, Nat.toDigits 10 value = first :: rest ∧ first ≠ '0' := by
  induction value using Nat.strongRecOn with
  | ind value inductionHypothesis =>
    rw [Nat.toDigits_eq_if (by decide)]
    split
    · rename_i small
      have other : ∀ number < 10, 0 < number → Nat.digitChar number ≠ '0' := by decide
      exact ⟨value.digitChar, [], rfl, other value small positive⟩
    · rename_i large
      obtain ⟨first, rest, same, other⟩ := inductionHypothesis (value / 10) (by omega) (by omega)
      exact ⟨first, rest ++ [(value % 10).digitChar], by rw [same]; rfl, other⟩

theorem wellFormed_ofInt (value : Int) : (ofInt value).WellFormed where
  whole := by
    rcases Nat.eq_zero_or_pos value.natAbs with zero | positive
    · exact Or.inl (by rw [ofInt, zero]; rfl)
    · obtain ⟨first, rest, same, other⟩ := head_toDigits positive
      exact Or.inr ⟨first, rest, same, other, fun _ => digit_of_mem_toDigits⟩
  fraction _ impossible := by cases impossible
  exponent _ _ impossible := by cases impossible

@[simp] theorem toInt_ofInt (value : Int) : (ofInt value).toInt = value := by
  simp only [toInt, ofInt, Nat.ofDigitChars_ten_toDigits, decide_eq_true_eq]
  split <;> omega

@[simp] theorem fractional_ofInt (value : Int) : (ofInt value).fractional = false := rfl

end Numeral

end Omnitensor
