/-
This file gives doubles the numerals Python writes them as.

The numeral of a double has as few digits as bring the double back, at most seventeen, and of the
two numerals with so many digits next to the double the nearer one that does. Digits stand around
the dot as long as it is close to them, and otherwise an exponent says where it is. A numeral is
read as the double nearest to its value.
-/

import Omnitensor.BinaryFloat
import Omnitensor.JsonText
import Mathlib.Data.Nat.Log

namespace Omnitensor

namespace Double

/-- The double nearest to the value of a numeral, unless it is infinite. -/
def ofNumeral (numeral : Numeral) : Option Double :=
  let digits := Nat.ofDigitChars 10 (numeral.whole ++ numeral.fraction) 0
  let power : Int := match numeral.exponent with
    | none => 0
    | some (sign, digits) =>
      if sign = ['-'] then -Nat.ofDigitChars 10 digits 0 else Nat.ofDigitChars 10 digits 0
  let shift := power - numeral.fraction.length
  ofRatio numeral.negative (digits * one * 10 ^ shift.toNat) (10 ^ (-shift).toNat)

/-- The decimal exponent of a positive magnitude. -/
def decimalExponent (magnitude : Nat) : Int :=
  if one ≤ magnitude then Nat.log 10 (magnitude / one)
  else -Nat.clog 10 ((one + magnitude - 1) / magnitude)

/-- The digits of a number without the zeros they end with. -/
def significant (digits : Nat) : List Char :=
  ((Nat.toDigits 10 digits).reverse.dropWhile fun char => char == '0').reverse

/-- Digits of an exponent, at least two. -/
def exponentDigits (power : Nat) : List Char :=
  if power < 10 then '0' :: Nat.toDigits 10 power else Nat.toDigits 10 power

/-- Lay digits out, the dot standing so many places after the first digit. -/
def layout (negative : Bool) (digits : List Char) (point : Int) : Numeral :=
  if -4 < point ∧ point ≤ 16 then
    if point ≤ 0 then ⟨negative, ['0'], List.replicate (-point).toNat '0' ++ digits, none⟩
    else if digits.length ≤ point.toNat then
      ⟨negative, digits ++ List.replicate (point.toNat - digits.length) '0', ['0'], none⟩
    else ⟨negative, digits.take point.toNat, digits.drop point.toNat, none⟩
  else
    let power := point - 1
    ⟨negative, digits.take 1, digits.drop 1,
      some ([if power < 0 then '-' else '+'], exponentDigits power.natAbs)⟩

/-- The two numerals with so many digits next to a positive magnitude, the nearer one first. -/
def neighbours (negative : Bool) (magnitude count : Nat) : List Numeral :=
  let exponent := decimalExponent magnitude
  let shift := (count : Int) - 1 - exponent
  let numerator := magnitude * 10 ^ shift.toNat
  let denominator := one * 10 ^ (-shift).toNat
  let below := numerator / denominator
  let near := FloatFormat.nearest numerator denominator
  let numeral := fun digits =>
    layout negative (significant digits) ((Nat.toDigits 10 digits).length - shift)
  [numeral near, numeral (if near = below then below + 1 else below)]

/-- All digits of a double. -/
def exactNumeral (value : Double) : Numeral :=
  ⟨value.negative, Nat.toDigits 10 (FloatFormat.binary64.magnitude value.code * 5 ^ oneBits),
    ['0'], some (['-'], Nat.toDigits 10 oneBits)⟩

/-- The shortest numeral that is read as a double. -/
def repr (value : Double) : Numeral :=
  let magnitude := FloatFormat.binary64.magnitude value.code
  if magnitude = 0 then ⟨value.negative, ['0'], ['0'], none⟩
  else
    ((List.range' 1 17).flatMap (neighbours value.negative magnitude)).find?
      (fun numeral => decide (numeral.WellFormed ∧ numeral.fractional = true ∧
        ofNumeral numeral = some value)) |>.getD (exactNumeral value)

/-! ### Reading a numeral back -/

theorem wellFormed_exactNumeral {value : Double}
    (positive : 0 < FloatFormat.binary64.magnitude value.code) :
    (exactNumeral value).WellFormed where
  whole := by
    obtain ⟨first, rest, same, other⟩ :=
      Numeral.head_toDigits (Nat.mul_pos positive (Nat.pow_pos (n := oneBits) (a := 5) (by decide)))
    exact Or.inr ⟨first, rest, same, other, Numeral.digit_toDigits _⟩
  fraction char member := by
    rw [List.mem_singleton.mp member]
    rfl
  exponent sign digits same := by
    cases same
    exact ⟨Or.inr (Or.inr rfl), Nat.toDigits_ne_nil, Numeral.digit_toDigits _⟩

theorem ofNumeral_exactNumeral (value : Double) : ofNumeral (exactNumeral value) = some value := by
  have shift : -(oneBits : Int) - (['0'] : List Char).length = -((oneBits + 1 : Nat) : Int) := by
    rw [List.length_singleton]
    omega
  have whole : Nat.ofDigitChars 10 ['0'] = fun number => 10 * number := by
    funext number
    simp [Nat.ofDigitChars_cons]
  have unit : 10 * (FloatFormat.binary64.magnitude value.code * 5 ^ oneBits) * one =
      FloatFormat.binary64.magnitude value.code * 10 ^ (oneBits + 1) := by
    rw [one, show 10 = 5 * 2 from rfl, Nat.pow_succ, Nat.mul_pow]
    ring
  simp only [ofNumeral, exactNumeral, Nat.ofDigitChars_append, Nat.ofDigitChars_ten_toDigits, whole,
    if_pos, shift, neg_neg, Int.toNat_neg_natCast, Int.toNat_natCast, Nat.pow_zero, Nat.mul_one,
    unit]
  exact ofRatio_magnitude value (Nat.pow_pos (by decide))

/-- The numeral of a double is one of JSON, not one of an integer, and is read as the double. -/
theorem repr_spec (value : Double) :
    (repr value).WellFormed ∧ (repr value).fractional = true ∧
      ofNumeral (repr value) = some value := by
  unfold repr
  simp only
  split
  · rename_i zero
    refine ⟨?_, rfl, ?_⟩
    · refine ⟨Or.inl rfl, fun char member => ?_, fun _ _ none => by cases none⟩
      obtain rfl := List.mem_singleton.mp member
      rfl
    · have same := ofRatio_magnitude value (show 0 < 10 by decide)
      rw [zero, Nat.zero_mul] at same
      change ofRatio value.negative (0 * one * 10 ^ 0) (10 ^ 1) = some value
      rw [Nat.zero_mul, Nat.zero_mul, Nat.pow_one]
      exact same
  · rename_i nonzero
    cases found : ((List.range' 1 17).flatMap
        (neighbours value.negative (FloatFormat.binary64.magnitude value.code))).find?
        (fun numeral => decide (numeral.WellFormed ∧ numeral.fractional = true ∧
          ofNumeral numeral = some value)) with
    | none =>
      exact ⟨wellFormed_exactNumeral (Nat.pos_of_ne_zero nonzero), rfl,
        ofNumeral_exactNumeral value⟩
    | some numeral =>
      have accepted := List.find?_some found
      exact of_decide_eq_true accepted

end Double

instance : FloatText Double where
  numeral := Double.repr
  wellFormed value := (Double.repr_spec value).1
  fractional value := (Double.repr_spec value).2.1
  ofNumeral := Double.ofNumeral
  ofNumeral_numeral value := (Double.repr_spec value).2.2
  toInt? := Double.toInt?

end Omnitensor
