/-
This file develops binary floating-point numbers: their codes, the rounding of a quotient to the
nearest of them, and the packing of a wide number as a narrow one.

A code is an exponent followed by a fraction, read as one natural number, so that codes are in the
order of the magnitudes they stand for. A magnitude counts the smallest positive one. Rounding
takes ties to the even code and carries into the exponent by itself.
-/

import Mathlib.Data.Nat.Basic
import Mathlib.Tactic.Positivity
import Mathlib.Tactic.Ring

namespace Omnitensor

/-! ### Formats -/

/-- A binary format: the bits of its fraction and how many exponents finite numbers have. -/
structure FloatFormat where
  fraction : Nat
  exponents : Nat

namespace FloatFormat

/-- The single format. -/
def binary32 : FloatFormat := ⟨23, 255⟩

/-- The double format. -/
def binary64 : FloatFormat := ⟨52, 2047⟩

/-- The codes from here on are not of finite numbers. -/
def codes (format : FloatFormat) : Nat := format.exponents * 2 ^ format.fraction

/-- The magnitude of a code. The first exponent has no implicit bit. -/
def magnitude (format : FloatFormat) (code : Nat) : Nat :=
  if code / 2 ^ format.fraction = 0 then code
  else (2 ^ format.fraction + code % 2 ^ format.fraction) *
    2 ^ (code / 2 ^ format.fraction - 1)

/-- The integer nearest to a quotient, the even one of two. -/
def nearest (numerator denominator : Nat) : Nat :=
  let quotient := numerator / denominator
  let rest := 2 * (numerator % denominator)
  if rest < denominator then quotient
  else if rest = denominator then quotient + quotient % 2
  else quotient + 1

/-- How many bits of a magnitude lie below its fraction. -/
def scale (format : FloatFormat) (magnitude : Nat) : Nat := magnitude.log2 - format.fraction

/-- The code nearest to a quotient. -/
def round (format : FloatFormat) (numerator denominator : Nat) : Nat :=
  let scale := format.scale (numerator / denominator)
  scale * 2 ^ format.fraction + nearest numerator (denominator * 2 ^ scale)

/-! ### Exact magnitudes -/

theorem mul_two_pow_lt {number bits : Nat} (below : number < 2 ^ bits) (shift : Nat) :
    number * 2 ^ shift < 2 ^ (bits + shift) := by
  rw [Nat.pow_add]
  exact Nat.mul_lt_mul_of_pos_right below (Nat.two_pow_pos _)

/-- A magnitude with no bit below its fraction. -/
def Exact (format : FloatFormat) (magnitude : Nat) : Prop := 2 ^ format.scale magnitude ∣ magnitude

theorem nearest_mul {quotient denominator : Nat} (positive : 0 < denominator) :
    nearest (quotient * denominator) denominator = quotient := by
  simp [nearest, positive]

variable {magnitude shift unit lead : Nat} {format : FloatFormat}

theorem pow_scale_le (some : 0 < format.scale magnitude) :
    2 ^ (format.fraction + format.scale magnitude) ≤ magnitude := by
  have split : format.fraction + format.scale magnitude = magnitude.log2 := by
    unfold scale at some ⊢
    omega
  rw [split]
  refine Nat.log2_self_le fun zero => ?_
  rw [zero] at some
  simp [scale] at some

theorem lt_pow_scale (format : FloatFormat) (magnitude : Nat) :
    magnitude < 2 ^ (format.fraction + 1 + format.scale magnitude) :=
  Nat.lt_log2_self.trans_le (Nat.pow_le_pow_right (by decide) (by unfold scale; omega))

theorem scale_eq (above : 0 < shift → 2 ^ (format.fraction + shift) ≤ magnitude)
    (below : magnitude < 2 ^ (format.fraction + 1 + shift)) : format.scale magnitude = shift := by
  unfold scale
  rcases Nat.eq_zero_or_pos magnitude with rfl | positive
  · rcases Nat.eq_zero_or_pos shift with rfl | some
    · simp
    · exact absurd (above some) (by simp)
  · have upper := (Nat.log2_lt (Nat.pos_iff_ne_zero.mp positive)).mpr below
    rcases Nat.eq_zero_or_pos shift with rfl | some
    · omega
    · have lower := (Nat.le_log2 (Nat.pos_iff_ne_zero.mp positive)).mpr (above some)
      omega

/-- The code of an exact magnitude is its scale followed by its leading bits. -/
theorem round_exact (positive : 0 < unit) (fits : format.Exact magnitude) :
    format.round (magnitude * unit) unit =
      format.scale magnitude * 2 ^ format.fraction + magnitude / 2 ^ format.scale magnitude := by
  have multiple : magnitude * unit =
      magnitude / 2 ^ format.scale magnitude * (unit * 2 ^ format.scale magnitude) := by
    calc magnitude * unit
        = magnitude / 2 ^ format.scale magnitude * 2 ^ format.scale magnitude * unit := by
          rw [Nat.div_mul_cancel fits]
      _ = _ := by ring
  unfold round
  rw [Nat.mul_div_cancel _ positive]
  simp only
  rw [multiple, nearest_mul (Nat.mul_pos positive (Nat.two_pow_pos _))]

/-- The leading bits of a magnitude, with the implicit one if it is scaled. -/
theorem leading_lt (format : FloatFormat) (magnitude : Nat) :
    magnitude / 2 ^ format.scale magnitude < 2 ^ (format.fraction + 1) := by
  rw [Nat.div_lt_iff_lt_mul (Nat.two_pow_pos _), ← Nat.pow_add]
  exact lt_pow_scale format magnitude

theorem le_leading (some : 0 < format.scale magnitude) :
    2 ^ format.fraction ≤ magnitude / 2 ^ format.scale magnitude := by
  rw [Nat.le_div_iff_mul_le (Nat.two_pow_pos _), ← Nat.pow_add]
  exact pow_scale_le some

/-- A code whose leading bits include the implicit one. -/
theorem magnitude_scaled (shift : Nat) (lower : 2 ^ format.fraction ≤ lead)
    (upper : lead < 2 ^ (format.fraction + 1)) :
    format.magnitude (shift * 2 ^ format.fraction + lead) = lead * 2 ^ shift := by
  have positive := Nat.two_pow_pos format.fraction
  rw [Nat.pow_succ] at upper
  have split : shift * 2 ^ format.fraction + lead =
      lead - 2 ^ format.fraction + (shift + 1) * 2 ^ format.fraction := by
    rw [Nat.succ_mul]
    omega
  have small : lead - 2 ^ format.fraction < 2 ^ format.fraction := by omega
  rw [magnitude, split, Nat.add_mul_div_right _ _ positive, Nat.add_mul_mod_self_right,
    Nat.div_eq_of_lt small, Nat.mod_eq_of_lt small, if_neg (by omega), Nat.add_sub_cancel' lower]
  congr 2
  omega

/-- An exact magnitude is the magnitude of its code. -/
theorem magnitude_round (positive : 0 < unit) (fits : format.Exact magnitude) :
    format.magnitude (format.round (magnitude * unit) unit) = magnitude := by
  rw [round_exact positive fits]
  rcases Nat.lt_or_ge (magnitude / 2 ^ format.scale magnitude) (2 ^ format.fraction) with
    small | large
  · have unscaled : format.scale magnitude = 0 :=
      Nat.eq_zero_of_not_pos fun some => absurd (le_leading some) (by omega)
    rw [unscaled] at small ⊢
    rw [Nat.pow_zero, Nat.div_one] at small ⊢
    rw [Nat.zero_mul, Nat.zero_add, FloatFormat.magnitude, if_pos (Nat.div_eq_of_lt small)]
  · rw [magnitude_scaled _ large (leading_lt format magnitude), Nat.div_mul_cancel fits]

/-- The magnitude of a code has the exponent of the code as its scale. -/
theorem scale_magnitude (shift : Nat) (lower : 2 ^ format.fraction ≤ lead)
    (upper : lead < 2 ^ (format.fraction + 1)) : format.scale (lead * 2 ^ shift) = shift := by
  refine scale_eq (fun _ => ?_) (mul_two_pow_lt upper shift)
  rw [Nat.pow_add]
  exact Nat.mul_le_mul_right _ lower

/-- A code is that of a small number, or an exponent followed by leading bits. -/
theorem code_cases (format : FloatFormat) (code : Nat) :
    code < 2 ^ format.fraction ∨ ∃ shift lead, 2 ^ format.fraction ≤ lead ∧
      lead < 2 ^ (format.fraction + 1) ∧ code = shift * 2 ^ format.fraction + lead := by
  have positive := Nat.two_pow_pos format.fraction
  rcases Nat.lt_or_ge code (2 ^ format.fraction) with small | large
  · exact Or.inl small
  · refine Or.inr ⟨code / 2 ^ format.fraction - 1,
      2 ^ format.fraction + code % 2 ^ format.fraction, Nat.le_add_right _ _, ?_, ?_⟩
    · rw [Nat.pow_succ]
      have := Nat.mod_lt code positive
      omega
    · have some : 1 ≤ code / 2 ^ format.fraction := (Nat.one_le_div_iff positive).mpr large
      have whole := Nat.div_add_mod' code (2 ^ format.fraction)
      obtain ⟨shift, same⟩ := Nat.exists_eq_add_of_le' some
      rw [same, Nat.succ_mul] at whole
      rw [same, Nat.add_sub_cancel]
      omega

theorem exact_magnitude (format : FloatFormat) (code : Nat) :
    format.Exact (format.magnitude code) := by
  rcases code_cases format code with small | ⟨shift, lead, lower, upper, rfl⟩
  · have unscaled : format.scale code = 0 :=
      scale_eq (fun impossible => absurd impossible (by omega))
        (small.trans_le (Nat.pow_le_pow_right (by decide) (by omega)))
    rw [magnitude, if_pos (Nat.div_eq_of_lt small), Exact, unscaled]
    exact Nat.one_dvd _
  · rw [magnitude_scaled shift lower upper, Exact, scale_magnitude shift lower upper]
    exact Nat.dvd_mul_left _ _

/-- A code is the code of its magnitude. -/
theorem round_magnitude (format : FloatFormat) (code : Nat) (positive : 0 < unit) :
    format.round (format.magnitude code * unit) unit = code := by
  rw [round_exact positive (exact_magnitude format code)]
  rcases code_cases format code with small | ⟨shift, lead, lower, upper, rfl⟩
  · have unscaled : format.scale code = 0 :=
      scale_eq (fun impossible => absurd impossible (by omega))
        (small.trans_le (Nat.pow_le_pow_right (by decide) (by omega)))
    rw [magnitude, if_pos (Nat.div_eq_of_lt small), unscaled, Nat.zero_mul, Nat.zero_add,
      Nat.pow_zero, Nat.div_one]
  · rw [magnitude_scaled shift lower upper, scale_magnitude shift lower upper,
      Nat.mul_div_cancel _ (Nat.two_pow_pos _)]

/-- A wider fraction keeps what is exact, also in smaller units. -/
theorem exact_mul_pow {narrow wide : FloatFormat} (wider : narrow.fraction ≤ wide.fraction)
    (fits : narrow.Exact magnitude) (shift : Nat) : wide.Exact (magnitude * 2 ^ shift) := by
  rcases Nat.eq_zero_or_pos magnitude with rfl | positive
  · simp [Exact]
  · have scaled : wide.scale (magnitude * 2 ^ shift) ≤ narrow.scale magnitude + shift := by
      have log : (magnitude * 2 ^ shift).log2 < magnitude.log2 + 1 + shift := by
        rw [Nat.log2_lt (by positivity)]
        exact mul_two_pow_lt Nat.lt_log2_self shift
      unfold scale
      omega
    refine (Nat.pow_dvd_pow 2 scaled).trans ?_
    rw [Nat.pow_add]
    exact Nat.mul_dvd_mul_right fits _

/-! ### Bounds -/

theorem magnitude_lt (format : FloatFormat) {code : Nat} (finite : code < format.codes) :
    format.magnitude code < 2 ^ (format.fraction + format.exponents) := by
  rcases code_cases format code with small | ⟨shift, lead, lower, upper, rfl⟩
  · rw [magnitude, if_pos (Nat.div_eq_of_lt small)]
    exact small.trans_le (Nat.pow_le_pow_right (by decide) (by omega))
  · have exponents : shift + 1 < format.exponents := by
      refine Nat.lt_of_mul_lt_mul_right (a := 2 ^ format.fraction) ?_
      rw [Nat.succ_mul]
      exact (Nat.add_le_add_left lower _).trans_lt finite
    rw [magnitude_scaled shift lower upper]
    exact (mul_two_pow_lt upper shift).trans_le (Nat.pow_le_pow_right (by decide) (by omega))

theorem round_lt (positive : 0 < unit) (fits : format.Exact magnitude)
    (below : magnitude < 2 ^ (format.fraction + 1 + shift)) :
    format.round (magnitude * unit) unit < (shift + 2) * 2 ^ format.fraction := by
  have scaled : format.scale magnitude ≤ shift := by
    rcases Nat.eq_zero_or_pos magnitude with rfl | some
    · simp [scale]
    · have := (Nat.log2_lt (Nat.pos_iff_ne_zero.mp some)).mpr below
      unfold scale
      omega
  rw [round_exact positive fits]
  calc format.scale magnitude * 2 ^ format.fraction + magnitude / 2 ^ format.scale magnitude
      < shift * 2 ^ format.fraction + 2 ^ (format.fraction + 1) :=
        Nat.add_lt_add_of_le_of_lt (Nat.mul_le_mul_right _ scaled) (leading_lt format magnitude)
    _ = _ := by ring

end FloatFormat

/-! ### Numbers -/

/-- A finite number of the double format. -/
structure Double where
  negative : Bool
  code : Nat
  finite : code < FloatFormat.binary64.codes
  deriving DecidableEq

namespace Double

open FloatFormat

/-- The smallest positive double is this many bits below one. -/
def oneBits : Nat := 1074

/-- The smallest positive double is this many bits below the smallest positive single. -/
def singleBits : Nat := 925

/-- How many of the smallest positive double make one. -/
def one : Nat := 2 ^ oneBits

/-- How many of the smallest positive double make the smallest positive single. -/
def smallestSingle : Nat := 2 ^ singleBits

/-- The double nearest to a quotient of magnitudes, unless it is infinite. -/
def ofRatio (negative : Bool) (numerator denominator : Nat) : Option Double :=
  if finite : binary64.round numerator denominator < binary64.codes then
    some ⟨negative, binary64.round numerator denominator, finite⟩
  else none

/-- The double nearest to an integer, unless it is infinite. -/
def ofInt (value : Int) : Option Double := ofRatio (decide (value < 0)) (value.natAbs * one) 1

/-- The value of a double, counted in the smallest positive one. -/
def units (value : Double) : Int :=
  if value.negative then -(binary64.magnitude value.code : Int) else binary64.magnitude value.code

/-- The integer a double equals, if any. -/
def toInt? (value : Double) : Option Int :=
  if value.units % one = 0 then some (value.units / one) else none

/-- The word of the nearest single, unless it is infinite. -/
def pack (value : Double) : Option Nat :=
  let code := binary32.round (binary64.magnitude value.code) smallestSingle
  if code < binary32.codes then some ((if value.negative then 2 ^ 31 else 0) + code) else none

/-- The double of a single, unless that is not finite. -/
def unpack (word : Nat) : Option Double :=
  if word % 2 ^ 31 < binary32.codes then
    ofRatio (decide (2 ^ 31 ≤ word)) (binary32.magnitude (word % 2 ^ 31) * smallestSingle) 1
  else none

theorem one_pos : 0 < one := Nat.two_pow_pos oneBits

theorem smallestSingle_pos : 0 < smallestSingle := Nat.two_pow_pos singleBits

theorem single_bits : binary64.fraction + 1 + 1150 =
    binary32.fraction + binary32.exponents + singleBits := rfl

-- The powers are too large to be evaluated while a proof is checked.
attribute [irreducible] oneBits singleBits

theorem ofRatio_magnitude (value : Double) {unit : Nat} (positive : 0 < unit) :
    ofRatio value.negative (binary64.magnitude value.code * unit) unit = some value := by
  have same := round_magnitude binary64 value.code positive
  rw [ofRatio, dif_pos (by rw [same]; exact value.finite)]
  simp only [same]

/-- Every finite single is a double. -/
theorem exact_single (code : Nat) : binary64.Exact (binary32.magnitude code * smallestSingle) :=
  exact_mul_pow (by decide) (exact_magnitude binary32 code) singleBits

theorem round_single_lt {code : Nat} (finite : code < binary32.codes) :
    binary64.round (binary32.magnitude code * smallestSingle) 1 < binary64.codes := by
  have below : binary32.magnitude code * smallestSingle < 2 ^ (binary64.fraction + 1 + 1150) := by
    rw [single_bits]
    exact mul_two_pow_lt (magnitude_lt binary32 finite) singleBits
  have small := round_lt Nat.one_pos (exact_single code) below
  rw [Nat.mul_one] at small
  exact small.trans_le (Nat.mul_le_mul_right _ (by decide))

/-- What a single was read as is packed as that single. -/
theorem pack_unpack {word : Nat} {value : Double} (small : word < 2 ^ 32)
    (read : unpack word = some value) : pack value = some word := by
  unfold unpack at read
  split at read
  · rename_i finite
    rw [ofRatio, dif_pos (round_single_lt finite)] at read
    cases read
    have back := magnitude_round Nat.one_pos (exact_single (word % 2 ^ 31))
    rw [Nat.mul_one] at back
    have code := round_magnitude binary32 (word % 2 ^ 31) smallestSingle_pos
    simp only [pack, back, code, if_pos finite, decide_eq_true_eq]
    congr 1
    split <;> omega
  · cases read

end Double

end Omnitensor
