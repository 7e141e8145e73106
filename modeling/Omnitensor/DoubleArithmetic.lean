/-
This file develops quotients and products of doubles, and their rounding to integers.

A quotient of integers is the double nearest to it, and a double is rounded to the integer nearest to
it, the even one of two. Neither step changes an order, so a bound that is an integer is kept.
-/

import Omnitensor.BinaryFloat

namespace Omnitensor

namespace FloatFormat

/-! ### Rounding keeps an order -/

theorem div_le_nearest (numerator denominator : Nat) :
    numerator / denominator ≤ nearest numerator denominator := by
  simp only [nearest]
  split
  · exact le_rfl
  · split
    · exact Nat.le_add_right _ _
    · exact Nat.le_succ _

theorem nearest_le_succ (numerator denominator : Nat) :
    nearest numerator denominator ≤ numerator / denominator + 1 := by
  simp only [nearest]
  split
  · exact Nat.le_succ _
  · split
    · exact Nat.add_le_add_left (Nat.le_of_lt_succ (Nat.mod_lt _ (by decide))) _
    · exact le_rfl

variable {first second numerator bound unit : Nat}

theorem nearest_mono (denominator : Nat) (le : first ≤ second) :
    nearest first denominator ≤ nearest second denominator := by
  rcases (Nat.div_le_div_right le : first / denominator ≤ second / denominator).lt_or_eq with
    less | same
  · calc nearest first denominator
        ≤ first / denominator + 1 := nearest_le_succ _ _
      _ ≤ second / denominator := less
      _ ≤ nearest second denominator := div_le_nearest _ _
  · -- With equal quotients the remainders are in the order of the numerators.
    have rests : first % denominator ≤ second % denominator := by
      have one := Nat.div_add_mod first denominator
      have two := Nat.div_add_mod second denominator
      rw [same] at one
      omega
    simp only [nearest, same]
    split <;> split <;> (try split) <;> (try split) <;> omega

/-- A quotient below a bound is rounded to the bound at most. -/
theorem nearest_le {denominator : Nat} (positive : 0 < denominator)
    (below : numerator < bound * denominator) : nearest numerator denominator ≤ bound :=
  (nearest_le_succ _ _).trans ((Nat.div_lt_iff_lt_mul positive).mpr below)

theorem scale_mono (format : FloatFormat) (le : first ≤ second) :
    format.scale first ≤ format.scale second := by
  refine Nat.sub_le_sub_right ?_ _
  rcases Nat.eq_zero_or_pos first with rfl | positive
  · simp
  · exact (Nat.le_log2 (by omega)).mpr ((Nat.log2_self_le (by omega)).trans le)

/-- Of two quotients the code of the smaller one comes first. -/
theorem round_mono (format : FloatFormat) (positive : 0 < unit) (le : first ≤ second) :
    format.round first unit ≤ format.round second unit := by
  have quotients : first / unit ≤ second / unit := Nat.div_le_div_right le
  unfold round
  rcases (format.scale_mono quotients).lt_or_eq with less | same
  · have lower : nearest first (unit * 2 ^ format.scale (first / unit)) ≤
        2 ^ (format.fraction + 1) := by
      refine nearest_le (Nat.mul_pos positive (Nat.two_pow_pos _)) ?_
      have below := format.lt_pow_scale (first / unit)
      rw [Nat.div_lt_iff_lt_mul positive, Nat.pow_add] at below
      exact below.trans_eq (by ring)
    have upper : 2 ^ format.fraction ≤ nearest second (unit * 2 ^ format.scale (second / unit)) := by
      refine le_trans ?_ (div_le_nearest _ _)
      rw [← Nat.div_div_eq_div_mul]
      exact le_leading (Nat.zero_lt_of_lt less)
    calc format.scale (first / unit) * 2 ^ format.fraction +
          nearest first (unit * 2 ^ format.scale (first / unit))
        ≤ format.scale (first / unit) * 2 ^ format.fraction + 2 ^ (format.fraction + 1) :=
          Nat.add_le_add_left lower _
      _ = (format.scale (first / unit) + 1) * 2 ^ format.fraction + 2 ^ format.fraction := by ring
      _ ≤ _ := Nat.add_le_add (Nat.mul_le_mul_right _ less) upper
  · simp only [same]
    exact Nat.add_le_add_left (nearest_mono _ le) _

/-- An exact magnitude that is not above a quotient is not above what the quotient is rounded to. -/
theorem le_magnitude_round (format : FloatFormat) (positive : 0 < unit) (fits : format.Exact bound)
    (above : bound * unit ≤ numerator) :
    bound ≤ format.magnitude (format.round numerator unit) := by
  by_contra less
  rw [not_le] at less
  have codes := format.round_mono Nat.one_pos (Nat.mul_le_mul_right 1 less.le)
  rw [round_magnitude format _ Nat.one_pos] at codes
  have same : format.round numerator unit = format.round (bound * unit) unit := by
    refine le_antisymm ?_ (format.round_mono positive above)
    rwa [round_exact positive fits, ← round_exact Nat.one_pos fits]
  rw [same, magnitude_round positive fits] at less
  exact less.false

end FloatFormat

namespace Double

open FloatFormat

/-! ### Quotients and products -/

/-- The double nearest to a quotient of integers, unless it is infinite. -/
def ofQuotient (numerator : Int) (denominator : Nat) : Option Double :=
  ofRatio (decide (numerator < 0)) (numerator.natAbs * one) denominator

/-- The magnitude of a double, counted in the smallest positive one. -/
def size (value : Double) : Nat := binary64.magnitude value.code

/-- The product with an integer that is a double. -/
def mulNat (value : Double) (factor : Nat) : Option Double :=
  ofRatio value.negative (value.size * factor) 1

/-- The quotient of two doubles, of which the second is not zero. -/
def div (first second : Double) : Option Double :=
  ofRatio (first.negative != second.negative) (first.size * one) second.size

/-- The integer nearest to a double, the even one of two. -/
def rounded (value : Double) : Int :=
  if value.negative then -(nearest value.size one : Int) else nearest value.size one

variable {numerator denominator bound : Nat} {value : Double}

theorem negative_of_ofRatio {negative : Bool}
    (found : ofRatio negative numerator denominator = some value) : value.negative = negative := by
  unfold ofRatio at found
  split at found
  · cases found
    rfl
  · cases found

theorem size_of_ofRatio {negative : Bool}
    (found : ofRatio negative numerator denominator = some value) :
    value.size = binary64.magnitude (binary64.round numerator denominator) := by
  unfold ofRatio at found
  split at found
  · cases found
    rfl
  · cases found

theorem rounded_nonneg (positive : value.negative = false) : 0 ≤ value.rounded := by
  rw [rounded, positive, if_neg Bool.false_ne_true]
  exact Int.natCast_nonneg _

/-- A whole multiple of one is exact while its bits fit. -/
theorem exact_mul_one (fits : binary64.Exact bound) : binary64.Exact (bound * one) :=
  exact_mul_pow le_rfl fits oneBits

/-- An integer that is not above a quotient is not above what the quotient is rounded to. -/
theorem le_rounded_of_ofQuotient {numerator : Int} (positive : 0 < denominator)
    (fits : binary64.Exact bound) (above : (bound * denominator : Nat) ≤ numerator)
    (found : ofQuotient numerator denominator = some value) : (bound : Int) ≤ value.rounded := by
  obtain ⟨count, rfl⟩ := Int.eq_ofNat_of_zero_le ((Int.natCast_nonneg _).trans above)
  have sign : value.negative = false :=
    (negative_of_ofRatio found).trans (decide_eq_false (Int.natCast_nonneg count).not_gt)
  have size : bound * one ≤ value.size := by
    rw [size_of_ofRatio found]
    refine le_magnitude_round binary64 positive (exact_mul_one fits) ?_
    calc bound * one * denominator
        = bound * denominator * one := by ring
      _ ≤ _ := Nat.mul_le_mul_right _ (Int.ofNat_le.mp above)
  rw [rounded, sign, if_neg Bool.false_ne_true]
  have rounds := nearest_mono one size
  rw [nearest_mul one_pos] at rounds
  exact Int.ofNat_le.mpr rounds

end Double

end Omnitensor
