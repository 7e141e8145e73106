/-
This file develops penalised least squares over an ordered field.

A loss adds up the squares of what is left of the targets of some samples, and the squares of the parameters
with their penalties. Away from a solution of the normal equations it grows by the same sum of squares taken
of the difference, so such a solution is least; and if the equations have no other, nothing else is.
-/

import Mathlib

namespace Omnitensor

namespace LeastSquares

variable {Scalar : Type*} [Field Scalar] {size : ℕ}

/-- A vector of regressors and a target. -/
abbrev Sample (Scalar : Type*) (size : ℕ) : Type _ := (Fin size → Scalar) × Scalar

/-- What some parameters make of a vector. -/
def value (parameters vector : Fin size → Scalar) : Scalar := ∑ index, parameters index * vector index

/-- What is left of the targets, squared, and the penalties. -/
def loss (samples : List (Sample Scalar size)) (penalty parameters : Fin size → Scalar) : Scalar :=
  (samples.map fun sample => (value parameters sample.1 - sample.2) ^ 2).sum +
    ∑ index, penalty index * parameters index ^ 2

/-- The matrix of the normal equations. -/
def normal (samples : List (Sample Scalar size)) (penalty : Fin size → Scalar) (row column : Fin size) :
    Scalar :=
  (samples.map fun sample => sample.1 row * sample.1 column).sum +
    if row = column then penalty row else 0

/-- The right side of the normal equations. -/
def moment (samples : List (Sample Scalar size)) (row : Fin size) : Scalar :=
  (samples.map fun sample => sample.1 row * sample.2).sum

/-- The sum of squares of a difference. -/
def energy (samples : List (Sample Scalar size)) (penalty difference : Fin size → Scalar) : Scalar :=
  (samples.map fun sample => value difference sample.1 ^ 2).sum +
    ∑ index, penalty index * difference index ^ 2

variable {samples : List (Sample Scalar size)} {penalty parameters difference : Fin size → Scalar}

theorem value_add (vector : Fin size → Scalar) : value (parameters + difference) vector =
    value parameters vector + value difference vector := by
  rw [value, value, value, ← Finset.sum_add_distrib]
  exact Finset.sum_congr rfl fun index _ => add_mul _ _ _

/-- The normal matrix at a difference. -/
theorem sum_normal (row : Fin size) : ∑ column, normal samples penalty row column * difference column =
    (samples.map fun sample => sample.1 row * value difference sample.1).sum +
      penalty row * difference row := by
  have diagonal : ∑ column, (if row = column then penalty row else 0) * difference column =
      penalty row * difference row := by
    calc ∑ column, (if row = column then penalty row else 0) * difference column
        = ∑ column, if row = column then penalty row * difference column else 0 :=
          Finset.sum_congr rfl fun column _ => by rw [ite_mul, zero_mul]
      _ = penalty row * difference row := by rw [Finset.sum_ite_eq, if_pos (Finset.mem_univ row)]
  have products : ∑ column, (samples.map fun sample => sample.1 row * sample.1 column).sum *
      difference column =
        (samples.map fun sample => sample.1 row * value difference sample.1).sum := by
    induction samples with
    | nil => simp
    | cons sample samples inductionHypothesis =>
      simp only [List.map_cons, List.sum_cons, add_mul, Finset.sum_add_distrib, inductionHypothesis]
      refine congrArg₂ _ ?_ rfl
      rw [value, Finset.mul_sum]
      exact Finset.sum_congr rfl fun column _ => by ring
  simp only [normal, add_mul, Finset.sum_add_distrib, products, diagonal]

/-- The part of a loss that is linear in a difference. -/
theorem sum_residuals : (samples.map fun sample =>
      value difference sample.1 * (value parameters sample.1 - sample.2)).sum =
    ∑ row, difference row * ((samples.map fun sample => sample.1 row * value parameters sample.1).sum -
      moment samples row) := by
  induction samples with
  | nil => simp [moment]
  | cons sample samples inductionHypothesis =>
    rw [List.map_cons, List.sum_cons, inductionHypothesis, value, Finset.sum_mul,
      ← Finset.sum_add_distrib]
    refine Finset.sum_congr rfl fun row _ => ?_
    simp only [moment, List.map_cons, List.sum_cons]
    ring

/-- A loss away from some parameters. -/
theorem loss_add : loss samples penalty (parameters + difference) = loss samples penalty parameters +
    2 * ∑ row, difference row * (∑ column, normal samples penalty row column * parameters column -
      moment samples row) + energy samples penalty difference := by
  have squares : (samples.map fun sample => (value (parameters + difference) sample.1 - sample.2) ^ 2).sum =
      (samples.map fun sample => (value parameters sample.1 - sample.2) ^ 2).sum +
        2 * (samples.map fun sample =>
          value difference sample.1 * (value parameters sample.1 - sample.2)).sum +
        (samples.map fun sample => value difference sample.1 ^ 2).sum := by
    induction samples with
    | nil => simp
    | cons sample samples inductionHypothesis =>
      simp only [List.map_cons, List.sum_cons]
      rw [inductionHypothesis, value_add]
      ring
  have penalties : ∑ index, penalty index * (parameters + difference) index ^ 2 =
      ∑ index, penalty index * parameters index ^ 2 +
        2 * ∑ index, difference index * (penalty index * parameters index) +
        ∑ index, penalty index * difference index ^ 2 := by
    rw [Finset.mul_sum, ← Finset.sum_add_distrib, ← Finset.sum_add_distrib]
    exact Finset.sum_congr rfl fun index _ => by
      rw [Pi.add_apply]
      ring
  have linear : ∑ row, difference row * (∑ column, normal samples penalty row column * parameters column -
      moment samples row) =
        (samples.map fun sample =>
          value difference sample.1 * (value parameters sample.1 - sample.2)).sum +
        ∑ index, difference index * (penalty index * parameters index) := by
    rw [sum_residuals, ← Finset.sum_add_distrib]
    exact Finset.sum_congr rfl fun row _ => by
      rw [sum_normal]
      ring
  rw [loss, squares, penalties, linear, loss, energy]
  ring

/-! ### Least losses -/

variable [LinearOrder Scalar] [IsStrictOrderedRing Scalar]

theorem sum_nonneg_of_squares {numbers : List (Sample Scalar size)} {square : Sample Scalar size → Scalar}
    (nonneg : ∀ sample, 0 ≤ square sample) : 0 ≤ (numbers.map square).sum :=
  List.sum_nonneg fun number member => by
    obtain ⟨sample, _, rfl⟩ := List.mem_map.mp member
    exact nonneg sample

theorem energy_nonneg (nonneg : ∀ index, 0 ≤ penalty index) :
    0 ≤ energy samples penalty difference :=
  add_nonneg (sum_nonneg_of_squares fun _ => sq_nonneg _)
    (Finset.sum_nonneg fun index _ => mul_nonneg (nonneg index) (sq_nonneg _))

/-- A difference without energy solves the normal equations without a right side. -/
theorem normal_of_energy_eq_zero (nonneg : ∀ index, 0 ≤ penalty index)
    (zero : energy samples penalty difference = 0) (row : Fin size) :
    ∑ column, normal samples penalty row column * difference column = 0 := by
  have samplesNonneg : 0 ≤ (samples.map fun sample => value difference sample.1 ^ 2).sum :=
    sum_nonneg_of_squares fun _ => sq_nonneg _
  have penaltyNonneg : 0 ≤ ∑ index, penalty index * difference index ^ 2 :=
    Finset.sum_nonneg fun index _ => mul_nonneg (nonneg index) (sq_nonneg _)
  obtain ⟨samplesZero, penaltyZero⟩ := (add_eq_zero_iff_of_nonneg samplesNonneg penaltyNonneg).mp zero
  have penalised : penalty row * difference row = 0 := by
    have each := (Finset.sum_eq_zero_iff_of_nonneg fun index _ =>
      mul_nonneg (nonneg index) (sq_nonneg (difference index))).mp penaltyZero row (Finset.mem_univ row)
    rcases mul_eq_zero.mp each with none | none
    · rw [none, zero_mul]
    · rw [pow_eq_zero_iff two_ne_zero |>.mp none, mul_zero]
  have unseen : ∀ sample ∈ samples, value difference sample.1 = 0 := by
    intro sample member
    have squares : ∀ number ∈ samples.map fun sample => value difference sample.1 ^ 2, 0 ≤ number := by
      intro number among
      obtain ⟨other, _, rfl⟩ := List.mem_map.mp among
      exact sq_nonneg _
    have none := List.all_zero_of_le_zero_le_of_sum_eq_zero squares samplesZero
      (List.mem_map_of_mem member)
    exact (pow_eq_zero_iff two_ne_zero).mp none
  rw [sum_normal, penalised, add_zero]
  refine List.sum_eq_zero fun number member => ?_
  obtain ⟨sample, among, rfl⟩ := List.mem_map.mp member
  rw [unseen sample among, mul_zero]

/-- The only solution of the normal equations is the only parameters of least loss. -/
theorem least_of_normal (nonneg : ∀ index, 0 ≤ penalty index)
    (only : ∀ other : Fin size → Scalar,
      (∀ row, ∑ column, normal samples penalty row column * other column = moment samples row) ↔
        other = parameters) (other : Fin size → Scalar) :
    loss samples penalty parameters ≤ loss samples penalty other ∧
      (loss samples penalty other ≤ loss samples penalty parameters → other = parameters) := by
  have solves := (only parameters).mpr rfl
  have away : loss samples penalty other =
      loss samples penalty parameters + energy samples penalty (other - parameters) := by
    calc loss samples penalty other
        = loss samples penalty (parameters + (other - parameters)) := by rw [add_sub_cancel]
      _ = _ := by
        rw [loss_add]
        simp only [solves, sub_self, mul_zero, Finset.sum_const_zero, add_zero]
  have positive := @energy_nonneg _ _ _ samples penalty (other - parameters) _ _ nonneg
  refine ⟨by rw [away]; exact le_add_of_nonneg_right positive, fun less => ?_⟩
  rw [away, add_le_iff_nonpos_right] at less
  have flat := normal_of_energy_eq_zero nonneg (le_antisymm less positive)
  refine (only other).mp fun row => ?_
  have difference := flat row
  simp only [Pi.sub_apply, mul_sub, Finset.sum_sub_distrib, solves] at difference
  exact sub_eq_zero.mp difference

end LeastSquares

end Omnitensor
