/-
This file develops systems of linear equations as augmented rows, and what operations on rows keep of them.

A row holds the coefficients of an equation and, last, its right side. Exchanging two rows, dividing a row by
a number other than zero and subtracting multiples of a row from the others keep the solutions. A system
whose columns are those of the identity has one solution, which is its right side.
-/

import Mathlib

namespace Omnitensor

namespace RowOperations

/-! ### Loops that update their own index -/

/-- A loop that updates what it is at, once each. -/
theorem foldl_update_self {Index Value : Type*} [DecidableEq Index] (change : Index → Value → Value)
    {indices : List Index} (distinct : indices.Nodup) (state : Index → Value) (index : Index) :
    indices.foldl (fun state here => Function.update state here (change here (state here))) state index =
      if index ∈ indices then change index (state index) else state index := by
  induction indices generalizing state with
  | nil => simp
  | cons first indices inductionHypothesis =>
    obtain ⟨fresh, distinct⟩ := List.nodup_cons.mp distinct
    rw [List.foldl_cons, inductionHypothesis distinct]
    by_cases same : index = first
    · subst same
      simp [fresh]
    · simp [same]

/-- The first item of a list, or the item before it, that has the greatest key. -/
theorem foldl_max_spec {Item Key : Type*} [LinearOrder Key] (key : Item → Key) (items : List Item)
    (first : Item) :
    let best := items.foldl (fun best item => if key best < key item then item else best) first
    best ∈ first :: items ∧ ∀ item ∈ first :: items, key item ≤ key best := by
  induction items generalizing first with
  | nil => simp
  | cons item items inductionHypothesis =>
    rw [List.foldl_cons]
    obtain ⟨member, greatest⟩ := inductionHypothesis (if key first < key item then item else first)
    obtain ⟨chosen, others⟩ := List.forall_mem_cons.mp greatest
    dsimp only at member chosen others ⊢
    split_ifs at member chosen others ⊢ with less
    · exact ⟨List.mem_cons_of_mem _ member, List.forall_mem_cons.mpr
        ⟨less.le.trans chosen, List.forall_mem_cons.mpr ⟨chosen, others⟩⟩⟩
    · refine ⟨?_, List.forall_mem_cons.mpr ⟨chosen, List.forall_mem_cons.mpr
        ⟨(not_lt.mp less).trans chosen, others⟩⟩⟩
      rcases List.mem_cons.mp member with same | member
      · exact List.mem_cons.mpr (.inl same)
      · exact List.mem_cons_of_mem _ (List.mem_cons_of_mem _ member)

/-! ### Systems -/

variable {Scalar : Type*} [Field Scalar] {size : ℕ}

/-- The rows of a system: coefficients, and the right side last. -/
abbrev Augmented (Scalar : Type*) (size : ℕ) : Type _ := Fin size → Fin (size + 1) → Scalar

/-- What an equation leaves over at a point. -/
def residual (row : Fin (size + 1) → Scalar) (point : Fin size → Scalar) : Scalar :=
  ∑ column, row column.castSucc * point column - row (Fin.last size)

/-- A point solves every equation. -/
def Solves (rows : Augmented Scalar size) (point : Fin size → Scalar) : Prop :=
  ∀ index, residual (rows index) point = 0

variable {rows : Augmented Scalar size} {point : Fin size → Scalar}

theorem residual_div (row : Fin (size + 1) → Scalar) (scale : Scalar) :
    residual (fun column => row column / scale) point = residual row point / scale := by
  rw [residual, residual, sub_div, Finset.sum_div]
  exact congrArg₂ _ (Finset.sum_congr rfl fun column _ => div_mul_eq_mul_div _ _ _) rfl

theorem residual_sub_mul (row other : Fin (size + 1) → Scalar) (factor : Scalar) :
    residual (fun column => row column - factor * other column) point =
      residual row point - factor * residual other point := by
  have terms : ∑ column, (row (Fin.castSucc column) - factor * other column.castSucc) * point column =
      ∑ column, row (Fin.castSucc column) * point column -
        factor * ∑ column, other (Fin.castSucc column) * point column := by
    rw [Finset.mul_sum, ← Finset.sum_sub_distrib]
    exact Finset.sum_congr rfl fun column _ => by ring
  rw [residual, residual, residual, terms]
  ring

theorem solves_swap (first second : Fin size) :
    Solves (Function.update (Function.update rows first (rows second)) second (rows first)) point ↔
      Solves rows point := by
  have swapped : Function.update (Function.update rows first (rows second)) second (rows first) =
      rows ∘ Equiv.swap first second := by
    funext index
    by_cases atSecond : index = second
    · subst atSecond
      rw [Function.update_self, Function.comp_apply, Equiv.swap_apply_right]
    · rw [Function.update_of_ne atSecond]
      by_cases atFirst : index = first
      · subst atFirst
        rw [Function.update_self, Function.comp_apply, Equiv.swap_apply_left]
      · rw [Function.update_of_ne atFirst, Function.comp_apply,
          Equiv.swap_apply_of_ne_of_ne atFirst atSecond]
  rw [swapped]
  have moved := (Equiv.swap first second).forall_congr_right (q := fun index => residual (rows index) point = 0)
  exact moved

theorem solves_scale {scale : Scalar} (nonzero : scale ≠ 0) (index : Fin size) :
    Solves (Function.update rows index fun column => rows index column / scale) point ↔
      Solves rows point := by
  refine forall_congr' fun other => ?_
  by_cases same : other = index
  · subst same
    rw [Function.update_self, residual_div, div_eq_zero_iff, or_iff_left nonzero]
  · rw [Function.update_of_ne same]

/-- Subtract multiples of a row from the others. -/
def cleared (index : Fin size) (factor : Fin size → Scalar) (rows : Augmented Scalar size) :
    Augmented Scalar size := fun other =>
  if other = index then rows index else fun column => rows other column - factor other * rows index column

theorem solves_cleared (index : Fin size) (factor : Fin size → Scalar) :
    Solves (cleared index factor rows) point ↔ Solves rows point := by
  have pivot : residual (cleared index factor rows index) point = residual (rows index) point := by
    rw [cleared, if_pos rfl]
  have others {other : Fin size} (different : other ≠ index) :
      residual (cleared index factor rows other) point =
        residual (rows other) point - factor other * residual (rows index) point := by
    rw [cleared, if_neg different, residual_sub_mul]
  constructor
  · intro solves other
    have zero : residual (rows index) point = 0 := pivot ▸ solves index
    by_cases same : other = index
    · exact same ▸ zero
    · have cleared := others same ▸ solves other
      rwa [zero, mul_zero, sub_zero] at cleared
  · intro solves other
    by_cases same : other = index
    · rw [same, pivot]
      exact solves index
    · rw [others same, solves other, solves index, mul_zero, sub_zero]

/-! ### Reduced columns -/

/-- Some columns are those of the identity. -/
def Reduced (columns : List (Fin size)) (rows : Augmented Scalar size) : Prop :=
  ∀ column ∈ columns, ∀ index, rows index column.castSucc = if index = column then 1 else 0

/-- A system all of whose columns are reduced has its right side as its only solution. -/
theorem solves_iff_of_reduced {columns : List (Fin size)} (all : ∀ column, column ∈ columns)
    (reduced : Reduced columns rows) :
    Solves rows point ↔ point = fun index => rows index (Fin.last size) := by
  have value (index : Fin size) : residual (rows index) point = point index - rows index (Fin.last size) := by
    have terms : ∑ column, rows index (Fin.castSucc column) * point column = point index := by
      calc ∑ column, rows index (Fin.castSucc column) * point column
          = ∑ column, if index = column then point column else 0 :=
            Finset.sum_congr rfl fun column _ => by
              rw [reduced column (all column) index, ite_mul, one_mul, zero_mul]
        _ = point index := by rw [Finset.sum_ite_eq, if_pos (Finset.mem_univ index)]
    rw [residual, terms]
  rw [funext_iff]
  exact forall_congr' fun index => by rw [value, sub_eq_zero]

end RowOperations

end Omnitensor
