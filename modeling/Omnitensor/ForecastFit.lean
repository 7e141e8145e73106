/-
This file proves that a fit solves the problem it states, and sees nothing of what is held out.

Each turn of the elimination keeps the solutions of the system and makes one more column that of the
identity, so a result is the only solution of the normal equations, and therefore the only parameters of
least penalised loss. A fit is refused at a column whose remaining entries are all too small.
-/

import Omnitensor.Forecasting
import Omnitensor.LeastSquares

namespace Omnitensor

namespace Forecasting

open RowOperations

variable {size : ℕ} {augmented eliminated : Augmented ℚ size} {column : Fin size}

/-! ### Elimination -/

theorem pivotRow_spec (augmented : Augmented ℚ size) (column : Fin size) :
    column ≤ pivotRow augmented column ∧ ∀ row, column ≤ row →
      |augmented row column.castSucc| ≤ |augmented (pivotRow augmented column) column.castSucc| := by
  obtain ⟨member, greatest⟩ := foldl_max_spec (fun row => |augmented row column.castSucc|)
    ((List.finRange size).filter fun row => column ≤ row) column
  constructor
  · rcases List.mem_cons.mp member with same | member
    · exact same.ge
    · exact of_decide_eq_true (List.mem_filter.mp member).2
  · intro row after
    exact greatest row (List.mem_cons_of_mem _
      (List.mem_filter.mpr ⟨List.mem_finRange row, decide_eq_true after⟩))

theorem clearRow_apply (column row other : Fin size) :
    clearRow column augmented row other = if other = row ∧ row ≠ column then
      fun index => augmented row index - augmented row column.castSucc * augmented column index
    else augmented other := by
  rw [clearRow]
  by_cases same : row = column
  · rw [if_pos same, if_neg fun both => both.2 same]
  rw [if_neg same]
  by_cases zero : augmented row column.castSucc = 0
  · rw [if_pos zero]
    by_cases here : other = row
    · subst here
      rw [if_pos ⟨rfl, same⟩, zero]
      funext index
      rw [zero_mul, sub_zero]
    · rw [if_neg fun both => here both.1]
  · rw [if_neg zero, Function.update_apply]
    exact if_congr (iff_self_and.mpr fun _ => same) rfl rfl

/-- Clearing rows one after another subtracts the row of the column from each as it was. -/
theorem foldl_clearRow {rows : List (Fin size)} (distinct : rows.Nodup) (column other : Fin size) :
    rows.foldl (clearRow column) augmented other = if other ∈ rows ∧ other ≠ column then
      fun index => augmented other index - augmented other column.castSucc * augmented column index
    else augmented other := by
  induction rows generalizing augmented with
  | nil => rw [List.foldl_nil, if_neg fun both => List.not_mem_nil both.1]
  | cons row rows inductionHypothesis =>
    obtain ⟨fresh, distinct⟩ := List.nodup_cons.mp distinct
    have pivot : clearRow column augmented row column = augmented column := by
      rw [clearRow_apply, if_neg fun both => both.2 both.1.symm]
    rw [List.foldl_cons, inductionHypothesis distinct, pivot]
    by_cases here : other = row
    · subst here
      rw [if_neg fun both => fresh both.1, clearRow_apply]
      by_cases same : other = column
      · rw [if_neg fun both => both.2 same, if_neg fun both => both.2 same]
      · rw [if_pos ⟨rfl, same⟩, if_pos ⟨List.mem_cons_self, same⟩]
    · have untouched : clearRow column augmented row other = augmented other := by
        rw [clearRow_apply, if_neg fun both => here both.1]
      rw [untouched]
      exact if_congr (by rw [List.mem_cons, or_iff_right here]) rfl rfl

theorem foldl_clearRow_eq_cleared (column : Fin size) :
    (List.finRange size).foldl (clearRow column) augmented =
      cleared column (fun row => augmented row column.castSucc) augmented := by
  funext other
  rw [foldl_clearRow (List.nodup_finRange size), cleared]
  by_cases same : other = column
  · rw [if_neg fun both => both.2 same, if_pos same, same]
  · rw [if_pos ⟨List.mem_finRange other, same⟩, if_neg same]

/-- The scaled rows of a turn. -/
def scaled (augmented : Augmented ℚ size) (column : Fin size) : Augmented ℚ size :=
  let exchanged := exchangeRows column (pivotRow augmented column) augmented
  Function.update exchanged column fun index => exchanged column index / exchanged column column.castSucc

theorem exchangeRows_apply (first second row : Fin size) : exchangeRows first second augmented row =
    if row = second then augmented first else if row = first then augmented second
    else augmented row := by
  rw [exchangeRows, Function.update_apply, Function.update_apply]

/-- A turn is refused at a column whose remaining entries are all too small. -/
theorem eliminate_cases (augmented : Augmented ℚ size) (column : Fin size) :
    (eliminate augmented column = .error degenerate ∧
        ∀ row, column ≤ row → |augmented row column.castSucc| < leastPivot) ∨
      (eliminate augmented column = .ok
          (cleared column (fun row => scaled augmented column row column.castSucc)
            (scaled augmented column)) ∧
        augmented (pivotRow augmented column) column.castSucc ≠ 0) := by
  obtain ⟨_, greatest⟩ := pivotRow_spec augmented column
  rw [eliminate]
  by_cases small : |augmented (pivotRow augmented column) column.castSucc| < leastPivot
  · exact .inl ⟨if_pos small, fun row after => (greatest row after).trans_lt small⟩
  · refine .inr ⟨?_, fun zero => small ?_⟩
    · dsimp only
      rw [if_neg small, foldl_clearRow_eq_cleared]
      rfl
    · rw [zero, abs_zero, leastPivot]
      norm_num

theorem exchanged_pivot : exchangeRows column (pivotRow augmented column) augmented column =
    augmented (pivotRow augmented column) := by
  rw [exchangeRows_apply]
  by_cases same : column = pivotRow augmented column
  · rw [if_pos same, ← same]
  · rw [if_neg same, if_pos rfl]

/-- A turn keeps the solutions. -/
theorem solves_eliminate (eliminates : eliminate augmented column = .ok eliminated)
    (point : Fin size → ℚ) : Solves eliminated point ↔ Solves augmented point := by
  rcases eliminate_cases augmented column with ⟨raises, _⟩ | ⟨returns, nonzero⟩
  · rw [raises] at eliminates
    cases eliminates
  · rw [returns] at eliminates
    cases eliminates
    rw [solves_cleared, scaled, solves_scale (by rwa [exchanged_pivot])]
    exact solves_swap column _

/-- A turn makes its column that of the identity, and leaves the columns before it. -/
theorem reduced_eliminate {columns : List (Fin size)} (before : ∀ other ∈ columns, other < column)
    (reduced : Reduced columns augmented) (eliminates : eliminate augmented column = .ok eliminated) :
    Reduced (columns ++ [column]) eliminated := by
  rcases eliminate_cases augmented column with ⟨raises, _⟩ | ⟨returns, nonzero⟩
  · rw [raises] at eliminates
    cases eliminates
  · rw [returns] at eliminates
    cases eliminates
    obtain ⟨after, _⟩ := pivotRow_spec augmented column
    have one : scaled augmented column column column.castSucc = 1 := by
      rw [scaled, Function.update_self, exchanged_pivot]
      exact div_self nonzero
    -- The rows that are exchanged are behind the reduced columns, where both are zero.
    have exchanged {other : Fin size} (member : other ∈ columns) (row : Fin size) :
        exchangeRows column (pivotRow augmented column) augmented row other.castSucc =
          if row = other then 1 else 0 := by
      have first : column ≠ other := (before other member).ne'
      have second : pivotRow augmented column ≠ other := ((before other member).trans_le after).ne'
      rw [exchangeRows_apply]
      by_cases here : row = pivotRow augmented column
      · rw [if_pos here, reduced other member, if_neg first, here, if_neg second]
      · rw [if_neg here]
        by_cases there : row = column
        · rw [if_pos there, reduced other member, if_neg second, there, if_neg first]
        · rw [if_neg there, reduced other member]
    have kept {other : Fin size} (member : other ∈ columns) (row : Fin size) :
        scaled augmented column row other.castSucc = if row = other then 1 else 0 := by
      have first : column ≠ other := (before other member).ne'
      rw [scaled]
      by_cases here : row = column
      · rw [here, Function.update_self, exchanged member, if_neg first, zero_div]
      · rw [Function.update_of_ne here, exchanged member]
    intro other member row
    rw [cleared]
    rcases List.mem_append.mp member with member | member
    · have first : column ≠ other := (before other member).ne'
      by_cases here : row = column
      · rw [if_pos here, kept member, here]
      · rw [if_neg here, kept member, kept member, if_neg first, mul_zero, sub_zero]
    · rw [List.mem_singleton.mp member]
      by_cases here : row = column
      · rw [if_pos here, if_pos here, one]
      · rw [if_neg here, if_neg here, one, mul_one, sub_self]

/-- The columns that are turned keep the solutions, and become those of the identity. -/
theorem foldlM_eliminate {processed columns : List (Fin size)}
    (ordered : (processed ++ columns).Pairwise (· < ·)) (reduced : Reduced processed augmented)
    (runs : columns.foldlM eliminate augmented = .ok eliminated) :
    (∀ point, Solves eliminated point ↔ Solves augmented point) ∧
      Reduced (processed ++ columns) eliminated := by
  induction columns generalizing processed augmented with
  | nil =>
    cases runs
    rw [List.append_nil]
    exact ⟨fun _ => Iff.rfl, reduced⟩
  | cons column columns inductionHypothesis =>
    rw [List.foldlM_cons] at runs
    obtain ⟨next, eliminates, rest⟩ := bind_eq_ok.mp runs
    have before : ∀ other ∈ processed, other < column := fun other member =>
      (List.pairwise_append.mp ordered).2.2 other member column List.mem_cons_self
    have turned := reduced_eliminate before reduced eliminates
    rw [← List.singleton_append, ← List.append_assoc] at ordered
    obtain ⟨same, all⟩ := inductionHypothesis ordered turned rest
    rw [List.append_assoc, List.singleton_append] at all
    exact ⟨fun point => (same point).trans (solves_eliminate eliminates point), all⟩

/-- An elimination is refused at a column all of whose remaining entries are too small. -/
theorem foldlM_eliminate_error {columns : List (Fin size)} {failure : FitError}
    (raises : columns.foldlM eliminate augmented = .error failure) :
    failure = degenerate ∧ ∃ before column after remaining, columns = before ++ column :: after ∧
      before.foldlM eliminate augmented = .ok remaining ∧
      ∀ row, column ≤ row → |remaining row column.castSucc| < leastPivot := by
  induction columns generalizing augmented with
  | nil => cases raises
  | cons column columns inductionHypothesis =>
    rw [List.foldlM_cons] at raises
    rcases eliminate_cases augmented column with ⟨refuses, small⟩ | ⟨returns, _⟩
    · rw [refuses] at raises
      cases raises
      exact ⟨rfl, [], column, columns, augmented, rfl, rfl, small⟩
    · rw [returns, ok_bind] at raises
      obtain ⟨same, before, other, after, remaining, split, runs, small⟩ := inductionHypothesis raises
      refine ⟨same, column :: before, other, after, remaining, ?_, ?_, small⟩
      · rw [split, List.cons_append]
      · rw [List.foldlM_cons, returns, ok_bind, runs]

variable {matrix : Fin size → Fin size → ℚ} {right solution : Fin size → ℚ}

theorem solves_augment (point : Fin size → ℚ) : Solves (augment matrix right) point ↔
    ∀ row, ∑ column, matrix row column * point column = right row := by
  refine forall_congr' fun row => ?_
  rw [RowOperations.residual, sub_eq_zero, augment]
  simp only [Fin.snoc_castSucc, Fin.snoc_last]

/-- A system is solved by its only solution. -/
theorem gaussJordan_ok (solves : gaussJordan matrix right = .ok solution) (point : Fin size → ℚ) :
    (∀ row, ∑ column, matrix row column * point column = right row) ↔ point = solution := by
  obtain ⟨eliminated, runs, last⟩ := bind_eq_ok.mp solves
  cases last
  obtain ⟨same, reduced⟩ := @foldlM_eliminate _ _ _ [] _ (List.pairwise_lt_finRange size)
    (fun _ => nofun) runs
  rw [← solves_augment, ← same]
  exact solves_iff_of_reduced List.mem_finRange reduced

/-- A system that is refused has a turn before which the remaining entries of the column are too small. -/
theorem gaussJordan_error {failure : FitError} (raises : gaussJordan matrix right = .error failure) :
    failure = degenerate ∧ ∃ before column after remaining,
      List.finRange size = before ++ column :: after ∧
      before.foldlM eliminate (augment matrix right) = .ok remaining ∧
      (∀ point, Solves remaining point ↔
        ∀ row, ∑ column, matrix row column * point column = right row) ∧
      ∀ row, column ≤ row → |remaining row column.castSucc| < leastPivot := by
  rw [gaussJordan] at raises
  cases runs : (List.finRange size).foldlM eliminate (augment matrix right) with
  | ok eliminated =>
    rw [runs] at raises
    cases raises
  | error other =>
    rw [runs] at raises
    cases raises
    obtain ⟨same, before, column, after, remaining, split, runs, small⟩ := foldlM_eliminate_error runs
    have ordered : ([] ++ before).Pairwise (· < ·) := by
      have all := List.pairwise_lt_finRange size
      rw [split] at all
      exact (List.pairwise_append.mp all).1
    obtain ⟨solutions, _⟩ := foldlM_eliminate ordered (fun _ => nofun) runs
    exact ⟨same, before, column, after, remaining, split, runs,
      fun point => (solutions point).trans (solves_augment point), small⟩

/-! ### Normal equations -/

/-- The products of an entry are added to its row of the triangle. -/
theorem foldl_accumulate (row normalRow : Fin size → ℚ) (entry : ℚ) (index column : Fin size) :
    ((List.finRange size).filter fun column => index ≤ column).foldl (fun normalRow column =>
        Function.update normalRow column (normalRow column + entry * row column)) normalRow column =
      normalRow column + if index ≤ column then entry * row column else 0 := by
  rw [foldl_update_self (fun column value => value + entry * row column)
    ((List.nodup_finRange size).filter _)]
  by_cases after : index ≤ column
  · rw [if_pos after, if_pos]
    exact List.mem_filter.mpr ⟨List.mem_finRange column, decide_eq_true after⟩
  · rw [if_neg after, if_neg, add_zero]
    exact fun member => after (of_decide_eq_true (List.mem_filter.mp member).2)

theorem accumulateEntry_eq (row : Fin size → ℚ) (target : ℚ) (equations : NormalEquations size)
    (index : Fin size) : accumulateEntry row target equations index =
      ⟨fun first second => equations.normal first second +
          if first = index ∧ first ≤ second then row first * row second else 0,
        fun first => equations.right first + if first = index then row first * target else 0⟩ := by
  rw [accumulateEntry]
  by_cases zero : row index = 0
  · rw [if_pos zero]
    obtain ⟨normal, right⟩ := equations
    congr 1
    · funext first second
      split_ifs with both
      · rw [both.1, zero, zero_mul, add_zero]
      · rw [add_zero]
    · funext first
      split_ifs with here
      · rw [here, zero, zero_mul, add_zero]
      · rw [add_zero]
  · rw [if_neg zero]
    congr 1
    · funext first second
      by_cases here : first = index
      · subst here
        rw [Function.update_self, foldl_accumulate]
        exact congrArg₂ _ rfl (if_congr (by rw [and_iff_right rfl]) rfl rfl)
      · rw [Function.update_of_ne here, if_neg fun both => here both.1, add_zero]
    · funext first
      by_cases here : first = index
      · subst here
        rw [Function.update_self, if_pos rfl]
      · rw [Function.update_of_ne here, if_neg here, add_zero]

/-- Entries one after another add their products, once each. -/
theorem foldl_accumulateEntry {indices : List (Fin size)} (distinct : indices.Nodup)
    (row : Fin size → ℚ) (target : ℚ) (equations : NormalEquations size) :
    indices.foldl (accumulateEntry row target) equations =
      ⟨fun first second => equations.normal first second +
          if first ∈ indices ∧ first ≤ second then row first * row second else 0,
        fun first => equations.right first + if first ∈ indices then row first * target else 0⟩ := by
  induction indices generalizing equations with
  | nil => simp
  | cons index indices inductionHypothesis =>
    obtain ⟨fresh, distinct⟩ := List.nodup_cons.mp distinct
    rw [List.foldl_cons, inductionHypothesis distinct, accumulateEntry_eq]
    congr 1
    · funext first second
      dsimp only
      by_cases here : first = index
      · subst here
        simp [fresh]
      · simp [here]
    · funext first
      dsimp only
      by_cases here : first = index
      · subst here
        simp [fresh]
      · simp [here]

/-- A sample adds its products to the triangle. -/
theorem accumulate_eq (equations : NormalEquations size) (sample : (Fin size → ℚ) × ℚ) :
    accumulate equations sample =
      ⟨fun first second => equations.normal first second +
          if first ≤ second then sample.1 first * sample.1 second else 0,
        fun first => equations.right first + sample.1 first * sample.2⟩ := by
  rw [accumulate, foldl_accumulateEntry (List.nodup_finRange size)]
  simp only [List.mem_finRange, true_and, if_true]

theorem foldl_accumulate_samples (samples : List ((Fin size → ℚ) × ℚ))
    (equations : NormalEquations size) : samples.foldl accumulate equations =
      ⟨fun first second => equations.normal first second +
          if first ≤ second then (samples.map fun sample => sample.1 first * sample.1 second).sum else 0,
        fun first => equations.right first +
          (samples.map fun sample => sample.1 first * sample.2).sum⟩ := by
  induction samples generalizing equations with
  | nil => simp
  | cons sample samples inductionHypothesis =>
    rw [List.foldl_cons, inductionHypothesis, accumulate_eq]
    congr 1
    · funext first second
      simp only [List.map_cons, List.sum_cons]
      split_ifs
      · rw [add_assoc]
      · rw [add_zero, add_zero]
    · funext first
      rw [List.map_cons, List.sum_cons, add_assoc]

theorem mem_upperPlaces {place : Fin size × Fin size} :
    place ∈ upperPlaces size ↔ place.1 < place.2 := by
  obtain ⟨row, column⟩ := place
  simp [upperPlaces]

/-- Places over the diagonal are mirrored one after another, and none of them changes. -/
theorem foldl_mirrorEntry {places : List (Fin size × Fin size)}
    (upper : ∀ place ∈ places, place.1 < place.2) (normal : Fin size → Fin size → ℚ)
    (row column : Fin size) : places.foldl mirrorEntry normal row column =
      if (column, row) ∈ places then normal column row else normal row column := by
  induction places generalizing normal with
  | nil => simp
  | cons place places inductionHypothesis =>
    obtain ⟨first, others⟩ := List.forall_mem_cons.mp upper
    have entry (row column : Fin size) : mirrorEntry normal place row column =
        if row = place.2 ∧ column = place.1 then normal place.1 place.2 else normal row column := by
      rw [mirrorEntry]
      by_cases here : row = place.2
      · subst here
        rw [Function.update_self, Function.update_apply]
        exact if_congr (by rw [and_iff_right rfl]) rfl rfl
      · rw [Function.update_of_ne here, if_neg fun both => here both.1]
    rw [List.foldl_cons, inductionHypothesis others, entry, entry]
    by_cases later : (column, row) ∈ places
    · have below : column < row := others _ later
      rw [if_pos later, if_pos (List.mem_cons_of_mem _ later), if_neg]
      rintro ⟨atColumn, atRow⟩
      rw [← atColumn, ← atRow] at first
      exact below.asymm first
    · rw [if_neg later]
      by_cases here : row = place.2 ∧ column = place.1
      · rw [if_pos here, if_pos (List.mem_cons.mpr (.inl (Prod.ext here.2 here.1))), here.1, here.2]
      · rw [if_neg here, if_neg]
        rintro member
        rcases List.mem_cons.mp member with same | member
        · exact here ⟨congrArg Prod.snd same, congrArg Prod.fst same⟩
        · exact later member

/-- The triangle is mirrored. -/
theorem mirror_apply (normal : Fin size → Fin size → ℚ) (row column : Fin size) :
    mirror normal row column = if column < row then normal column row else normal row column := by
  rw [mirror, foldl_mirrorEntry fun place member => mem_upperPlaces.mp member]
  exact if_congr mem_upperPlaces rfl rfl

theorem penalise_apply {width : ℕ} (ridge : ℚ) (normal : Fin (width + 1) → Fin (width + 1) → ℚ)
    (row column : Fin (width + 1)) : penalise ridge normal row column =
      normal row column + if row = column then (Fin.cons 0 (fun _ => ridge) : Fin (width + 1) → ℚ) row
        else 0 := by
  rw [penalise, foldl_update_self (fun index (values : Fin (width + 1) → ℚ) =>
    Function.update values index (values index + ridge)) ((List.nodup_finRange _).filter _)]
  cases row using Fin.cases with
  | zero =>
    have unpenalised : (0 : Fin (width + 1)) ∉
        (List.finRange (width + 1)).filter fun index => 1 ≤ index.val := by simp
    rw [if_neg unpenalised, Fin.cons_zero, ite_self, add_zero]
  | succ row =>
    have penalised : row.succ ∈ (List.finRange (width + 1)).filter fun index => 1 ≤ index.val := by simp
    rw [if_pos penalised, Fin.cons_succ, Function.update_apply]
    by_cases diagonal : column = row.succ
    · rw [if_pos diagonal, if_pos diagonal.symm, diagonal]
    · rw [if_neg diagonal, if_neg (Ne.symm diagonal), add_zero]

/-! ### Fits -/

variable {width : ℕ}

/-- The samples of a fit: rows with a constant, and their targets. -/
def samplesOf (inputs : List (Fin width → ℚ)) (targets : List ℚ) :
    List (LeastSquares.Sample ℚ (width + 1)) :=
  (inputs.map withConstant).zip targets

/-- The penalty of the parameters: none for the intercept. -/
def penaltyOf (width : ℕ) (ridge : ℚ) : Fin (width + 1) → ℚ := Fin.cons 0 fun _ => ridge

/-- The equations of a fit are the normal equations of its samples. -/
theorem normalEquations_eq (samples : List (LeastSquares.Sample ℚ (width + 1))) (ridge : ℚ) :
    penalise ridge (mirror (samples.foldl accumulate .zero).normal) =
        LeastSquares.normal samples (penaltyOf width ridge) ∧
      (samples.foldl accumulate .zero).right = LeastSquares.moment samples := by
  rw [foldl_accumulate_samples]
  constructor
  · funext row column
    rw [penalise_apply, mirror_apply, LeastSquares.normal, penaltyOf]
    refine congrArg₂ _ ?_ rfl
    simp only [NormalEquations.zero, zero_add]
    by_cases below : column < row
    · rw [if_pos below, if_pos below.le]
      simp only [mul_comm]
    · rw [if_neg below, if_pos (not_lt.mp below)]
  · funext row
    simp only [NormalEquations.zero, zero_add, LeastSquares.moment]

/-- The loss that a fit states: squares of the errors, and a penalty on the weights but not on the
intercept. -/
def statedLoss (inputs : List (Fin width → ℚ)) (targets : List ℚ) (ridge : ℚ)
    (weights : Fin width → ℚ) (intercept : ℚ) : ℚ :=
  ((inputs.zip targets).map fun sample =>
    (intercept + ∑ index, weights index * sample.1 index - sample.2) ^ 2).sum +
      ridge * ∑ index, weights index ^ 2

theorem loss_eq_statedLoss (inputs : List (Fin width → ℚ)) (targets : List ℚ) (ridge : ℚ)
    (weights : Fin width → ℚ) (intercept : ℚ) :
    LeastSquares.loss (samplesOf inputs targets) (penaltyOf width ridge) (Fin.cons intercept weights) =
      statedLoss inputs targets ridge weights intercept := by
  rw [LeastSquares.loss, statedLoss, samplesOf]
  refine congrArg₂ _ ?_ ?_
  · rw [List.zip_map_left, List.map_map]
    refine congrArg List.sum (List.map_congr_left fun sample _ => ?_)
    simp [LeastSquares.value, withConstant, Fin.sum_univ_succ]
  · simp [penaltyOf, Fin.sum_univ_succ, Finset.mul_sum]

/-- Weights and an intercept of least loss, and no others. -/
def OnlyLeast (inputs : List (Fin width → ℚ)) (targets : List ℚ) (ridge : ℚ)
    (weights : Fin width → ℚ) (intercept : ℚ) : Prop :=
  ∀ (otherWeights : Fin width → ℚ) (otherIntercept : ℚ),
    statedLoss inputs targets ridge weights intercept ≤
        statedLoss inputs targets ridge otherWeights otherIntercept ∧
      (statedLoss inputs targets ridge otherWeights otherIntercept ≤
          statedLoss inputs targets ridge weights intercept →
        otherWeights = weights ∧ otherIntercept = intercept)

/-- The elimination of a system met a column whose remaining entries are all under the least pivot. -/
def MetSmallColumn {size : ℕ} (matrix : Fin size → Fin size → ℚ) (right : Fin size → ℚ) : Prop :=
  ∃ before column after remaining, List.finRange size = before ++ column :: after ∧
    before.foldlM eliminate (augment matrix right) = .ok remaining ∧
    (∀ point, Solves remaining point ↔
      ∀ row, ∑ column, matrix row column * point column = right row) ∧
    ∀ row, column ≤ row → |remaining row column.castSucc| < leastPivot

theorem solve_eq {inputs : List (Fin width → ℚ)} {targets : List ℚ} {ridge : ℚ} (some : inputs ≠ [])
    (same : inputs.length = targets.length) : solve inputs targets ridge =
      (gaussJordan (LeastSquares.normal (samplesOf inputs targets) (penaltyOf width ridge))
        (LeastSquares.moment (samplesOf inputs targets))).map
          fun solution => (Fin.tail solution, solution 0) := by
  obtain ⟨normal, right⟩ := normalEquations_eq (samplesOf inputs targets) ridge
  rw [← normal, ← right]
  cases inputs with
  | nil => exact absurd rfl some
  | cons first others =>
    rw [solve, if_neg (not_not_intro same), samplesOf]
    dsimp only
    cases gaussJordan (penalise ridge (mirror ((((first :: others).map withConstant).zip targets).foldl
      accumulate .zero).normal)) ((((first :: others).map withConstant).zip targets).foldl
        accumulate .zero).right <;> rfl

/-- What is returned is the only least, and what is refused met a column of small entries. -/
theorem solve_cases {inputs : List (Fin width → ℚ)} {targets : List ℚ} {ridge : ℚ} (some : inputs ≠ [])
    (same : inputs.length = targets.length) (nonneg : 0 ≤ ridge) :
    (∃ weights intercept, solve inputs targets ridge = .ok (weights, intercept) ∧
        OnlyLeast inputs targets ridge weights intercept) ∨
      (solve inputs targets ridge = .error degenerate ∧
        MetSmallColumn (LeastSquares.normal (samplesOf inputs targets) (penaltyOf width ridge))
          (LeastSquares.moment (samplesOf inputs targets))) := by
  rw [solve_eq some same]
  cases solved : gaussJordan (LeastSquares.normal (samplesOf inputs targets) (penaltyOf width ridge))
      (LeastSquares.moment (samplesOf inputs targets)) with
  | error failure =>
    obtain ⟨rfl, met⟩ := gaussJordan_error solved
    exact .inr ⟨rfl, met⟩
  | ok solution =>
    refine .inl ⟨Fin.tail solution, solution 0, rfl, fun weights intercept => ?_⟩
    have penalties : ∀ index, 0 ≤ penaltyOf width ridge index := by
      intro index
      cases index using Fin.cases with
      | zero => exact le_rfl
      | succ index => exact nonneg
    obtain ⟨least, only⟩ := LeastSquares.least_of_normal penalties (gaussJordan_ok solved)
      (Fin.cons intercept weights)
    have parts : (Fin.cons (solution 0) (Fin.tail solution) : Fin (width + 1) → ℚ) = solution :=
      Fin.cons_self_tail solution
    rw [← loss_eq_statedLoss, ← loss_eq_statedLoss, parts]
    refine ⟨least, fun less => ?_⟩
    have equal := only less
    exact ⟨by rw [← equal, Fin.tail_cons], by rw [← equal, Fin.cons_zero]⟩

/-! ### What is held out -/

/-- A split of more than one row leaves rows on both sides. -/
theorem splitIndex_bounds {count : ℕ} (holdout : ℚ) (several : 1 < count) :
    1 ≤ splitIndex count holdout ∧ splitIndex count holdout < count := by
  rw [splitIndex]
  omega

/-- A call whose arguments pass every check. -/
structure ValidCall (inputs : List (List ℚ)) (targets : List ℚ) (featureNames : List String) (window : Int)
    (ridge holdout : ℚ) : Prop where
  shape : validateShape inputs targets featureNames window = .ok ()
  bounds : validateBounds ridge holdout = .ok ()

variable {inputs : List (List ℚ)} {targets : List ℚ} {featureNames : List String} {window : Int}
  {ridge holdout : ℚ}

theorem ValidCall.lengths (valid : ValidCall inputs targets featureNames window ridge holdout) :
    inputs.length = targets.length ∧ minTrainingRows ≤ inputs.length := by
  have shape := valid.shape
  rw [validateShape] at shape
  split_ifs at shape with _ _ different few
  exact ⟨not_not.mp different, not_lt.mp few⟩

/-- The weights and the intercept of a forecaster. -/
def coefficients (forecaster : LinearForecaster) : List ℚ × ℚ :=
  (forecaster.weights, forecaster.intercept)

/-- What is scored does not refuse a fit. -/
theorem score_ok {width : ℕ} {rows : List (List ℚ)} {targets : List ℚ} (some : targets ≠ [])
    (same : rows.length = targets.length) (weights : Fin width → ℚ) (intercept : ℚ) (featureCount : ℕ) :
    ∃ quality, score rows targets weights intercept featureCount = .ok quality := by
  rw [score, evaluateForecastPredictions, if_neg]
  · exact ⟨_, rfl⟩
  · simp [some, same]

/-- The coefficients of a valid call are solved from the rows before the split. -/
theorem coefficients_fitForecaster
    (valid : ValidCall inputs targets featureNames window ridge holdout) :
    (fitForecaster inputs targets featureNames window ridge holdout).map coefficients =
      (solve ((inputs.take (splitIndex inputs.length holdout)).map
          (vectorOf (featureNames.length * window.toNat)))
        (targets.take (splitIndex inputs.length holdout)) ridge).map
          fun solution => (List.ofFn solution.1, solution.2) := by
  obtain ⟨same, many⟩ := valid.lengths
  have several : 1 < inputs.length := lt_of_lt_of_le (by decide) many
  obtain ⟨_, before⟩ := splitIndex_bounds holdout several
  rw [fitForecaster, valid.shape, ok_bind, valid.bounds, ok_bind]
  dsimp only
  cases solve ((inputs.take (splitIndex inputs.length holdout)).map
      (vectorOf (featureNames.length * window.toNat)))
    (targets.take (splitIndex inputs.length holdout)) ridge with
  | error failure => rfl
  | ok solution =>
    obtain ⟨weights, intercept⟩ := solution
    have held : targets.drop (splitIndex inputs.length holdout) ≠ [] := by
      rw [Ne, List.drop_eq_nil_iff]
      omega
    have lengths : (inputs.drop (splitIndex inputs.length holdout)).length =
        (targets.drop (splitIndex inputs.length holdout)).length := by
      rw [List.length_drop, List.length_drop, same]
    obtain ⟨quality, scores⟩ := score_ok held lengths weights intercept featureNames.length
    rw [ok_bind]
    dsimp only
    rw [scores]
    rfl

/-- Both parts of a call have rows, and its coefficients do not depend on the part that is held out. -/
def IgnoresHeldOut (inputs : List (List ℚ)) (targets : List ℚ) (featureNames : List String) (window : Int)
    (ridge holdout : ℚ) : Prop :=
  let split := splitIndex inputs.length holdout
  inputs.take split ≠ [] ∧ inputs.drop split ≠ [] ∧
    ∀ otherInputs otherTargets, ValidCall otherInputs otherTargets featureNames window ridge holdout →
      otherInputs.length = inputs.length → otherInputs.take split = inputs.take split →
      otherTargets.take split = targets.take split →
        (fitForecaster otherInputs otherTargets featureNames window ridge holdout).map coefficients =
          (fitForecaster inputs targets featureNames window ridge holdout).map coefficients

theorem ValidCall.ignoresHeldOut (valid : ValidCall inputs targets featureNames window ridge holdout) :
    IgnoresHeldOut inputs targets featureNames window ridge holdout := by
  obtain ⟨_, many⟩ := valid.lengths
  have several : 1 < inputs.length := lt_of_lt_of_le (by decide) many
  obtain ⟨after, before⟩ := splitIndex_bounds holdout several
  refine ⟨?_, ?_, fun otherInputs otherTargets other length rows values => ?_⟩
  · rw [Ne, List.take_eq_nil_iff]
    rintro (none | none)
    · omega
    · rw [none] at several
      exact absurd several (by decide)
  · rw [Ne, List.drop_eq_nil_iff]
    omega
  · rw [coefficients_fitForecaster valid, coefficients_fitForecaster other, length, rows, values]

/-- A fit solves the problem it states, is refused only for a column of small entries, and sees nothing of
what is held out. What it returns is the only minimiser of the penalised squares, and other held-out
windows change no coefficient. -/
theorem forecaster_solves :
    (∀ (width : ℕ) (inputs : List (Fin width → ℚ)) (targets : List ℚ) (ridge : ℚ), inputs ≠ [] →
      inputs.length = targets.length → 0 ≤ ridge →
        (∃ weights intercept, solve inputs targets ridge = .ok (weights, intercept) ∧
            OnlyLeast inputs targets ridge weights intercept) ∨
          (solve inputs targets ridge = .error degenerate ∧
            MetSmallColumn (LeastSquares.normal (samplesOf inputs targets) (penaltyOf width ridge))
              (LeastSquares.moment (samplesOf inputs targets)))) ∧
    ∀ (inputs : List (List ℚ)) (targets : List ℚ) (featureNames : List String) (window : Int)
      (ridge holdout : ℚ), ValidCall inputs targets featureNames window ridge holdout →
        IgnoresHeldOut inputs targets featureNames window ridge holdout :=
  ⟨fun _ _ _ _ some same nonneg => solve_cases some same nonneg, fun _ _ _ _ _ _ valid => valid.ignoresHeldOut⟩

/-- Eight windows of one feature, each twice the feature and one more. -/
def lineInputs : List (List ℚ) := [[0], [1], [2], [3], [4], [5], [6], [7]]

def lineTargets : List ℚ := [1, 3, 5, 7, 9, 11, 13, 15]

def lineVectors : List (Fin 1 → ℚ) := lineInputs.map (vectorOf 1)

theorem forecaster_solves_line :
    (fitForecaster lineInputs lineTargets ["load"] 1 0 (1 / 4)).map coefficients = .ok ([2], 1) ∧
      (∃ weights intercept, solve lineVectors lineTargets 0 = .ok (weights, intercept) ∧
        OnlyLeast lineVectors lineTargets 0 weights intercept) ∧
      IgnoresHeldOut lineInputs lineTargets ["load"] 1 0 (1 / 4) := by
  refine ⟨by decide +kernel, ?_,
    forecaster_solves.2 _ _ _ _ _ _ ⟨by decide +kernel, by decide +kernel⟩⟩
  have returns : (solve lineVectors lineTargets 0).isOk = true := by decide +kernel
  rcases forecaster_solves.1 1 lineVectors lineTargets 0 (List.cons_ne_nil _ _) rfl le_rfl with
    solved | ⟨raises, _⟩
  · exact solved
  · rw [raises] at returns
    cases returns

end Forecasting

end Omnitensor
