/-
This file models the fit of a forecaster, with every number an exact rational.

The rows of a training set are augmented with a constant and added up into the upper triangle of the normal
equations, entries that are zero being passed over; the triangle is mirrored, and every weight but the
intercept is penalised. The equations are solved column by column, with the greatest remaining entry of the
column as its pivot. A pivot that is too small refuses the fit. What is held out is scored and nothing more.
-/

import Omnitensor.Fallible
import Omnitensor.RowOperations

namespace Omnitensor

namespace Forecasting

open RowOperations (Augmented)

/-- A `ForecastError`, or another exception: an index that is out of range, or lists of different lengths. -/
inductive FitError where
  | forecast (code detail : String)
  | index
  | value
  deriving DecidableEq

/-! ### Elimination -/

/-- The refusal of features that depend on one another. -/
def degenerate : FitError :=
  .forecast "fit-degenerate" "the recorded features are collinear; the fit has no unique solution"

/-- The least pivot that is divided by. -/
def leastPivot : ℚ := 1 / 10 ^ 12

variable {size : ℕ}

/-- The rows from a column on, the first of which has the greatest entry in the column. -/
def pivotRow (augmented : Augmented ℚ size) (column : Fin size) : Fin size :=
  ((List.finRange size).filter fun row => column ≤ row).foldl (fun best row =>
    if |augmented best column.castSucc| < |augmented row column.castSucc| then row else best) column

/-- Subtract from a row what its entry in a column is of the row of the column. -/
def clearRow (column : Fin size) (augmented : Augmented ℚ size) (row : Fin size) : Augmented ℚ size :=
  if row = column then augmented
  else
    let factor := augmented row column.castSucc
    if factor = 0 then augmented
    else Function.update augmented row fun index =>
      augmented row index - factor * augmented column index

def exchangeRows (first second : Fin size) (augmented : Augmented ℚ size) : Augmented ℚ size :=
  Function.update (Function.update augmented first (augmented second)) second (augmented first)

/-- The turn of one column. -/
def eliminate (augmented : Augmented ℚ size) (column : Fin size) :
    Except FitError (Augmented ℚ size) :=
  let pivot := pivotRow augmented column
  if |augmented pivot column.castSucc| < leastPivot then .error degenerate
  else
    let exchanged := exchangeRows column pivot augmented
    let scale := exchanged column column.castSucc
    let scaled := Function.update exchanged column fun index => exchanged column index / scale
    .ok ((List.finRange size).foldl (clearRow column) scaled)

def augment (matrix : Fin size → Fin size → ℚ) (right : Fin size → ℚ) : Augmented ℚ size :=
  fun row => Fin.snoc (matrix row) (right row)

def gaussJordan (matrix : Fin size → Fin size → ℚ) (right : Fin size → ℚ) :
    Except FitError (Fin size → ℚ) := do
  let augmented ← (List.finRange size).foldlM eliminate (augment matrix right)
  return fun row => augmented row (Fin.last size)

/-! ### Normal equations -/

/-- The matrix and the right side of the equations so far. -/
structure NormalEquations (size : ℕ) where
  normal : Fin size → Fin size → ℚ
  right : Fin size → ℚ

def NormalEquations.zero : NormalEquations size := ⟨fun _ _ => 0, fun _ => 0⟩

/-- Add the products of one entry of a row, unless it is zero. -/
def accumulateEntry (row : Fin size → ℚ) (scaled : ℚ) (equations : NormalEquations size)
    (index : Fin size) : NormalEquations size :=
  let entry := row index
  if entry = 0 then equations
  else
    { normal := Function.update equations.normal index
        (((List.finRange size).filter fun column => index ≤ column).foldl (fun normalRow column =>
          Function.update normalRow column (normalRow column + entry * row column))
            (equations.normal index))
      right := Function.update equations.right index (equations.right index + entry * scaled) }

def accumulate (equations : NormalEquations size) (sample : (Fin size → ℚ) × ℚ) :
    NormalEquations size :=
  (List.finRange size).foldl (accumulateEntry sample.1 sample.2) equations

/-- The places over the diagonal, by rows. -/
def upperPlaces (size : ℕ) : List (Fin size × Fin size) :=
  (List.finRange size).flatMap fun row =>
    ((List.finRange size).filter fun column => row < column).map fun column => (row, column)

def mirrorEntry (normal : Fin size → Fin size → ℚ) (place : Fin size × Fin size) :
    Fin size → Fin size → ℚ :=
  Function.update normal place.2
    (Function.update (normal place.2) place.1 (normal place.1 place.2))

def mirror (normal : Fin size → Fin size → ℚ) : Fin size → Fin size → ℚ :=
  (upperPlaces size).foldl mirrorEntry normal

/-- Penalise every entry of the diagonal but the first. -/
def penalise {width : ℕ} (ridge : ℚ) (normal : Fin (width + 1) → Fin (width + 1) → ℚ) :
    Fin (width + 1) → Fin (width + 1) → ℚ :=
  ((List.finRange (width + 1)).filter fun index => 1 ≤ index.val).foldl (fun normal index =>
    Function.update normal index
      (Function.update (normal index) index (normal index index + ridge))) normal

/-- A row behind a constant, so that the intercept is solved for. -/
def withConstant {width : ℕ} (row : Fin width → ℚ) : Fin (width + 1) → ℚ := Fin.cons 1 row

/-- Ridge least squares through the normal equations, with an intercept. -/
def solve {width : ℕ} (inputs : List (Fin width → ℚ)) (targets : List ℚ) (ridge : ℚ) :
    Except FitError ((Fin width → ℚ) × ℚ) :=
  match inputs with
  | [] => .error .index
  | first :: others =>
    if (first :: others).length ≠ targets.length then .error .value
    else do
      let rows := (first :: others).map withConstant
      let equations := (rows.zip targets).foldl accumulate .zero
      let solution ← gaussJordan (penalise ridge (mirror equations.normal)) equations.right
      return (Fin.tail solution, solution 0)

/-! ### Fits -/

def maxFeaturesPerFit : ℕ := 512

def minTrainingRows : ℕ := 8

/-- How a fit scored against data it did not see. -/
structure ForecastQuality where
  samples : ℕ
  meanAbsoluteError : ℚ
  baselineError : ℚ
  deriving DecidableEq

/-- A fitted linear model, bound to the feature order it was fitted on. -/
structure LinearForecaster where
  featureNames : List String
  window : ℕ
  weights : List ℚ
  intercept : ℚ
  quality : ForecastQuality
  deriving DecidableEq

def validateRows (width : ℕ) : List (List ℚ) → Except FitError Unit
  | [] => .ok ()
  | row :: rows =>
    if row.length ≠ width then
      .error (.forecast "training-invalid" s!"every input row must have {width} values")
    else validateRows width rows

def validateShape (inputs : List (List ℚ)) (targets : List ℚ) (featureNames : List String)
    (window : Int) : Except FitError Unit :=
  if window < 1 then .error (.forecast "bounds-invalid" "window must be a positive integer")
  else if featureNames = [] then
    .error (.forecast "features-invalid" "an explicit feature order is required")
  else if inputs.length ≠ targets.length then
    .error (.forecast "training-invalid" "inputs and targets must be the same length")
  else if inputs.length < minTrainingRows then
    .error (.forecast "insufficient-history"
      s!"at least {minTrainingRows} windows are required, got {inputs.length}")
  else if maxFeaturesPerFit < featureNames.length * window.toNat then
    .error (.forecast "features-invalid" s!"at most {maxFeaturesPerFit} inputs are allowed")
  else validateRows (featureNames.length * window.toNat) inputs

/-- How many rows a model is fitted to. -/
def splitIndex (count : ℕ) (holdout : ℚ) : ℕ :=
  min (count - 1) (max 1 ⌊(count : ℚ) * (1 - holdout)⌋.toNat)

/-- A row of so many values. -/
def vectorOf (width : ℕ) (row : List ℚ) : Fin width → ℚ := fun index => row.getD index 0

/-- The forecast of a row, and the most recent value of its first feature. -/
def forecast {width : ℕ} (weights : Fin width → ℚ) (intercept : ℚ) (featureCount : ℕ)
    (row : List ℚ) : ℚ × ℚ :=
  (intercept + (List.finRange width).foldl (fun sum index => sum + weights index * vectorOf width row index) 0,
    row.getD (row.length - featureCount) 0)

/-- Apply the same held-out repeat-last gate to every model family. -/
def evaluateForecastPredictions (targets predictions repeatLast : List ℚ) :
    Except FitError ForecastQuality :=
  if targets = [] ∨ targets.length ≠ predictions.length ∨ targets.length ≠ repeatLast.length then
    .error (.forecast "evaluation-invalid"
      "targets, predictions and baselines must have equal nonzero length")
  else
    let error := ((predictions.zip targets).map fun pair => |pair.1 - pair.2|).sum
    let baseline := ((repeatLast.zip targets).map fun pair => |pair.1 - pair.2|).sum
    .ok ⟨targets.length, error / targets.length, baseline / targets.length⟩

/-- Mean absolute error against held-out data, beside the naive baseline. -/
def score {width : ℕ} (inputs : List (List ℚ)) (targets : List ℚ) (weights : Fin width → ℚ)
    (intercept : ℚ) (featureCount : ℕ) : Except FitError ForecastQuality :=
  let forecasts := inputs.map (forecast weights intercept featureCount)
  evaluateForecastPredictions targets (forecasts.map Prod.fst) (forecasts.map Prod.snd)

def validateBounds (ridge holdout : ℚ) : Except FitError Unit :=
  if ridge < 0 then .error (.forecast "bounds-invalid" "ridge must be a non-negative number")
  else if holdout ≤ 0 ∨ 1 ≤ holdout then
    .error (.forecast "bounds-invalid" "holdout must be a fraction in (0, 1)")
  else .ok ()

/-- Fit and honestly score a forecaster over recorded windows. -/
def fitForecaster (inputs : List (List ℚ)) (targets : List ℚ) (featureNames : List String)
    (window : Int) (ridge holdout : ℚ) : Except FitError LinearForecaster := do
  validateShape inputs targets featureNames window
  validateBounds ridge holdout
  let width := featureNames.length * window.toNat
  let split := splitIndex inputs.length holdout
  let (weights, intercept) ←
    solve ((inputs.take split).map (vectorOf width)) (targets.take split) ridge
  let quality ← score (inputs.drop split) (targets.drop split) weights intercept featureNames.length
  return ⟨featureNames, window.toNat, List.ofFn weights, intercept, quality⟩

end Forecasting

end Omnitensor
