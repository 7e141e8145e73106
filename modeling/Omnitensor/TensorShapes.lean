/-
This file shows that reshaping, measuring and validating agree on what a rectangular tensor is.

The validator compares the shapes of all items of an array along their first items, the measure compares
them as a whole. On nested lists of finite numbers, one at least, both find a shape exactly where there
is one. The validator asks for more: room in the budget for every number, and a stack that is as deep as
the lists.
-/

import Omnitensor.TensorReference

namespace Omnitensor

namespace Tensor

open TensorReference (finiteValue reshape leaves)

/-! ### Nested lists of numbers -/

mutual

/-- Finite numbers, in lists of any depth. -/
def numeric : Json Double → Bool
  | .array items => numericItems items
  | value => finiteValue value

def numericItems : List (Json Double) → Bool
  | [] => true
  | item :: items => numeric item && numericItems items

end

mutual

/-- How deep lists are nested. -/
def depth : Json Double → Nat
  | .array items => itemDepth items + 1
  | _ => 0

def itemDepth : List (Json Double) → Nat
  | [] => 0
  | item :: items => max (depth item) (itemDepth items)

end

/-- A shape that nested lists have. -/
def Rectangular (tensor : Json Double) : Prop := ∃ shape, HasShape shape tensor

variable {items : List (Json Double)}

theorem numericItems_iff : numericItems items = true ↔ ∀ item ∈ items, numeric item = true := by
  induction items with
  | nil => simp [numericItems]
  | cons item items inductionHypothesis => simp [numericItems, inductionHypothesis]

theorem itemDepth_le {bound : Nat} :
    itemDepth items ≤ bound ↔ ∀ item ∈ items, depth item ≤ bound := by
  induction items with
  | nil => simp [itemDepth]
  | cons item items inductionHypothesis => simp [itemDepth, inductionHypothesis]

/-- Lists of positive lengths are nested as often as the shape says. -/
theorem depth_of_hasShape {shape : List Nat} {tensor : Json Double}
    (positive : ∀ dimension ∈ shape, 1 ≤ dimension) (shaped : HasShape shape tensor) :
    depth tensor = shape.length := by
  induction shaped using HasShape.induction with
  | int number => rfl
  | float number => rfl
  | array shape items inner inductionHypothesis =>
    obtain ⟨least, others⟩ := List.forall_mem_cons.mp positive
    rw [depth, List.length_cons]
    have each : ∀ item ∈ items, depth item = shape.length := fun item inside =>
      inductionHypothesis item inside others
    refine congrArg Nat.succ (Nat.le_antisymm (itemDepth_le.mpr fun item inside =>
      (each item inside).le) ?_)
    obtain ⟨first, inside⟩ := List.exists_mem_of_length_pos least
    rw [← each first inside]
    exact itemDepth_le.mp le_rfl first inside

/-- A shape with numbers in it has no dimension that is zero. -/
theorem positive_of_elements {shape : List Nat} {tensor : Json Double} (shaped : HasShape shape tensor)
    (filled : 0 < elements tensor) : ∀ dimension ∈ shape, 1 ≤ dimension := by
  rw [elements_of_hasShape shaped] at filled
  intro dimension member
  exact Nat.pos_of_dvd_of_pos (List.dvd_prod member) filled

/-! ### What is measured -/

/-- What is measured of numbers is their shape. -/
theorem hasShape_of_rectangularShape : ∀ {shape : List Nat} {tensor : Json Double},
    numeric tensor = true → rectangularShape tensor = some shape → HasShape shape tensor := by
  intro shape
  induction shape with
  | nil =>
    intro tensor numbers measured
    cases tensor with
    | array items =>
      cases items with
      | nil => cases measured
      | cons first rest =>
        rw [rectangularShape] at measured
        split at measured
        · cases measured
        · split_ifs at measured
          cases measured
    | int number => trivial
    | float number => trivial
    | _ => cases numbers
  | cons dimension shape inductionHypothesis =>
    intro tensor numbers measured
    cases tensor with
    | array items =>
      cases items with
      | nil => cases measured
      | cons first rest =>
        rw [numeric, numericItems_iff, List.forall_mem_cons] at numbers
        rw [rectangularShape] at measured
        split at measured
        · cases measured
        · rename_i inner firstMeasured
          split_ifs at measured with same
          cases measured
          rw [rectangularShapes_eq, List.all_map, List.all_eq_true] at same
          refine ⟨rfl, List.forall_mem_cons.mpr ⟨inductionHypothesis numbers.1 firstMeasured, ?_⟩⟩
          exact fun item inside => inductionHypothesis (numbers.2 item inside)
            (of_decide_eq_true (same item inside))
    | _ => cases measured

theorem measured_iff_rectangular (numbers : numeric (.array items) = true)
    (filled : 0 < elements (.array items)) :
    measuredShape (.array items) ≠ none ↔ Rectangular (.array items) := by
  constructor
  · intro measured
    obtain ⟨shape, found⟩ := Option.ne_none_iff_exists'.mp measured
    exact ⟨shape, hasShape_of_rectangularShape numbers found⟩
  · rintro ⟨shape, shaped⟩
    have full := dense_of_hasShape (positive_of_elements shaped filled) shaped
    rw [measuredShape, rectangularShape_of_hasShape shaped full]
    exact Option.some_ne_none shape

/-! ### What is accepted -/

mutual

/-- What is accepted is no deeper than the stack. -/
theorem depth_le_of_validates : ∀ (tensor : Json Double) {stack : Nat}
    {budget after : ElementBudget} {encoded : Json Double},
    validateInputTensor stack tensor budget = .ok (encoded, after) → depth tensor ≤ stack
  | .array items, 0, budget, after, encoded, accepted => by cases accepted
  | .array items, stack + 1, budget, after, encoded, accepted => by
    obtain ⟨⟨kept, left⟩, inner, _⟩ := bind_eq_ok.mp accepted
    exact Nat.succ_le_succ (itemDepth_le.mpr (depth_le_of_validatesItems items inner))
  | .int _, stack, budget, after, encoded, accepted => Nat.zero_le stack
  | .float _, stack, budget, after, encoded, accepted => Nat.zero_le stack
  | .constant _, stack, budget, after, encoded, accepted => Nat.zero_le stack
  | .bool _, stack, budget, after, encoded, accepted => Nat.zero_le stack
  | .null, stack, budget, after, encoded, accepted => Nat.zero_le stack
  | .string _, stack, budget, after, encoded, accepted => Nat.zero_le stack
  | .object _, stack, budget, after, encoded, accepted => Nat.zero_le stack

theorem depth_le_of_validatesItems : ∀ (items : List (Json Double)) {stack : Nat}
    {budget after : ElementBudget} {encoded : List (Json Double)},
    validateItems stack items budget = .ok (encoded, after) → ∀ item ∈ items, depth item ≤ stack
  | [], stack, budget, after, encoded, accepted => fun _ inside => absurd inside List.not_mem_nil
  | item :: items, stack, budget, after, encoded, accepted => by
    obtain ⟨⟨first, middle⟩, one, accepted⟩ := bind_eq_ok.mp accepted
    obtain ⟨⟨rest, left⟩, others, _⟩ := bind_eq_ok.mp accepted
    exact List.forall_mem_cons.mpr
      ⟨depth_le_of_validates item one, depth_le_of_validatesItems items others⟩

end

/-- Numbers are accepted that are measured, if the stack and the budget take them. -/
theorem accepted_iff_measured (numbers : numeric (.array items) = true)
    (filled : 0 < elements (.array items)) (stack : Nat) (budget : ElementBudget) :
    (∃ after, validateInputTensor stack (.array items) budget = .ok (.array items, after)) ↔
      measuredShape (.array items) ≠ none ∧ depth (.array items) ≤ stack ∧
        elements (.array items) ≤ budget.remaining := by
  rw [measured_iff_rectangular numbers filled]
  constructor
  · rintro ⟨after, accepted⟩
    obtain ⟨_, shaped, paid, _⟩ := validateInputTensor_spec _ accepted
    exact ⟨⟨_, shaped⟩, depth_le_of_validates _ accepted, by omega⟩
  · rintro ⟨⟨shape, shaped⟩, deep, enough⟩
    have positive := positive_of_elements shaped filled
    rw [depth_of_hasShape positive shaped] at deep
    exact validateInputTensor_of_hasShape positive shaped deep enough

/-- Reshaping, validating and measuring agree. Numbers that are as many as a shape takes become an array
of this shape, which is accepted within the stack and the budget and holds them in order. An array of
numbers is accepted, within the same limits, if and only if a shape is measured of it, which is if it is
rectangular. -/
theorem reshape_validate_measure :
    (∀ (shape : List Nat) (flat : List (Json Double)), shape ≠ [] →
      (∀ dimension ∈ shape, 1 ≤ dimension) → (∀ value ∈ flat, finiteValue value = true) →
      flat.length = shape.prod →
        (∀ (stack : Nat) (budget : ElementBudget),
          (∃ after, validateInputTensor stack (.array (reshape flat shape)) budget =
              .ok (.array (reshape flat shape), after)) ↔
            shape.length ≤ stack ∧ flat.length ≤ budget.remaining) ∧
        measuredShape (.array (reshape flat shape)) = some shape ∧
        leaves (.array (reshape flat shape)) = flat) ∧
    ∀ (items : List (Json Double)), numeric (.array items) = true → 0 < elements (.array items) →
      (∀ (stack : Nat) (budget : ElementBudget),
        (∃ after, validateInputTensor stack (.array items) budget = .ok (.array items, after)) ↔
          measuredShape (.array items) ≠ none ∧ depth (.array items) ≤ stack ∧
            elements (.array items) ≤ budget.remaining) ∧
      (measuredShape (.array items) ≠ none ↔ Rectangular (.array items)) := by
  refine ⟨fun shape flat ranked positive finite length => ?_, fun items numbers filled =>
    ⟨accepted_iff_measured numbers filled, measured_iff_rectangular numbers filled⟩⟩
  have shaped := TensorReference.hasShape_reshape ranked positive length finite
  refine ⟨fun stack budget => ?_, rectangularShape_of_hasShape shaped (dense_of_hasShape positive shaped),
    TensorReference.leaves_reshape positive finite⟩
  rw [length, ← elements_of_hasShape shaped, ← depth_of_hasShape positive shaped]
  constructor
  · rintro ⟨after, accepted⟩
    have paid := (validateInputTensor_spec _ accepted).2.2.1
    exact ⟨depth_le_of_validates _ accepted, by omega⟩
  · rintro ⟨deep, enough⟩
    rw [depth_of_hasShape positive shaped] at deep
    exact validateInputTensor_of_hasShape positive shaped deep enough

/-- A number that is not finite is reshaped and measured and never accepted, and so is any number once
the budget is spent. -/
theorem not_accepts_every_number :
    (¬ ∀ (shape : List Nat) (flat : List (Json Double)), shape ≠ [] →
      (∀ dimension ∈ shape, 1 ≤ dimension) →
      (∀ value ∈ flat, (∃ constant, value = .constant constant) ∨ finiteValue value = true) →
      flat.length = shape.prod → ∃ stack budget after,
        validateInputTensor stack (.array (reshape flat shape)) budget =
          .ok (.array (reshape flat shape), after)) ∧
    ¬ ∀ (items : List (Json Double)), numeric (.array items) = true → 0 < elements (.array items) →
      ∀ (stack : Nat) (budget : ElementBudget),
        (∃ after, validateInputTensor stack (.array items) budget = .ok (.array items, after)) ↔
          measuredShape (.array items) ≠ none := by
  constructor
  · intro claim
    obtain ⟨stack, budget, after, accepted⟩ := claim [1] [.constant .infinity] (by decide) (by decide)
      (by simp) rfl
    have shaped := (validateInputTensor_spec _ accepted).2.1
    exact (shaped.2 _ List.mem_cons_self : HasShape [] (.constant .infinity))
  · intro claim
    obtain ⟨after, accepted⟩ := (claim [.int 1] (by decide) (by decide) 1 (.new 0)).mpr (by decide)
    have paid := (validateInputTensor_spec _ accepted).2.2.1
    change 0 = after.remaining + 1 at paid
    omega

/-- Six numbers in two rows of three. -/
theorem reshape_validate_measure_pair :
    (∃ after, validateInputTensor 2 (.array (reshape ([1, 2, 3, 4, 5, 6].map .int) [2, 3])) (.new 6) =
        .ok (.array (reshape ([1, 2, 3, 4, 5, 6].map .int) [2, 3]), after)) ∧
      measuredShape (.array (reshape ([1, 2, 3, 4, 5, 6].map .int) [2, 3])) = some [2, 3] ∧
      Rectangular (.array [.array [.int 1], .array [.int 2]]) := by
  have made := reshape_validate_measure.1 [2, 3] ([1, 2, 3, 4, 5, 6].map .int) (by decide) (by decide)
    (by decide) rfl
  refine ⟨(made.1 2 (.new 6)).mpr (by decide), made.2.1, ?_⟩
  exact (reshape_validate_measure.2 [.array [.int 1], .array [.int 2]] (by decide) (by decide)).2.mp
    (by decide)

end Tensor

end Omnitensor
