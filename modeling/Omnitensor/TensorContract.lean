/-
This file models what a model declares of its inputs and how inline tensors are held against it.

A tensor arrives as nested arrays of numbers. Two functions take its shape: the validator reads it
along the first items of arrays that it has found rectangular, the contract measures it and gives
up where an array is empty or the tensor is a bare number. The two agree on tensors that are solid:
arrays, none of which is empty at any depth. Only a measured shape is compared with a declared one.

The nesting that the interpreter's stack takes is a parameter.
-/

import Omnitensor.IndexRoundTrip

namespace Omnitensor

/-! ### Data -/

/-- The formats of the elements of a tensor. -/
inductive Dtype where
  | float32
  | float64
  | int32
  | int64
  | uint8
  deriving DecidableEq

/-- One declared input, as the schema of manifests has accepted it. -/
structure InputSpec where
  shape : List Nat
  dtype : Dtype
  ranked : shape ≠ []
  positive : ∀ dimension ∈ shape, 1 ≤ dimension

/-- Why a call did not return: a stable refusal, or an error of the language. -/
inductive DispatchFailure where
  | refused (code message : String)
  | crashed (error : String)
  deriving DecidableEq

/-- How many elements one payload may still carry, of how many. -/
structure ElementBudget where
  remaining : Nat
  maximum : Nat

namespace Dtype

def text : Dtype → String
  | .float32 => "float32"
  | .float64 => "float64"
  | .int32 => "int32"
  | .int64 => "int64"
  | .uint8 => "uint8"

end Dtype

/-- A payload that is not accepted. -/
def payloadInvalid (message : String) : DispatchFailure := .refused "payload-invalid" message

namespace ElementBudget

/-- A budget of which nothing is spent. -/
def new (maximum : Nat) : ElementBudget := ⟨maximum, maximum⟩

/-- Spend elements of a payload. -/
def spend (budget : ElementBudget) (count : Nat) : Except DispatchFailure ElementBudget :=
  if count ≤ budget.remaining then .ok { budget with remaining := budget.remaining - count }
  else
    .error (payloadInvalid
      ("Job payload exceeds " ++ toString budget.maximum ++ " tensor elements"))

end ElementBudget

namespace Tensor

def maxInputs : Nat := 8

/-! ### The validator -/

/-- The shape along the first items. -/
def tensorShape : Json Double → List Nat
  | .array [] => [0]
  | .array (first :: rest) => (rest.length + 1) :: tensorShape first
  | _ => []

mutual

/-- Accept a rectangular tensor of finite numbers, nested no deeper than the stack takes. -/
def validateInputTensor (stack : Nat) (value : Json Double) (budget : ElementBudget) :
    Except DispatchFailure (Json Double × ElementBudget) :=
  match value with
  | .bool _ => .error (payloadInvalid "Input tensors must contain numbers")
  | .int number => do return (.int number, ← budget.spend 1)
  | .float number => do return (.float number, ← budget.spend 1)
  | .constant _ => do
    let _ ← budget.spend 1
    .error (payloadInvalid "Input tensors must contain finite numbers")
  | .null =>
    .error (payloadInvalid "Input tensors must be numbers or nested arrays, not NoneType")
  | .string _ => .error (payloadInvalid "Input tensors must be numbers or nested arrays, not str")
  | .object _ => .error (payloadInvalid "Input tensors must be numbers or nested arrays, not dict")
  | .array items =>
    match stack with
    | 0 => .error (payloadInvalid "Input tensors are nested too deeply")
    | stack + 1 => do
      let (encoded, budget) ← validateItems stack items budget
      if 1 < (encoded.map tensorShape).dedup.length then
        .error (payloadInvalid "Input tensors must be rectangular")
      else return (.array encoded, budget)

/-- Accept the items of an array in order. -/
def validateItems (stack : Nat) (items : List (Json Double)) (budget : ElementBudget) :
    Except DispatchFailure (List (Json Double) × ElementBudget) :=
  match items with
  | [] => .ok ([], budget)
  | item :: items => do
    let (first, budget) ← validateInputTensor stack item budget
    let (rest, budget) ← validateItems stack items budget
    return (first :: rest, budget)

end

/-! ### The contract -/

mutual

/-- The shape of a tensor, unless it is ragged or an array in it is empty. -/
def rectangularShape : Json Double → Option (List Nat)
  | .array [] => none
  | .array (first :: rest) =>
    match rectangularShape first with
    | none => none
    | some shape =>
      if (rectangularShapes rest).all fun other => decide (other = some shape) then
        some ((rest.length + 1) :: shape)
      else none
  | _ => some []

/-- The shapes of items in order. -/
def rectangularShapes : List (Json Double) → List (Option (List Nat))
  | [] => []
  | item :: items => rectangularShape item :: rectangularShapes items

end

/-- The shape of nested arrays, unless it cannot be told. -/
def measuredShape : Json Double → Option (List Nat)
  | .array items => rectangularShape (.array items)
  | _ => none

/-- Why inputs disagree with what is declared of them, from the first one that does. -/
def disagreement : Nat → List (InputSpec × Option (List Nat) × Option Dtype) → Option String
  | _, [] => none
  | index, (spec, shape, dtype) :: rest =>
    match shape.filter fun shape => decide (shape ≠ spec.shape) with
    | some shape => some ("input " ++ toString index ++ " has shape " ++ toString shape ++
        " and the model declares " ++ toString spec.shape)
    | none =>
      match dtype.filter fun dtype => decide (dtype ≠ spec.dtype) with
      | some dtype => some ("input " ++ toString index ++ " is " ++ dtype.text ++
          " and the model declares " ++ spec.dtype.text)
      | none => disagreement (index + 1) rest

/-- Why inputs cannot satisfy a contract. A shape or format that is not known is no reason. -/
def contractError (specs : Option (List InputSpec))
    (shapes : List (Option (List Nat) × Option Dtype)) : Option String :=
  match specs with
  | none => none
  | some [] => none
  | some specs =>
    if shapes.length ≠ specs.length then
      some ("the model declares " ++ toString specs.length ++ " input" ++
        (if specs.length = 1 then "" else "s") ++ " and " ++ toString shapes.length ++ " " ++
        (if shapes.length = 1 then "was" else "were") ++ " supplied")
    else disagreement 0 (specs.zip shapes)

/-! ### Shapes -/

/-- Nested arrays of as many items each, with numbers at the bottom. -/
def HasShape : List Nat → Json Double → Prop
  | [], .int _ => True
  | [], .float _ => True
  | dimension :: shape, .array items =>
    items.length = dimension ∧ ∀ item ∈ items, HasShape shape item
  | _, _ => False

mutual

/-- How many numbers a tensor holds. -/
def elements : Json Double → Nat
  | .array items => itemElements items
  | _ => 1

def itemElements : List (Json Double) → Nat
  | [] => 0
  | item :: items => elements item + itemElements items

end

mutual

/-- No array in it is empty. -/
def dense : Json Double → Bool
  | .array items => !items.isEmpty && denseItems items
  | _ => true

def denseItems : List (Json Double) → Bool
  | [] => true
  | item :: items => dense item && denseItems items

end

/-- An array, with no empty array in it. -/
def solid : Json Double → Bool
  | .array items => dense (.array items)
  | _ => false

theorem itemElements_eq (items : List (Json Double)) :
    itemElements items = (items.map elements).sum := by
  induction items with
  | nil => rfl
  | cons item items inductionHypothesis =>
    rw [itemElements, inductionHypothesis, List.map_cons, List.sum_cons]

variable {tensor : Json Double} {shape : List Nat} {budget : ElementBudget}
  {items : List (Json Double)}

theorem denseItems_iff : denseItems items = true ↔ ∀ item ∈ items, dense item = true := by
  induction items with
  | nil => simp [denseItems]
  | cons item items inductionHypothesis => simp [denseItems, inductionHypothesis]

theorem rectangularShapes_eq (items : List (Json Double)) :
    rectangularShapes items = items.map rectangularShape := by
  induction items with
  | nil => rfl
  | cons item items inductionHypothesis =>
    rw [rectangularShapes, inductionHypothesis, List.map_cons]

/-- Induction over the tensors of a shape: a number, or an array of tensors of the other dimensions. -/
@[elab_as_elim]
theorem HasShape.induction
    {motive : ∀ (shape : List Nat) (tensor : Json Double), HasShape shape tensor → Prop}
    (int : ∀ number, motive [] (.int number) trivial)
    (float : ∀ number, motive [] (.float number) trivial)
    (array : ∀ (shape : List Nat) (items : List (Json Double))
      (inner : ∀ item ∈ items, HasShape shape item),
      (∀ item (inside : item ∈ items), motive shape item (inner item inside)) →
        motive (items.length :: shape) (.array items) ⟨rfl, inner⟩)
    {shape : List Nat} {tensor : Json Double} (shaped : HasShape shape tensor) :
    motive shape tensor shaped := by
  induction shape generalizing tensor with
  | nil =>
    cases tensor with
    | int number => exact int number
    | float number => exact float number
    | _ => cases shaped
  | cons dimension shape inductionHypothesis =>
    cases tensor with
    | array items =>
      obtain ⟨rfl, inner⟩ := shaped
      exact array shape items inner fun item inside => inductionHypothesis (inner item inside)
    | _ => cases shaped

/-- A tensor of a shape holds the product of its dimensions. -/
theorem elements_of_hasShape (shaped : HasShape shape tensor) : elements tensor = shape.prod := by
  induction shaped using HasShape.induction with
  | int number => rfl
  | float number => rfl
  | array shape items inner inductionHypothesis =>
    rw [elements, itemElements_eq, List.map_congr_left inductionHypothesis, List.map_const',
      List.sum_replicate_nat, List.prod_cons]

/-- The shape of a tensor with no empty array is measured. -/
theorem rectangularShape_of_hasShape (shaped : HasShape shape tensor) (full : dense tensor = true) :
    rectangularShape tensor = some shape := by
  induction shaped using HasShape.induction with
  | int number => rfl
  | float number => rfl
  | array shape items inner inductionHypothesis =>
    rw [dense, Bool.and_eq_true] at full
    have measured : ∀ item ∈ items, rectangularShape item = some shape := fun item inside =>
      inductionHypothesis item inside (denseItems_iff.mp full.2 item inside)
    cases items with
    | nil => cases full.1
    | cons first rest =>
      have all : (rectangularShapes rest).all fun other => decide (other = some shape) := by
        rw [rectangularShapes_eq, List.all_map, List.all_eq_true]
        exact fun item inside =>
          decide_eq_true (measured item (List.mem_cons_of_mem _ inside))
      rw [rectangularShape, measured first List.mem_cons_self]
      simp only [all, if_true, List.length_cons]

/-- A tensor of positive dimensions has no empty array. -/
theorem dense_of_hasShape (positive : ∀ dimension ∈ shape, 1 ≤ dimension)
    (shaped : HasShape shape tensor) : dense tensor = true := by
  induction shaped using HasShape.induction with
  | int number => rfl
  | float number => rfl
  | array shape items inner inductionHypothesis =>
    obtain ⟨least, others⟩ := List.forall_mem_cons.mp positive
    rw [dense, Bool.and_eq_true, denseItems_iff]
    exact ⟨by simpa using List.length_pos_iff.mp least,
      fun item inside => inductionHypothesis item inside others⟩

theorem solid_of_hasShape {spec : InputSpec} (shaped : HasShape spec.shape tensor) :
    solid tensor = true := by
  have full := dense_of_hasShape spec.positive shaped
  cases declared : spec.shape with
  | nil => exact absurd declared spec.ranked
  | cons dimension shape =>
    rw [declared] at shaped
    cases tensor with
    | array items => exact full
    | _ => cases shaped

theorem measuredShape_of_solid (full : solid tensor = true) (shaped : HasShape shape tensor) :
    measuredShape tensor = some shape := by
  cases tensor with
  | array items => exact rectangularShape_of_hasShape shaped full
  | _ => cases full

/-! ### What the validator accepts -/

theorem spend_eq_ok {after : ElementBudget} {count : Nat} (spent : budget.spend count = .ok after) :
    budget.remaining = after.remaining + count ∧ after.maximum = budget.maximum := by
  unfold ElementBudget.spend at spent
  split at spent
  · cases spent
    exact ⟨(Nat.sub_add_cancel (by assumption)).symm, rfl⟩
  · cases spent

theorem length_dedup_le_one {Value : Type} [DecidableEq Value] {values : List Value} {value : Value}
    (few : values.dedup.length ≤ 1) (inside : value ∈ values) :
    ∀ other ∈ values, other = value := by
  intro other member
  have one := List.mem_dedup.mpr inside
  have two := List.mem_dedup.mpr member
  obtain ⟨single, same⟩ := List.length_eq_one_iff.mp
    (few.antisymm (List.length_pos_of_mem one))
  rw [same, List.mem_singleton] at one two
  exact two.trans one.symm

/-- The shape along the first items is that of every item. -/
theorem hasShape_array (same : ¬ 1 < (items.map tensorShape).dedup.length)
    (shaped : ∀ item ∈ items, HasShape (tensorShape item) item) :
    HasShape (tensorShape (.array items)) (.array items) := by
  cases items with
  | nil => exact ⟨rfl, fun _ none => by cases none⟩
  | cons first rest =>
    refine ⟨rfl, fun item inside => ?_⟩
    rw [← length_dedup_le_one (Nat.not_lt.mp same) (List.mem_map_of_mem List.mem_cons_self) _
      (List.mem_map_of_mem inside)]
    exact shaped item inside

mutual

/-- What the validator accepts has a shape, is returned as it is, and is paid for. -/
theorem validateInputTensor_spec : ∀ (tensor : Json Double) {stack : Nat}
    {budget after : ElementBudget} {encoded : Json Double},
    validateInputTensor stack tensor budget = .ok (encoded, after) →
      encoded = tensor ∧ HasShape (tensorShape tensor) tensor ∧
        budget.remaining = after.remaining + elements tensor ∧ after.maximum = budget.maximum
  | .int number, stack, budget, after, encoded, accepted => by
    obtain ⟨_, spent, same⟩ := bind_eq_ok.mp accepted
    cases same
    exact ⟨rfl, trivial, spend_eq_ok spent⟩
  | .float number, stack, budget, after, encoded, accepted => by
    obtain ⟨_, spent, same⟩ := bind_eq_ok.mp accepted
    cases same
    exact ⟨rfl, trivial, spend_eq_ok spent⟩
  | .constant constant, stack, budget, after, encoded, accepted => by
    obtain ⟨_, _, same⟩ := bind_eq_ok.mp accepted
    cases same
  | .array items, 0, budget, after, encoded, accepted => by cases accepted
  | .array items, stack + 1, budget, after, encoded, accepted => by
    obtain ⟨⟨kept, left⟩, inner, checked⟩ := bind_eq_ok.mp accepted
    obtain ⟨rfl, shaped, paid⟩ := validateItems_spec items inner
    simp only at checked
    split at checked
    · cases checked
    · rename_i same
      cases checked
      exact ⟨rfl, hasShape_array same shaped, paid⟩
  | .bool _, stack, budget, after, encoded, accepted => by cases accepted
  | .null, stack, budget, after, encoded, accepted => by cases accepted
  | .string _, stack, budget, after, encoded, accepted => by cases accepted
  | .object _, stack, budget, after, encoded, accepted => by cases accepted

theorem validateItems_spec : ∀ (items : List (Json Double)) {stack : Nat}
    {budget after : ElementBudget} {encoded : List (Json Double)},
    validateItems stack items budget = .ok (encoded, after) →
      encoded = items ∧ (∀ item ∈ items, HasShape (tensorShape item) item) ∧
        budget.remaining = after.remaining + itemElements items ∧ after.maximum = budget.maximum
  | [], stack, budget, after, encoded, accepted => by
    cases accepted
    exact ⟨rfl, fun _ inside => absurd inside List.not_mem_nil, rfl, rfl⟩
  | item :: items, stack, budget, after, encoded, accepted => by
    obtain ⟨⟨first, middle⟩, one, accepted⟩ := bind_eq_ok.mp accepted
    obtain ⟨⟨rest, left⟩, others, same⟩ := bind_eq_ok.mp accepted
    cases same
    obtain ⟨rfl, firstShaped, firstPaid, firstMaximum⟩ := validateInputTensor_spec item one
    obtain ⟨rfl, restShaped, restPaid, restMaximum⟩ := validateItems_spec items others
    refine ⟨rfl, List.forall_mem_cons.mpr ⟨firstShaped, restShaped⟩, ?_,
      restMaximum.trans firstMaximum⟩
    rw [itemElements, firstPaid, restPaid]
    omega

end

theorem spend_of_le {count : Nat} (enough : count ≤ budget.remaining) :
    ∃ after, budget.spend count = .ok after := ⟨_, if_pos enough⟩

/-- Along positive dimensions the first items tell the shape. -/
theorem tensorShape_of_hasShape (positive : ∀ dimension ∈ shape, 1 ≤ dimension)
    (shaped : HasShape shape tensor) : tensorShape tensor = shape := by
  induction shaped using HasShape.induction with
  | int number => rfl
  | float number => rfl
  | array shape items inner inductionHypothesis =>
    obtain ⟨least, others⟩ := List.forall_mem_cons.mp positive
    cases items with
    | nil => cases least
    | cons first rest =>
      rw [tensorShape, inductionHypothesis first List.mem_cons_self others, List.length_cons]

theorem length_dedup_of_forall_eq {Value : Type} [DecidableEq Value] {values : List Value}
    {value : Value} (same : ∀ other ∈ values, other = value) : ¬ 1 < values.dedup.length := by
  have single : values.dedup ⊆ [value] := fun other inside =>
    List.mem_singleton.mpr (same other (List.mem_dedup.mp inside))
  exact Nat.not_lt.mpr ((List.nodup_dedup values).length_le_of_subset single)

theorem validateItems_of_validates {stack : Nat} {items : List (Json Double)}
    (validates : ∀ item ∈ items, ∀ budget : ElementBudget, elements item ≤ budget.remaining →
      ∃ after, validateInputTensor stack item budget = .ok (item, after))
    {budget : ElementBudget} (enough : itemElements items ≤ budget.remaining) :
    ∃ after, validateItems stack items budget = .ok (items, after) := by
  induction items generalizing budget with
  | nil => exact ⟨budget, rfl⟩
  | cons item items inductionHypothesis =>
    obtain ⟨first, others⟩ := List.forall_mem_cons.mp validates
    rw [itemElements] at enough
    obtain ⟨middle, one⟩ := first budget (by omega)
    obtain ⟨_, _, paid, _⟩ := validateInputTensor_spec item one
    obtain ⟨after, rest⟩ := @inductionHypothesis others middle (by omega)
    refine ⟨after, bind_eq_ok.mpr ⟨_, one, bind_eq_ok.mpr ⟨_, rest, rfl⟩⟩⟩

/-- A tensor of positive dimensions is accepted, if the stack and the budget take it. -/
theorem validateInputTensor_of_hasShape {stack : Nat}
    (positive : ∀ dimension ∈ shape, 1 ≤ dimension) (shaped : HasShape shape tensor)
    (deep : shape.length ≤ stack) (enough : elements tensor ≤ budget.remaining) :
    ∃ after, validateInputTensor stack tensor budget = .ok (tensor, after) := by
  induction shaped using HasShape.induction generalizing stack budget with
  | int number | float number =>
    obtain ⟨after, spent⟩ := spend_of_le enough
    exact ⟨after, bind_eq_ok.mpr ⟨after, spent, rfl⟩⟩
  | array shape items inner inductionHypothesis =>
    obtain ⟨_, others⟩ := List.forall_mem_cons.mp positive
    cases stack with
    | zero => cases deep
    | succ stack =>
      have each : ∀ item ∈ items, ∀ budget : ElementBudget, elements item ≤ budget.remaining →
          ∃ after, validateInputTensor stack item budget = .ok (item, after) :=
        fun item inside budget =>
          inductionHypothesis item inside others (Nat.le_of_succ_le_succ deep)
      obtain ⟨after, all⟩ := validateItems_of_validates each enough
      have shapes : ∀ other ∈ items.map tensorShape, other = shape :=
        List.forall_mem_map.mpr fun item inside =>
          tensorShape_of_hasShape others (inner item inside)
      have same := length_dedup_of_forall_eq shapes
      exact ⟨after, bind_eq_ok.mpr ⟨_, all, if_neg same⟩⟩

/-! ### What the contract accepts -/

theorem disagreement_eq_none {index : Nat}
    {inputs : List (InputSpec × Option (List Nat) × Option Dtype)} :
    disagreement index inputs = none ↔ ∀ input ∈ inputs,
      (∀ shape ∈ input.2.1, shape = input.1.shape) ∧ ∀ dtype ∈ input.2.2, dtype = input.1.dtype := by
  induction inputs generalizing index with
  | nil => simp [disagreement]
  | cons input inputs inductionHypothesis =>
    obtain ⟨spec, shape, dtype⟩ := input
    rw [disagreement, List.forall_mem_cons]
    cases shapes : shape.filter fun shape => decide (shape ≠ spec.shape) with
    | some other =>
      obtain ⟨present, different⟩ := Option.filter_eq_some_iff.mp shapes
      refine iff_of_false (fun none => by cases none) fun all => ?_
      exact of_decide_eq_true different (all.1.1 other present)
    | none =>
      cases dtypes : dtype.filter fun dtype => decide (dtype ≠ spec.dtype) with
      | some other =>
        obtain ⟨present, different⟩ := Option.filter_eq_some_iff.mp dtypes
        refine iff_of_false (fun none => by cases none) fun all => ?_
        exact of_decide_eq_true different (all.1.2 other present)
      | none =>
        simp only [Option.filter_eq_none_iff, decide_eq_true_iff, not_not] at shapes dtypes
        exact inductionHypothesis.trans (and_iff_right ⟨shapes, dtypes⟩).symm

/-- A contract accepts as many inputs as it declares, none of which disagrees. -/
theorem contractError_eq_none {specs : List InputSpec}
    {shapes : List (Option (List Nat) × Option Dtype)} (declared : specs ≠ []) :
    contractError (some specs) shapes = none ↔ shapes.length = specs.length ∧
      ∀ input ∈ specs.zip shapes, (∀ shape ∈ input.2.1, shape = input.1.shape) ∧
        ∀ dtype ∈ input.2.2, dtype = input.1.dtype := by
  cases specs with
  | nil => exact absurd rfl declared
  | cons spec specs =>
    unfold contractError
    dsimp only
    split
    · rename_i different
      exact iff_of_false (fun none => by cases none) fun all => different all.1
    · rename_i same
      rw [disagreement_eq_none, and_iff_right (Classical.not_not.mp same)]

end Tensor

end Omnitensor
