/-
This file models the stride queue: per-key FIFO queues served by pass value.

Two schedulers serve their work through it. The pending key with the smallest
pass goes next and its pass advances by one over its weight; a key that starts
waiting joins at the smallest pass queued, a key that policy holds out is raised
to virtual time, and a drained key is forgotten. Passes are exact rationals here.

Each operation is translated from its source function. What it does is then said
once, in terms of what waits under each key and of each key's pass: `push_*`,
`PopSpec` and `discard_*` are all that the fairness and accounting results use.
-/

import Mathlib.Algebra.Order.Field.Basic
import Mathlib.Algebra.Order.Field.Rat
import Mathlib.Data.List.MinMax
import Mathlib.Data.Prod.Lex
import Mathlib.Tactic.Linarith
import Mathlib.Tactic.NormNum
import Omnitensor.Dict

namespace Omnitensor

/-! ### Weights -/

/-- The largest stride divisor; policy weights are one to five. -/
def maxStrideWeight : Int := 5

/-- What a weight callback may hand back: the queue accepts any object. -/
inductive WeightValue where
  | boolean (value : Bool)
  | integer (value : Int)
  | other
  deriving DecidableEq

/-- A usable stride divisor from whatever policy supplied. -/
def strideWeight : WeightValue → Int
  | .boolean _ => 1
  | .other => 1
  | .integer weight => max 1 (min maxStrideWeight weight)

theorem one_le_strideWeight (weight : WeightValue) : 1 ≤ strideWeight weight := by
  cases weight with
  | boolean _ => exact le_rfl
  | other => exact le_rfl
  | integer value => exact le_max_left _ _

theorem strideWeight_le (weight : WeightValue) : strideWeight weight ≤ 5 := by
  cases weight with
  | boolean _ => exact (by decide : (1 : Int) ≤ 5)
  | other => exact (by decide : (1 : Int) ≤ 5)
  | integer value => exact max_le (by decide) (min_le_left _ _)

/-- The advance of one serve. -/
def stride (weight : WeightValue) : ℚ := 1 / (strideWeight weight : ℚ)

theorem stride_le_one (weight : WeightValue) : stride weight ≤ 1 := by
  have positive : (1 : ℚ) ≤ strideWeight weight := by exact_mod_cast one_le_strideWeight weight
  exact (div_le_one (by linarith)).mpr positive

theorem one_fifth_le_stride (weight : WeightValue) : 1 / 5 ≤ stride weight := by
  have positive : (1 : ℚ) ≤ strideWeight weight := by exact_mod_cast one_le_strideWeight weight
  have bounded : (strideWeight weight : ℚ) ≤ 5 := by exact_mod_cast strideWeight_le weight
  exact one_div_le_one_div_of_le (by linarith) bounded

theorem stride_nonneg (weight : WeightValue) : 0 ≤ stride weight :=
  le_trans (by norm_num) (one_fifth_le_stride weight)

/-! ### The queue and its operations -/

/-- Per-key FIFO queues served by stride order. -/
structure StrideQueue (Key Item : Type) where
  /-- What waits under each key, oldest first. -/
  items : Dict Key (List Item)
  /-- The keys in the order they joined. -/
  order : List Key
  /-- The pass of each key. -/
  passes : Dict Key ℚ
  deriving DecidableEq

/-- Whether an admission predicate, if there is one, lets a key be served. -/
def admitted {Key : Type} (admits : Option (Key → Bool)) (key : Key) : Bool :=
  match admits with
  | none => true
  | some predicate => predicate key

namespace StrideQueue

variable {Key Item : Type} [DecidableEq Key]

/-- The queue nothing was pushed to. -/
def empty : StrideQueue Key Item := ⟨Dict.empty, [], Dict.empty⟩

/-- What waits under a key. -/
def waiting (queue : StrideQueue Key Item) (key : Key) : List Item :=
  (queue.items.get? key).getD []

/-- The pass of a key. -/
def passOf (queue : StrideQueue Key Item) (key : Key) : ℚ := (queue.passes.get? key).getD 0

/-- The smallest pass queued, zero when there is none. -/
def virtualTime (queue : StrideQueue Key Item) : ℚ := queue.passes.values.min?.getD 0

/-- Queue an item under a key; a new key joins at virtual time. -/
def push (queue : StrideQueue Key Item) (key : Key) (item : Item) : StrideQueue Key Item :=
  let joined : StrideQueue Key Item :=
    if queue.items.contains key then queue
    else
      { items := queue.items.set key []
        order := queue.order ++ [key]
        passes := queue.passes.set key queue.virtualTime }
  { joined with items := joined.items.set key (joined.waiting key ++ [item]) }

/-- The number of items queued. -/
def depth (queue : StrideQueue Key Item) : Nat := (queue.items.values.map List.length).sum

/-- The keys that could be served now, in queue order. -/
def pending (queue : StrideQueue Key Item) (admits : Option (Key → Bool)) : List Key :=
  queue.order.filter fun key => !(queue.waiting key).isEmpty && admitted admits key

/-- Keep a key that policy holds out level with virtual time, never past it. -/
def clampHeldOut (queue : StrideQueue Key Item) (admits : Option (Key → Bool)) :
    StrideQueue Key Item :=
  match admits with
  | none => queue
  | some predicate =>
    let served := queue.items.keys.filter fun key =>
      !(queue.waiting key).isEmpty && predicate key
    match (served.map queue.passOf).min? with
    | none => queue
    | some level =>
      { queue with
        passes := queue.passes.mapValues fun key pass =>
          if !(queue.waiting key).isEmpty && !predicate key then max pass level else pass }

/-- The key to serve next, with its pass advanced: the least pass, the oldest key among
equals. -/
def choose (queue : StrideQueue Key Item) (weightOf : Key → WeightValue)
    (admits : Option (Key → Bool)) : Option (Key × StrideQueue Key Item) :=
  ((queue.pending admits).argmin fun key =>
      toLex (queue.passOf key, queue.order.idxOf key)).map fun chosen =>
    (chosen, clampHeldOut
      { queue with
        passes := queue.passes.set chosen (queue.passOf chosen + stride (weightOf chosen)) }
      admits)

/-- Forget a key. -/
def prune (queue : StrideQueue Key Item) (key : Key) : StrideQueue Key Item where
  items := queue.items.erase key
  order := queue.order.erase key
  passes := queue.passes.erase key

/-- Give a key what now waits under it, pruning it when that is nothing. -/
def settle (queue : StrideQueue Key Item) (key : Key) (rest : List Item) :
    StrideQueue Key Item :=
  let left := { queue with items := queue.items.set key rest }
  if rest.isEmpty then left.prune key else left

/-- Take the next item in stride order, pruning a drained key. -/
def pop (queue : StrideQueue Key Item) (weightOf : Key → WeightValue)
    (admits : Option (Key → Bool)) : Option ((Key × Item) × StrideQueue Key Item) :=
  match queue.choose weightOf admits with
  | none => none
  | some (chosen, advanced) =>
    match advanced.waiting chosen with
    -- `popleft` on an empty deque: `choose` returns keys with work waiting only
    | [] => none
    | item :: rest => some ((chosen, item), advanced.settle chosen rest)

/-- Remove one queued item, pruning the key when it empties; whether it was there. -/
def discard [DecidableEq Item] (queue : StrideQueue Key Item) (key : Key) (item : Item) :
    Bool × StrideQueue Key Item :=
  match queue.items.get? key with
  | none => (false, queue)
  | some waiting =>
    if item ∈ waiting then (true, queue.settle key (waiting.erase item)) else (false, queue)

/-- Every item queued. -/
def queued (queue : StrideQueue Key Item) : List Item := queue.items.values.flatten

omit [DecidableEq Key] in
theorem depth_eq (queue : StrideQueue Key Item) : queue.depth = queue.queued.length :=
  List.length_flatten.symm

/-! ### One consistent structure -/

/-- The three tables speak of the same keys in the same order, and no key waits for
nothing. -/
structure Consistent (queue : StrideQueue Key Item) : Prop where
  itemKeys : queue.items.keys = queue.order
  passKeys : queue.passes.keys = queue.order
  nonempty : ∀ key ∈ queue.order, queue.waiting key ≠ []

theorem consistent_empty : (empty : StrideQueue Key Item).Consistent where
  itemKeys := rfl
  passKeys := rfl
  nonempty _ member := absurd member List.not_mem_nil

variable {queue after : StrideQueue Key Item} {key other owner chosen : Key} {item : Item}
  {admits : Option (Key → Bool)} {weightOf : Key → WeightValue} {rest : List Item}

theorem Consistent.nodup (consistent : queue.Consistent) :
    queue.order.Nodup := consistent.itemKeys ▸ queue.items.nodup_keys

theorem Consistent.mem_order_iff (consistent : queue.Consistent) :
    key ∈ queue.order ↔ queue.waiting key ≠ [] := by
  constructor
  · exact consistent.nonempty key
  · intro nonempty
    rw [← consistent.itemKeys, Dict.mem_keys_iff]
    cases found : queue.items.get? key with
    | none => exact absurd (by rw [waiting, found]; rfl) nonempty
    | some value => exact ⟨value, rfl⟩

theorem Consistent.get?_passes (consistent : queue.Consistent) (member : key ∈ queue.order) :
    queue.passes.get? key = some (queue.passOf key) := by
  obtain ⟨pass, found⟩ := Dict.mem_keys_iff.mp (consistent.passKeys ▸ member)
  rw [passOf, found, Option.getD_some]

theorem Consistent.get?_items (consistent : queue.Consistent) (member : key ∈ queue.order) :
    queue.items.get? key = some (queue.waiting key) := by
  obtain ⟨value, found⟩ := Dict.mem_keys_iff.mp (consistent.itemKeys ▸ member)
  rw [waiting, found, Option.getD_some]

theorem Consistent.values_passes (consistent : queue.Consistent) {pass : ℚ} :
    pass ∈ queue.passes.values ↔ ∃ key ∈ queue.order, queue.passOf key = pass := by
  rw [Dict.mem_values_iff]
  constructor
  · rintro ⟨key, found⟩
    have member : key ∈ queue.order := consistent.passKeys ▸ Dict.mem_keys_of_get? found
    exact ⟨key, member, Option.some.inj ((consistent.get?_passes member).symm.trans found)⟩
  · rintro ⟨key, member, rfl⟩
    exact ⟨key, consistent.get?_passes member⟩

/-- Virtual time is some queued key's pass. -/
theorem Consistent.exists_virtualTime (consistent : queue.Consistent) (member : key ∈ queue.order) :
    ∃ slowest ∈ queue.order, queue.passOf slowest = queue.virtualTime := by
  have stored : queue.passOf key ∈ queue.passes.values :=
    consistent.values_passes.mpr ⟨key, member, rfl⟩
  obtain ⟨least, found⟩ := Option.isSome_iff_exists.mp (List.isSome_min?_of_mem stored)
  rw [virtualTime, found, Option.getD_some]
  exact consistent.values_passes.mp (List.min?_eq_some_iff.mp found).1

/-! ### Pushing -/

theorem push_of_mem (consistent : queue.Consistent) (member : key ∈ queue.order) (item : Item) :
    queue.push key item =
      { queue with items := queue.items.set key (queue.waiting key ++ [item]) } := by
  have present : queue.items.contains key = true :=
    Dict.contains_iff.mpr (consistent.itemKeys ▸ member)
  simp only [push, present, if_true]

theorem push_of_not_mem (consistent : queue.Consistent) (absent : key ∉ queue.order) (item : Item) :
    queue.push key item =
      { items := (queue.items.set key []).set key [item]
        order := queue.order ++ [key]
        passes := queue.passes.set key queue.virtualTime } := by
  have missing : queue.items.contains key = false := by
    rw [← Bool.not_eq_true, Dict.contains_iff, consistent.itemKeys]
    exact absent
  simp [push, missing, waiting]

theorem order_push (consistent : queue.Consistent) (key : Key) (item : Item) :
    (queue.push key item).order =
      if key ∈ queue.order then queue.order else queue.order ++ [key] := by
  by_cases member : key ∈ queue.order
  · rw [push_of_mem consistent member, if_pos member]
  · rw [push_of_not_mem consistent member, if_neg member]

theorem mem_order_push (consistent : queue.Consistent) :
    other ∈ (queue.push key item).order ↔ other = key ∨ other ∈ queue.order := by
  rw [order_push consistent]
  split
  · rename_i member
    exact ⟨Or.inr, fun either => either.elim (fun same => same ▸ member) id⟩
  · rw [List.mem_append, List.mem_singleton, or_comm]

theorem waiting_push (consistent : queue.Consistent) (key other : Key) (item : Item) :
    (queue.push key item).waiting other =
      if other = key then queue.waiting key ++ [item] else queue.waiting other := by
  by_cases member : key ∈ queue.order
  · rw [push_of_mem consistent member]
    by_cases same : other = key <;> simp [waiting, same]
  · have nothing : queue.waiting key = [] := by
      by_contra nonempty
      exact member (consistent.mem_order_iff.mpr nonempty)
    rw [push_of_not_mem consistent member, nothing]
    by_cases same : other = key <;> simp [waiting, same]

/-- A push changes no pass of a key already queued. -/
theorem passOf_push_of_mem (consistent : queue.Consistent) (queued : other ∈ queue.order)
    (key : Key) (item : Item) : (queue.push key item).passOf other = queue.passOf other := by
  by_cases member : key ∈ queue.order
  · rw [push_of_mem consistent member]
    rfl
  · have different : other ≠ key := fun same => member (same ▸ queued)
    rw [push_of_not_mem consistent member]
    simp [passOf, different]

/-- A newcomer joins at virtual time. -/
theorem passOf_push_self (consistent : queue.Consistent) (absent : key ∉ queue.order) (item : Item) :
    (queue.push key item).passOf key = queue.virtualTime := by
  rw [push_of_not_mem consistent absent]
  simp [passOf]

theorem consistent_push (consistent : queue.Consistent) (key : Key) (item : Item) :
    (queue.push key item).Consistent := by
  have nonempty : ∀ other ∈ (queue.push key item).order,
      (queue.push key item).waiting other ≠ [] := by
    intro other member
    rw [waiting_push consistent]
    split
    · exact List.append_ne_nil_of_right_ne_nil _ (List.cons_ne_nil _ _)
    · rename_i different
      rcases (mem_order_push consistent).mp member with same | queued
      · exact absurd same different
      · exact consistent.nonempty other queued
  by_cases member : key ∈ queue.order
  · rw [push_of_mem consistent member] at nonempty ⊢
    refine ⟨?_, consistent.passKeys, nonempty⟩
    rw [Dict.keys_set_of_mem _ (consistent.itemKeys ▸ member), consistent.itemKeys]
  · rw [push_of_not_mem consistent member] at nonempty ⊢
    refine ⟨?_, ?_, nonempty⟩
    · rw [Dict.keys_set_of_mem _ (Dict.mem_keys_set.mpr (Or.inl rfl)),
        Dict.keys_set_of_not_mem _ (consistent.itemKeys ▸ member), consistent.itemKeys]
    · rw [Dict.keys_set_of_not_mem _ (consistent.passKeys ▸ member), consistent.passKeys]

/-- Replacing what waits under a key replaces it among the queued items. -/
theorem queued_perm (queue : StrideQueue Key Item) (key : Key) :
    queue.queued.Perm (queue.waiting key ++ (queue.items.erase key).values.flatten) := by
  cases found : queue.items.get? key with
  | none =>
    rw [waiting, found, Dict.erase_of_not_mem (Dict.get?_eq_none_iff.mp found)]
    exact List.Perm.refl _
  | some value =>
    rw [waiting, found]
    exact (Dict.values_perm_of_get? found).flatten

/-- What is queued is what waits under some key. -/
theorem mem_queued : item ∈ queue.queued ↔ ∃ key, item ∈ queue.waiting key := by
  rw [queued, List.mem_flatten]
  constructor
  · rintro ⟨values, stored, member⟩
    obtain ⟨key, found⟩ := Dict.mem_values_iff.mp stored
    exact ⟨key, by rwa [waiting, found]⟩
  · rintro ⟨key, member⟩
    cases found : queue.items.get? key with
    | none =>
      rw [waiting, found] at member
      exact absurd member List.not_mem_nil
    | some values =>
      rw [waiting, found] at member
      exact ⟨values, Dict.mem_values_iff.mpr ⟨key, found⟩, member⟩

/-- A pushed item waits under its key; nothing else starts or stops waiting. -/
theorem mem_waiting_push (consistent : queue.Consistent) {other : Item} :
    other ∈ (queue.push key item).waiting owner ↔
      other ∈ queue.waiting owner ∨ (owner = key ∧ other = item) := by
  rw [waiting_push consistent]
  by_cases same : owner = key <;> simp [same]

open scoped List in
theorem queued_push (queue : StrideQueue Key Item) (consistent : queue.Consistent) (key : Key)
    (item : Item) : (queue.push key item).queued.Perm (item :: queue.queued) := by
  have erased : (queue.push key item).items.erase key = queue.items.erase key := by
    by_cases member : key ∈ queue.order
    · rw [push_of_mem consistent member, Dict.erase_set_self]
    · rw [push_of_not_mem consistent member, Dict.erase_set_self, Dict.erase_set_self]
  calc (queue.push key item).queued
      _ ~ (queue.push key item).waiting key
            ++ ((queue.push key item).items.erase key).values.flatten := queued_perm _ key
      _ = (queue.waiting key ++ [item]) ++ (queue.items.erase key).values.flatten := by
          rw [waiting_push consistent, if_pos rfl, erased]
      _ ~ item :: (queue.waiting key ++ (queue.items.erase key).values.flatten) := by
          rw [List.append_assoc]
          exact List.perm_middle
      _ ~ item :: queue.queued := (queued_perm queue key).symm.cons item

theorem depth_push (consistent : queue.Consistent) (key : Key) (item : Item) :
    (queue.push key item).depth = queue.depth + 1 := by
  rw [depth_eq, depth_eq, (queued_push queue consistent key item).length_eq, List.length_cons]

/-! ### Choosing -/

omit [DecidableEq Key] in
@[simp] theorem admitted_none (key : Key) : admitted none key = true := rfl

omit [DecidableEq Key] in
@[simp] theorem admitted_some (predicate : Key → Bool) (key : Key) :
    admitted (some predicate) key = predicate key := rfl

theorem mem_pending {queue : StrideQueue Key Item} (consistent : queue.Consistent)
    {admits : Option (Key → Bool)} {key : Key} :
    key ∈ queue.pending admits ↔ key ∈ queue.order ∧ admitted admits key = true := by
  rw [pending, List.mem_filter, Bool.and_eq_true, Bool.not_eq_true', List.isEmpty_eq_false_iff]
  constructor
  · rintro ⟨member, -, accepted⟩
    exact ⟨member, accepted⟩
  · rintro ⟨member, accepted⟩
    exact ⟨member, consistent.nonempty key member, accepted⟩

@[simp] theorem items_clampHeldOut (queue : StrideQueue Key Item) (admits : Option (Key → Bool)) :
    (queue.clampHeldOut admits).items = queue.items := by
  unfold clampHeldOut
  split
  · rfl
  · dsimp only
    split <;> rfl

@[simp] theorem order_clampHeldOut (queue : StrideQueue Key Item) (admits : Option (Key → Bool)) :
    (queue.clampHeldOut admits).order = queue.order := by
  unfold clampHeldOut
  split
  · rfl
  · dsimp only
    split <;> rfl

@[simp] theorem waiting_clampHeldOut (queue : StrideQueue Key Item) (admits : Option (Key → Bool))
    (key : Key) : (queue.clampHeldOut admits).waiting key = queue.waiting key := by
  rw [waiting, items_clampHeldOut, waiting]

theorem consistent_clampHeldOut (consistent : queue.Consistent) (admits : Option (Key → Bool)) :
    (queue.clampHeldOut admits).Consistent where
  itemKeys := by rw [items_clampHeldOut, order_clampHeldOut, consistent.itemKeys]
  passKeys := by
    rw [order_clampHeldOut]
    unfold clampHeldOut
    split
    · exact consistent.passKeys
    · dsimp only
      split
      · exact consistent.passKeys
      · rw [Dict.keys_mapValues, consistent.passKeys]
  nonempty key member := by
    rw [order_clampHeldOut] at member
    rw [waiting_clampHeldOut]
    exact consistent.nonempty key member

/-- The clamp leaves an admitted key's pass alone. -/
theorem passOf_clampHeldOut_of_admitted (accepted : admitted admits key = true) :
    (queue.clampHeldOut admits).passOf key = queue.passOf key := by
  cases admits with
  | none => rfl
  | some predicate =>
    rw [admitted_some] at accepted
    rw [clampHeldOut]
    split
    · rfl
    · cases found : queue.passes.get? key <;> simp [passOf, found, accepted]

/-- The clamp raises a held-out key to the least admitted pass, never lowers it. -/
theorem passOf_clampHeldOut_of_held (consistent : queue.Consistent) {served : Key}
    (member : key ∈ queue.order) (held : admitted admits key = false)
    (serves : served ∈ queue.order) (accepted : admitted admits served = true) :
    ∃ slowest ∈ queue.order, admitted admits slowest = true ∧
      (∀ other ∈ queue.order, admitted admits other = true →
        queue.passOf slowest ≤ queue.passOf other) ∧
      (queue.clampHeldOut admits).passOf key = max (queue.passOf key) (queue.passOf slowest) := by
  cases admits with
  | none => rw [admitted_none] at held; cases held
  | some predicate =>
    simp only [admitted_some] at held accepted ⊢
    have inFilter : ∀ other, other ∈ queue.items.keys.filter
        (fun key => !(queue.waiting key).isEmpty && predicate key) ↔
          other ∈ queue.order ∧ predicate other = true := by
      intro other
      rw [consistent.itemKeys]
      exact @mem_pending _ _ _ _ consistent (some predicate) other
    have stored := List.mem_map_of_mem (f := queue.passOf) ((inFilter served).mpr ⟨serves, accepted⟩)
    obtain ⟨level, least⟩ := Option.isSome_iff_exists.mp (List.isSome_min?_of_mem stored)
    obtain ⟨slowestMember, below⟩ := List.min?_eq_some_iff.mp least
    obtain ⟨slowest, slowestFilter, rfl⟩ := List.mem_map.mp slowestMember
    obtain ⟨slowestOrder, slowestAccepted⟩ := (inFilter slowest).mp slowestFilter
    refine ⟨slowest, slowestOrder, slowestAccepted, ?_, ?_⟩
    · intro other otherOrder otherAccepted
      exact below _ (List.mem_map_of_mem ((inFilter other).mpr ⟨otherOrder, otherAccepted⟩))
    · have busy : (queue.waiting key).isEmpty = false :=
        List.isEmpty_eq_false_iff.mpr (consistent.nonempty key member)
      have stored : queue.passes.get? key = some (queue.passOf key) := consistent.get?_passes member
      rw [clampHeldOut, least]
      simp only [passOf, Dict.get?_mapValues]
      rw [stored]
      simp [busy, held]

theorem consistent_advance (consistent : queue.Consistent) (member : chosen ∈ queue.order)
    (pass : ℚ) :
    ({ queue with passes := queue.passes.set chosen pass } : StrideQueue Key Item).Consistent where
  itemKeys := consistent.itemKeys
  passKeys := by
    rw [Dict.keys_set_of_mem _ (consistent.passKeys ▸ member)]
    exact consistent.passKeys
  nonempty := consistent.nonempty

theorem passOf_advance (queue : StrideQueue Key Item) (chosen other : Key) (pass : ℚ) :
    ({ queue with passes := queue.passes.set chosen pass } : StrideQueue Key Item).passOf other =
      if other = chosen then pass else queue.passOf other := by
  by_cases same : other = chosen <;> simp [passOf, same]

/-- All that choosing does: the least admitted key is picked and advanced by its stride, the
other admitted keys keep their passes, and a held-out key is raised to a level between the
chosen key's old and new pass. -/
structure Chosen (queue : StrideQueue Key Item) (weightOf : Key → WeightValue)
    (admits : Option (Key → Bool)) (chosen : Key) (advanced : StrideQueue Key Item) : Prop where
  member : chosen ∈ queue.order
  accepted : admitted admits chosen = true
  least : ∀ other ∈ queue.order, admitted admits other = true →
    queue.passOf chosen ≤ queue.passOf other
  items : advanced.items = queue.items
  order : advanced.order = queue.order
  consistent : advanced.Consistent
  passOf_self : advanced.passOf chosen = queue.passOf chosen + stride (weightOf chosen)
  passOf_admitted : ∀ other ∈ queue.order, other ≠ chosen → admitted admits other = true →
    advanced.passOf other = queue.passOf other
  passOf_held : ∀ other ∈ queue.order, admitted admits other = false →
    ∃ level, queue.passOf chosen ≤ level ∧
      level ≤ queue.passOf chosen + stride (weightOf chosen) ∧
      advanced.passOf other = max (queue.passOf other) level

theorem choose_eq_none_iff {queue : StrideQueue Key Item} {weightOf : Key → WeightValue}
    {admits : Option (Key → Bool)} :
    queue.choose weightOf admits = none ↔ queue.pending admits = [] := by
  rw [choose, Option.map_eq_none_iff, List.argmin_eq_none]

theorem choose_spec (consistent : queue.Consistent) {advanced : StrideQueue Key Item}
    (chooses : queue.choose weightOf admits = some (chosen, advanced)) :
    Chosen queue weightOf admits chosen advanced := by
  obtain ⟨key, picked, pair⟩ := Option.map_eq_some_iff.mp chooses
  rw [Prod.mk.injEq] at pair
  obtain ⟨rfl, rfl⟩ := pair
  obtain ⟨member, accepted⟩ := (mem_pending consistent).mp (List.argmin_mem picked)
  have least : ∀ other ∈ queue.order, admitted admits other = true →
      queue.passOf key ≤ queue.passOf other := by
    intro other otherMember otherAccepted
    have below := List.le_of_mem_argmin ((mem_pending consistent).mpr ⟨otherMember, otherAccepted⟩)
      picked
    rcases (Prod.Lex.le_iff).mp below with less | ⟨equal, _⟩
    · exact le_of_lt less
    · exact le_of_eq equal
  have advancedConsistent := consistent_advance consistent member
    (queue.passOf key + stride (weightOf key))
  refine
    { member, accepted, least
      items := items_clampHeldOut _ admits
      order := order_clampHeldOut _ admits
      consistent := consistent_clampHeldOut advancedConsistent admits
      passOf_self := ?_
      passOf_admitted := ?_
      passOf_held := ?_ }
  · rw [passOf_clampHeldOut_of_admitted accepted, passOf_advance, if_pos rfl]
  · intro other _ different otherAccepted
    rw [passOf_clampHeldOut_of_admitted otherAccepted, passOf_advance, if_neg different]
  · intro other otherMember held
    obtain ⟨slowest, slowestMember, slowestAccepted, below, clamped⟩ :=
      passOf_clampHeldOut_of_held advancedConsistent otherMember held member accepted
    have different : other ≠ key := by
      rintro rfl
      rw [accepted] at held
      cases held
    refine ⟨_, ?_, ?_, by rw [clamped, passOf_advance, if_neg different]⟩
    · -- the level is an admitted key's pass after the advance, so at least the chosen one's before
      rw [passOf_advance]
      split
      · linarith [stride_nonneg (weightOf key)]
      · exact least slowest slowestMember slowestAccepted
    · have bound := below key member accepted
      rwa [passOf_advance queue key key, if_pos rfl] at bound

/-! ### Leaving -/

theorem order_settle (queue : StrideQueue Key Item) (key : Key) (rest : List Item) :
    (queue.settle key rest).order = if rest = [] then queue.order.erase key else queue.order := by
  cases rest <;> rfl

theorem waiting_settle (queue : StrideQueue Key Item) (key other : Key) (rest : List Item) :
    (queue.settle key rest).waiting other = if other = key then rest else queue.waiting other := by
  cases rest with
  | nil => by_cases same : other = key <;> simp [settle, prune, waiting, same]
  | cons first more => by_cases same : other = key <;> simp [settle, waiting, same]

theorem passOf_settle (queue : StrideQueue Key Item) (stays : rest = [] → other ≠ key) :
    (queue.settle key rest).passOf other = queue.passOf other := by
  cases rest with
  | nil => simp [settle, prune, passOf, stays rfl]
  | cons first more => rfl

theorem consistent_settle (consistent : queue.Consistent) (member : key ∈ queue.order)
    (rest : List Item) : (queue.settle key rest).Consistent := by
  have nonempty : ∀ other ∈ (queue.settle key rest).order,
      (queue.settle key rest).waiting other ≠ [] := by
    intro other otherMember
    rw [order_settle] at otherMember
    rw [waiting_settle]
    by_cases drained : rest = []
    · rw [if_pos drained] at otherMember
      obtain ⟨different, queued⟩ := (consistent.nodup.mem_erase_iff).mp otherMember
      rw [if_neg different]
      exact consistent.nonempty other queued
    · rw [if_neg drained] at otherMember
      split
      · exact drained
      · exact consistent.nonempty other otherMember
  have setKeys : (queue.items.set key rest).keys = queue.order := by
    rw [Dict.keys_set_of_mem _ (consistent.itemKeys ▸ member), consistent.itemKeys]
  cases rest with
  | nil =>
    refine ⟨?_, ?_, nonempty⟩
    · show ((queue.items.set key []).erase key).keys = queue.order.erase key
      rw [Dict.keys_erase, setKeys]
    · show (queue.passes.erase key).keys = queue.order.erase key
      rw [Dict.keys_erase, consistent.passKeys]
  | cons first more => exact ⟨setKeys, consistent.passKeys, nonempty⟩

/-- Forgetting a key forgets it in all three tables. -/
theorem consistent_prune (consistent : queue.Consistent) (key : Key) :
    (queue.prune key).Consistent where
  itemKeys := by
    rw [prune, Dict.keys_erase, consistent.itemKeys]
  passKeys := by
    rw [prune, Dict.keys_erase, consistent.passKeys]
  nonempty other member := by
    obtain ⟨different, queued⟩ := consistent.nodup.mem_erase_iff.mp member
    rw [waiting, prune, Dict.get?_erase, if_neg different]
    exact consistent.nonempty other queued

theorem order_foldl_prune (queue : StrideQueue Key Item) (keys : List Key) :
    (keys.foldl prune queue).order = keys.foldl List.erase queue.order := by
  induction keys generalizing queue with
  | nil => rfl
  | cons key keys inductionHypothesis => exact inductionHypothesis (queue.prune key)

theorem consistent_foldl_prune (consistent : queue.Consistent) (keys : List Key) :
    (keys.foldl prune queue).Consistent := by
  induction keys generalizing queue with
  | nil => exact consistent
  | cons key keys inductionHypothesis => exact inductionHypothesis (consistent_prune consistent key)

/-- A consistent queue with no key queues nothing. -/
theorem Consistent.queued_eq_nil (consistent : queue.Consistent) (nothing : queue.order = []) :
    queue.queued = [] := by
  refine List.eq_nil_iff_forall_not_mem.mpr fun item member => ?_
  obtain ⟨key, waits⟩ := mem_queued.mp member
  have queued := consistent.mem_order_iff.mpr (List.ne_nil_of_mem waits)
  rw [nothing] at queued
  exact List.not_mem_nil queued

theorem queued_settle (queue : StrideQueue Key Item) (key : Key) (rest : List Item) :
    (queue.settle key rest).queued.Perm (rest ++ (queue.items.erase key).values.flatten) := by
  have split := queued_perm (queue.settle key rest) key
  rw [waiting_settle, if_pos rfl] at split
  cases rest with
  | nil => simpa [settle, prune] using split
  | cons first more => simpa [settle] using split

/-- All that a pop does: the chosen key loses its oldest item and leaves when that was its
last; passes move as choosing moves them. -/
structure Popped (queue : StrideQueue Key Item) (weightOf : Key → WeightValue)
    (admits : Option (Key → Bool)) (key : Key) (item : Item) (rest : List Item)
    (after : StrideQueue Key Item) : Prop where
  member : key ∈ queue.order
  accepted : admitted admits key = true
  least : ∀ other ∈ queue.order, admitted admits other = true →
    queue.passOf key ≤ queue.passOf other
  waiting_before : queue.waiting key = item :: rest
  waiting_after : ∀ other, after.waiting other = if other = key then rest else queue.waiting other
  order : after.order = if rest = [] then queue.order.erase key else queue.order
  consistent : after.Consistent
  passOf_self : key ∈ after.order →
    after.passOf key = queue.passOf key + stride (weightOf key)
  passOf_admitted : ∀ other ∈ after.order, other ≠ key → admitted admits other = true →
    after.passOf other = queue.passOf other
  passOf_held : ∀ other ∈ after.order, admitted admits other = false →
    ∃ level, queue.passOf key ≤ level ∧ level ≤ queue.passOf key + stride (weightOf key) ∧
      after.passOf other = max (queue.passOf other) level
  queued : queue.queued.Perm (item :: after.queued)

theorem pop_spec (consistent : queue.Consistent)
    (pops : queue.pop weightOf admits = some ((key, item), after)) :
    ∃ rest, Popped queue weightOf admits key item rest after := by
  unfold pop at pops
  split at pops
  · cases pops
  · rename_i chosen advanced chooses
    have spec := choose_spec consistent chooses
    have sameWaiting : ∀ other, advanced.waiting other = queue.waiting other := by
      intro other
      rw [waiting, spec.items, waiting]
    have inOrder : chosen ∈ advanced.order := spec.order ▸ spec.member
    split at pops
    · cases pops
    · rename_i first rest head
      simp only [Option.some.injEq, Prod.mk.injEq] at pops
      obtain ⟨⟨rfl, rfl⟩, rfl⟩ := pops
      rw [sameWaiting] at head
      have order : (advanced.settle chosen rest).order =
          if rest = [] then queue.order.erase chosen else queue.order := by
        rw [order_settle, spec.order]
      have remains : ∀ other ∈ (advanced.settle chosen rest).order,
          other ∈ queue.order ∧ (rest = [] → other ≠ chosen) := by
        intro other member
        rw [order] at member
        split at member
        · rename_i drained
          obtain ⟨different, queued⟩ := (consistent.nodup.mem_erase_iff).mp member
          exact ⟨queued, fun _ => different⟩
        · rename_i left
          exact ⟨member, fun drained => absurd drained left⟩
      refine ⟨rest,
        { member := spec.member
          accepted := spec.accepted
          least := spec.least
          waiting_before := head
          waiting_after := ?_
          order := order
          consistent := consistent_settle spec.consistent inOrder rest
          passOf_self := ?_
          passOf_admitted := ?_
          passOf_held := ?_
          queued := ?_ }⟩
      · intro other
        rw [waiting_settle, sameWaiting]
      · intro member
        rw [passOf_settle advanced (remains _ member).2, spec.passOf_self]
      · intro other member different accepted
        rw [passOf_settle advanced (remains _ member).2]
        exact spec.passOf_admitted other (remains _ member).1 different accepted
      · intro other member held
        rw [passOf_settle advanced (remains _ member).2]
        exact spec.passOf_held other (remains _ member).1 held
      · have before := queued_perm queue chosen
        rw [head, List.cons_append] at before
        have settled := queued_settle advanced chosen rest
        rw [spec.items] at settled
        exact before.trans (settled.symm.cons first)

/-- When no item is queued twice, a pop takes one item and leaves the others where they wait. -/
theorem Popped.mem_waiting_iff (spec : Popped queue weightOf admits key item rest after)
    (distinct : queue.queued.Nodup) {other : Item} :
    other ∈ after.waiting owner ↔ other ∈ queue.waiting owner ∧ other ≠ item := by
  have absent : item ∉ after.queued := (List.nodup_cons.mp (spec.queued.nodup_iff.mp distinct)).1
  constructor
  · intro member
    refine ⟨?_, fun same => absent (mem_queued.mpr ⟨owner, same ▸ member⟩)⟩
    rw [spec.waiting_after] at member
    split at member
    · rename_i same
      rw [same, spec.waiting_before]
      exact List.mem_cons_of_mem _ member
    · exact member
  · rintro ⟨member, different⟩
    rw [spec.waiting_after]
    split
    · rename_i same
      rw [same, spec.waiting_before] at member
      exact List.mem_of_ne_of_mem different member
    · exact member

theorem Popped.depth (spec : Popped queue weightOf admits key item rest after) :
    queue.depth = after.depth + 1 := by
  rw [depth_eq, depth_eq, spec.queued.length_eq, List.length_cons]

/-- Nothing is popped exactly when no admitted key waits. -/
theorem pop_eq_none_iff (consistent : queue.Consistent) :
    queue.pop weightOf admits = none ↔ ∀ key ∈ queue.order, admitted admits key = false := by
  have pendingNil : queue.pending admits = [] ↔
      ∀ key ∈ queue.order, admitted admits key = false := by
    rw [List.eq_nil_iff_forall_not_mem]
    refine forall_congr' fun key => ?_
    rw [mem_pending consistent, not_and, Bool.not_eq_true]
  rw [← pendingNil, ← @choose_eq_none_iff _ _ _ _ weightOf]
  unfold pop
  split
  · rename_i chooses
    simp [chooses]
  · rename_i chosen advanced chooses
    have spec := choose_spec consistent chooses
    have nonempty : advanced.waiting chosen ≠ [] :=
      spec.consistent.nonempty chosen (spec.order ▸ spec.member)
    rw [chooses]
    split
    · rename_i nothing
      exact absurd nothing nonempty
    · simp

/-- All that a discard does: the item leaves its key's queue, or nothing changes. -/
theorem discard_spec [DecidableEq Item] (consistent : queue.Consistent) (key : Key) (item : Item) :
    (item ∉ queue.waiting key ∧ queue.discard key item = (false, queue)) ∨
      (item ∈ queue.waiting key ∧ key ∈ queue.order ∧
        queue.discard key item = (true, queue.settle key ((queue.waiting key).erase item))) := by
  by_cases member : key ∈ queue.order
  · have found := consistent.get?_items member
    unfold discard
    simp only [found]
    by_cases inside : item ∈ queue.waiting key
    · exact Or.inr ⟨inside, member, if_pos inside⟩
    · exact Or.inl ⟨inside, if_neg inside⟩
  · have nothing : queue.items.get? key = none :=
      Dict.get?_eq_none_iff.mpr (consistent.itemKeys ▸ member)
    refine Or.inl ⟨?_, by simp [discard, nothing]⟩
    simp [waiting, nothing]

/-- What a successful discard takes from the queued items. -/
theorem queued_discard [DecidableEq Item] (consistent : queue.Consistent)
    (member : item ∈ queue.waiting key) :
    queue.queued.Perm (item :: (queue.discard key item).2.queued) := by
  rcases discard_spec consistent key item with ⟨absent, _⟩ | ⟨_, _, settled⟩
  · exact absurd member absent
  · rw [settled]
    have before := queued_perm queue key
    have taken := (List.perm_cons_erase member).append_right
      (queue.items.erase key).values.flatten
    exact before.trans (taken.trans ((queued_settle queue key _).symm.cons item))

/-- When no item is queued twice, a discard takes one item and leaves the others where they
wait. -/
theorem mem_waiting_discard [DecidableEq Item] (consistent : queue.Consistent)
    (distinct : queue.queued.Nodup) {other : Item}
    (home : ∀ elsewhere, item ∈ queue.waiting elsewhere → elsewhere = key) :
    other ∈ (queue.discard key item).2.waiting owner ↔
      other ∈ queue.waiting owner ∧ other ≠ item := by
  rcases discard_spec consistent key item with ⟨absent, same⟩ | ⟨member, _, settled⟩
  · rw [same]
    refine ⟨fun stays => ⟨stays, ?_⟩, And.left⟩
    rintro rfl
    exact absent (home owner stays ▸ stays)
  · have once : (queue.waiting key).Nodup :=
      (List.nodup_append.mp ((queued_perm queue key).nodup_iff.mp distinct)).1
    rw [settled, waiting_settle]
    split
    · rename_i same
      rw [same, once.mem_erase_iff, and_comm]
    · rename_i different
      refine ⟨fun stays => ⟨stays, ?_⟩, And.left⟩
      rintro rfl
      exact different (home owner stays)

theorem queued_discard_subperm [DecidableEq Item] (consistent : queue.Consistent) (key : Key)
    (item : Item) : (queue.discard key item).2.queued.Subperm queue.queued := by
  by_cases member : item ∈ queue.waiting key
  · exact (List.sublist_cons_self item _).subperm.trans
      (queued_discard consistent member).symm.subperm
  · rcases discard_spec consistent key item with ⟨_, same⟩ | ⟨inside, _⟩
    · rw [same]
    · exact absurd inside member

theorem consistent_discard [DecidableEq Item] (consistent : queue.Consistent) (key : Key)
    (item : Item) : (queue.discard key item).2.Consistent := by
  rcases discard_spec consistent key item with ⟨_, same⟩ | ⟨_, member, settled⟩
  · rw [same]
    exact consistent
  · rw [settled]
    exact consistent_settle consistent member _

end StrideQueue

end Omnitensor
