/-
This file proves that stride scheduling is proportionally fair over whole runs.

A run is any sequence of pushes, pops and discards on an empty queue; weights and
admission may change from one pop to the next. In every state reached the three
tables are consistent and the passes of all queued keys lie within one of each
other: a newcomer joins at the least pass, a pop serves the least admitted pass and
advances it by at most one, and the clamp raises a held-out pass no further than
the served one. Keys that stay queued and admitted at constant weights are
therefore served in proportion over any stretch of a run.
-/

import Mathlib.Tactic.FieldSimp
import Mathlib.Tactic.Ring
import Omnitensor.StrideQueue
import Omnitensor.VirtualTime

namespace Omnitensor

/-- One call on a stride queue, with the callbacks that call is given. -/
inductive StrideOp (Key Item : Type) where
  | push (key : Key) (item : Item)
  | pop (weightOf : Key → WeightValue) (admits : Option (Key → Bool))
  | discard (key : Key) (item : Item)

/-- A pop admits a key and gives it a weight; other calls ask nothing of either. -/
def StrideOp.Grants {Key Item : Type} (key : Key) (weight : Int) : StrideOp Key Item → Prop
  | .push _ _ => True
  | .pop weightOf admits => admitted admits key = true ∧ strideWeight (weightOf key) = weight
  | .discard _ _ => True

instance {Key Item : Type} (key : Key) (weight : Int) :
    (op : StrideOp Key Item) → Decidable (op.Grants key weight)
  | .push _ _ => inferInstanceAs (Decidable True)
  | .pop _ _ => inferInstanceAs (Decidable (_ ∧ _))
  | .discard _ _ => inferInstanceAs (Decidable True)

namespace StrideQueue

variable {Key Item : Type} [DecidableEq Key] [DecidableEq Item]

/-! ### Runs -/

/-- The queue after one call. -/
def after (queue : StrideQueue Key Item) : StrideOp Key Item → StrideQueue Key Item
  | .push key item => queue.push key item
  | .pop weightOf admits =>
    match queue.pop weightOf admits with
    | none => queue
    | some (_, rest) => rest
  | .discard key item => (queue.discard key item).2

/-- The key one call serves: the one a pop takes an item from. -/
def serves (queue : StrideQueue Key Item) : StrideOp Key Item → Option Key
  | .push _ _ => none
  | .pop weightOf admits => (queue.pop weightOf admits).map fun popped => popped.1.1
  | .discard _ _ => none

/-- The queue after a sequence of calls. -/
def run (queue : StrideQueue Key Item) (ops : List (StrideOp Key Item)) : StrideQueue Key Item :=
  ops.foldl after queue

/-- The keys a sequence of calls serves, in order. -/
def served (queue : StrideQueue Key Item) : List (StrideOp Key Item) → List Key
  | [] => []
  | op :: ops => (queue.serves op).toList ++ (queue.after op).served ops

@[simp] theorem run_nil (queue : StrideQueue Key Item) : queue.run [] = queue := rfl

@[simp] theorem run_cons (queue : StrideQueue Key Item) (op : StrideOp Key Item)
    (ops : List (StrideOp Key Item)) : queue.run (op :: ops) = (queue.after op).run ops := rfl

theorem run_append (queue : StrideQueue Key Item) (first second : List (StrideOp Key Item)) :
    queue.run (first ++ second) = (queue.run first).run second :=
  List.foldl_append

variable {queue left : StrideQueue Key Item} {key : Key} {weight : Int}
  {weightOf : Key → WeightValue} {admits : Option (Key → Bool)} {item : Item} {rest : List Item}
  {ops : List (StrideOp Key Item)}

/-- A pop either finds no admitted key and changes nothing, or takes an item as `Popped`
says. -/
theorem after_pop (consistent : queue.Consistent) (weightOf : Key → WeightValue)
    (admits : Option (Key → Bool)) :
    (queue.serves (.pop weightOf admits) = none ∧ queue.after (.pop weightOf admits) = queue ∧
        ∀ key ∈ queue.order, admitted admits key = false) ∨
      ∃ key item rest, queue.serves (.pop weightOf admits) = some key ∧
        Popped queue weightOf admits key item rest (queue.after (.pop weightOf admits)) := by
  cases pops : queue.pop weightOf admits with
  | none =>
    refine Or.inl ⟨by rw [serves, pops]; rfl, by rw [after, pops], ?_⟩
    exact (pop_eq_none_iff consistent).mp pops
  | some popped =>
    obtain ⟨⟨key, item⟩, left⟩ := popped
    obtain ⟨rest, spec⟩ := pop_spec consistent pops
    refine Or.inr ⟨key, item, rest, by rw [serves, pops]; rfl, ?_⟩
    rw [after, pops]
    exact spec

theorem consistent_after (consistent : queue.Consistent) (op : StrideOp Key Item) :
    (queue.after op).Consistent := by
  cases op with
  | push key item => exact consistent_push consistent key item
  | pop weightOf admits =>
    rcases after_pop consistent weightOf admits with ⟨_, same, _⟩ | ⟨_, _, _, _, spec⟩
    · rw [same]
      exact consistent
    · exact spec.consistent
  | discard key item => exact consistent_discard consistent key item

/-! ### The window invariant -/

/-- The passes of all queued keys lie within one of each other. -/
def Windowed (queue : StrideQueue Key Item) : Prop :=
  VirtualTime.Within 1 {key | key ∈ queue.order} queue.passOf

omit [DecidableEq Item] in
theorem windowed_push (consistent : queue.Consistent) (windowed : queue.Windowed) (key : Key)
    (item : Item) : (queue.push key item).Windowed := by
  have unchanged : ∀ other ∈ {key | key ∈ queue.order},
      (queue.push key item).passOf other = queue.passOf other :=
    fun other member => passOf_push_of_mem consistent member key item
  by_cases member : key ∈ queue.order
  · refine windowed.mono (fun other inside => ?_) fun other inside => unchanged other ?_ <;>
    · rcases (mem_order_push consistent).mp inside with rfl | queued
      · exact member
      · exact queued
  · have joined := windowed.join zero_le_one unchanged fun other otherMember => by
      rw [passOf_push_self consistent member]
      obtain ⟨slowest, slowestMember, level⟩ := consistent.exists_virtualTime otherMember
      exact ⟨slowest, slowestMember, level.symm⟩
    refine joined.mono (fun other inside => ?_) fun _ _ => rfl
    exact (mem_order_push consistent).mp inside

omit [DecidableEq Item] in
theorem windowed_settle (consistent : queue.Consistent) (windowed : queue.Windowed) (key : Key)
    (rest : List Item) : (queue.settle key rest).Windowed := by
  have remains : ∀ other ∈ (queue.settle key rest).order,
      other ∈ queue.order ∧ (rest = [] → other ≠ key) := by
    intro other member
    rw [order_settle] at member
    split at member
    · obtain ⟨different, queued⟩ := (consistent.nodup.mem_erase_iff).mp member
      exact ⟨queued, fun _ => different⟩
    · rename_i left
      exact ⟨member, fun drained => absurd drained left⟩
  exact windowed.mono (fun other inside => (remains other inside).1)
    fun other inside => passOf_settle queue (remains other inside).2

omit [DecidableEq Item] in
theorem Popped.mem_order {other : Key} (spec : Popped queue weightOf admits key item rest left)
    (member : other ∈ left.order) : other ∈ queue.order := by
  rw [spec.order] at member
  split at member
  · exact List.mem_of_mem_erase member
  · exact member

omit [DecidableEq Item] in
theorem windowed_popped (windowed : queue.Windowed)
    (spec : Popped queue weightOf admits key item rest left) : left.Windowed := by
  refine windowed.serve (fun other => admitted admits other = true) spec.member spec.least
    (stride_nonneg (weightOf key)) (stride_le_one (weightOf key))
    (fun other inside => spec.mem_order inside) spec.passOf_self spec.passOf_admitted ?_ spec.accepted
  intro other inside held
  exact spec.passOf_held other inside (Bool.not_eq_true _ ▸ held)

theorem windowed_after (consistent : queue.Consistent) (windowed : queue.Windowed)
    (op : StrideOp Key Item) : (queue.after op).Windowed := by
  cases op with
  | push key item => exact windowed_push consistent windowed key item
  | pop weightOf admits =>
    rcases after_pop consistent weightOf admits with ⟨_, same, _⟩ | ⟨_, _, _, _, spec⟩
    · rw [same]
      exact windowed
    · exact windowed_popped windowed spec
  | discard key item =>
    rcases discard_spec consistent key item with ⟨_, same⟩ | ⟨_, _, settled⟩
    · show (queue.discard key item).2.Windowed
      rw [same]
      exact windowed
    · show (queue.discard key item).2.Windowed
      rw [settled]
      exact windowed_settle consistent windowed key _

/-- Every state of every run is consistent and windowed. -/
theorem invariant_run (consistent : queue.Consistent) (windowed : queue.Windowed)
    (ops : List (StrideOp Key Item)) : (queue.run ops).Consistent ∧ (queue.run ops).Windowed := by
  induction ops generalizing queue with
  | nil => exact ⟨consistent, windowed⟩
  | cons op ops inductionHypothesis =>
    exact inductionHypothesis (consistent_after consistent op)
      (windowed_after consistent windowed op)

omit [DecidableEq Item] in
theorem windowed_empty : (empty : StrideQueue Key Item).Windowed :=
  fun _ member => absurd member List.not_mem_nil

/-! ### Proportional fairness -/

/-- Throughout a stretch of calls a key stays queued, and every pop admits it at one effective
weight. -/
def Contends (key : Key) (weight : Int) (queue : StrideQueue Key Item) :
    List (StrideOp Key Item) → Prop
  | [] => queue.waiting key ≠ []
  | op :: ops =>
    queue.waiting key ≠ [] ∧ op.Grants key weight ∧ Contends key weight (queue.after op) ops

instance decidableContends (key : Key) (weight : Int) :
    (queue : StrideQueue Key Item) → (ops : List (StrideOp Key Item)) →
      Decidable (Contends key weight queue ops)
  | queue, [] => inferInstanceAs (Decidable (queue.waiting key ≠ []))
  | queue, op :: ops =>
    have := decidableContends key weight (queue.after op) ops
    inferInstanceAs (Decidable (_ ∧ _ ∧ _))

omit [DecidableEq Item] in
/-- A contender's pass moves in step with the items popped for it. -/
theorem passOf_popped_contender {chosen : Key}
    (spec : Popped queue weightOf admits chosen item rest left)
    (grants : admitted admits key = true ∧ strideWeight (weightOf key) = weight)
    (stays : key ∈ left.order) :
    left.passOf key = queue.passOf key + (if chosen = key then 1 else 0 : ℚ) / weight := by
  by_cases same : chosen = key
  · subst same
    rw [spec.passOf_self stays, stride, grants.2, if_pos rfl]
  · rw [spec.passOf_admitted key stays (Ne.symm same) grants.1, if_neg same, zero_div, add_zero]

theorem Contends.waiting_ne_nil (contends : Contends key weight queue ops) :
    queue.waiting key ≠ [] := by
  cases ops with
  | nil => exact contends
  | cons op ops => exact contends.1

theorem Contends.waiting_run_ne_nil (contends : Contends key weight queue ops) :
    (queue.run ops).waiting key ≠ [] := by
  induction ops generalizing queue with
  | nil => exact contends
  | cons op ops inductionHypothesis => exact inductionHypothesis contends.2.2

/-- Over a stretch a contender's pass advances by one stride for each item popped for it. -/
theorem passOf_run_contender (consistent : queue.Consistent)
    (contends : Contends key weight queue ops) :
    (queue.run ops).passOf key =
      queue.passOf key + ((queue.served ops).count key : ℚ) / weight := by
  induction ops generalizing queue with
  | nil => simp [served]
  | cons op ops inductionHypothesis =>
    obtain ⟨waits, grants, continues⟩ := contends
    have later := consistent_after consistent op
    have member : key ∈ queue.order := consistent.mem_order_iff.mpr waits
    have stays : key ∈ (queue.after op).order :=
      later.mem_order_iff.mpr continues.waiting_ne_nil
    rw [run_cons, inductionHypothesis later continues, served, List.count_append, Nat.cast_add,
      add_div, ← add_assoc]
    congr 1
    cases op with
    | push other item =>
      rw [after, passOf_push_of_mem consistent member]
      simp [serves]
    | pop weightOf admits =>
      rcases after_pop consistent weightOf admits with ⟨nothing, same, _⟩ | ⟨chosen, _, _, taken, spec⟩
      · rw [nothing, same]
        simp
      · rw [passOf_popped_contender spec grants stays, taken, Option.toList_some, List.count_singleton]
        by_cases same : chosen = key <;> simp [same]
    | discard other item =>
      have unchanged : (queue.after (.discard other item)).passOf key = queue.passOf key := by
        rcases discard_spec consistent other item with ⟨_, same⟩ | ⟨_, _, settled⟩
        · rw [after, same]
        · rw [after, settled] at stays ⊢
          refine passOf_settle queue fun drained => ?_
          rintro rfl
          rw [order_settle, if_pos drained] at stays
          exact (consistent.nodup.mem_erase_iff.mp stays).1 rfl
      rw [unchanged]
      simp [serves]

/-- Stride scheduling is proportionally fair: over any stretch of any run in which two keys
stay queued, admitted and at constant weights, the numbers of items popped for them differ by
at most two strides. -/
theorem proportionally_fair (history stretch : List (StrideOp Key Item)) (first second : Key)
    (firstWeight secondWeight : Int)
    (firstContends : Contends first firstWeight (empty.run history) stretch)
    (secondContends : Contends second secondWeight (empty.run history) stretch) :
    |((served (empty.run history) stretch).count first : ℚ) / firstWeight
        - ((served (empty.run history) stretch).count second : ℚ) / secondWeight| ≤ 2 := by
  obtain ⟨consistent, windowed⟩ := invariant_run
    (consistent_empty : (empty : StrideQueue Key Item).Consistent) windowed_empty history
  obtain ⟨laterConsistent, laterWindowed⟩ := invariant_run consistent windowed stretch
  have firstAdvance := passOf_run_contender consistent firstContends
  have secondAdvance := passOf_run_contender consistent secondContends
  have drift := windowed.drift_le laterWindowed
    (consistent.mem_order_iff.mpr firstContends.waiting_ne_nil)
    (consistent.mem_order_iff.mpr secondContends.waiting_ne_nil)
    (laterConsistent.mem_order_iff.mpr firstContends.waiting_run_ne_nil)
    (laterConsistent.mem_order_iff.mpr secondContends.waiting_run_ne_nil)
  rw [firstAdvance, secondAdvance, add_sub_cancel_left, add_sub_cancel_left] at drift
  calc _ ≤ (1 : ℚ) + 1 := drift
    _ = 2 := by norm_num

/-- A weight-five key and a weight-one key contend over three pops, while a held-out key and a
newcomer come between. -/
theorem proportionally_fair_five_to_one :
    let weightOf : String → WeightValue := fun key => .integer (if key = "alpha" then 5 else 1)
    let history : List (StrideOp String Nat) :=
      [.push "alpha" 0, .push "alpha" 1, .push "alpha" 2, .push "beta" 3, .push "beta" 4,
        .push "held" 5]
    let stretch : List (StrideOp String Nat) :=
      [.pop weightOf (some fun key => key ≠ "held"), .push "new" 6, .pop weightOf none,
        .discard "new" 6, .pop weightOf none]
    |((served (empty.run history) stretch).count "alpha" : ℚ) / (5 : Int)
        - ((served (empty.run history) stretch).count "beta" : ℚ) / (1 : Int)| ≤ 2 :=
  proportionally_fair _ _ "alpha" "beta" 5 1 (by decide +kernel) (by decide +kernel)

/-- Over any stretch of any run, each of some keys that stay queued and admitted at constant weights gets
its share of the items popped for all of them: to its weight, within two strides, as all are to all. -/
theorem gets_share (history stretch : List (StrideOp Key Item)) (keys : Finset Key)
    (weight : Key → WeightValue) (contend : ∀ key ∈ keys,
      Contends key (strideWeight (weight key)) (empty.run history) stretch)
    (key : Key) (member : key ∈ keys) :
    |((served (empty.run history) stretch).count key : ℚ) / strideWeight (weight key)
        - (∑ other ∈ keys, ((served (empty.run history) stretch).count other : ℚ))
          / ∑ other ∈ keys, (strideWeight (weight other) : ℚ)| ≤ 2 := by
  obtain ⟨consistent, windowed⟩ := invariant_run
    (consistent_empty : (empty : StrideQueue Key Item).Consistent) windowed_empty history
  obtain ⟨laterConsistent, laterWindowed⟩ := invariant_run consistent windowed stretch
  have positive : ∀ other, 0 < (strideWeight (weight other) : ℚ) := fun other =>
    Int.cast_pos.mpr (one_le_strideWeight (weight other))
  have advance : ∀ other ∈ keys, ((served (empty.run history) stretch).count other : ℚ) =
      strideWeight (weight other) * (((empty.run history).run stretch).passOf other
        - (empty.run history).passOf other) := by
    intro other among
    rw [passOf_run_contender consistent (contend other among), add_sub_cancel_left,
      mul_div_cancel₀ _ (positive other).ne']
  rw [Finset.sum_congr rfl advance, advance key member, mul_div_cancel_left₀ _ (positive key).ne']
  simp only [mul_sub, Finset.sum_sub_distrib, sub_div]
  rw [sub_sub_sub_comm]
  calc _ ≤ _ := abs_sub _ _
    _ ≤ (1 : ℚ) + 1 := add_le_add
      (laterWindowed.abs_sub_mean_le (fun other among => laterConsistent.mem_order_iff.mpr
        (contend other among).waiting_run_ne_nil) (fun other _ => positive other) member)
      (windowed.abs_sub_mean_le (fun other among => consistent.mem_order_iff.mpr
        (contend other among).waiting_ne_nil) (fun other _ => positive other) member)
    _ = 2 := by norm_num

/-- A weight-five key and a weight-one key share two pops. -/
theorem gets_share_two :
    let weight : String → WeightValue := fun key => .integer (if key = "alpha" then 5 else 1)
    let history : List (StrideOp String Nat) :=
      [.push "alpha" 0, .push "alpha" 1, .push "beta" 2, .push "beta" 3]
    let stretch : List (StrideOp String Nat) := [.pop weight none, .pop weight none]
    |((served (empty.run history) stretch).count "alpha" : ℚ) / strideWeight (weight "alpha")
        - (∑ other ∈ {"alpha", "beta"}, ((served (empty.run history) stretch).count other : ℚ))
          / ∑ other ∈ {"alpha", "beta"}, (strideWeight (weight other) : ℚ)| ≤ 2 := by
  intro weight history stretch
  exact gets_share history stretch {"alpha", "beta"} weight (by decide +kernel) "alpha" (by decide)

end StrideQueue

end Omnitensor
