/-
This file keeps the books of a stride queue over whole runs.

A run is any sequence of pushes, pops, discards, clamps and degradations, and of calls whose callback
raises. What leaves is recorded, with the key it waited under and the way it left. After every run the
three tables have the same keys, and the books balance for each key: what was pushed is what left and
what still waits, and what was not discarded leaves in the order in which it was pushed.
-/

import Omnitensor.Scheduler

namespace Omnitensor

/-- A way to leave a queue. -/
inductive Leaving where
  | popped
  | discarded
  | degraded
  deriving DecidableEq

/-- An item that left, from under its key. -/
structure Departure (Key Item : Type) where
  key : Key
  item : Item
  way : Leaving
  deriving DecidableEq

/-- A call on a stride queue, with the callbacks that it is given. -/
inductive QueueCall (Key Item : Type) where
  | push (key : Key) (item : Item)
  | pop (weightOf : Key → WeightValue) (admits : Option (Key → Bool))
  /-- A pop or a clamp whose callback raises has moved passes at most. -/
  | interrupted (passes : Key → ℚ)
  | discard (key : Key) (item : Item)
  | clamp (admits : Option (Key → Bool))
  | degrade

/-- The pushes among some calls. -/
def QueueCall.pushes {Key Item : Type} (calls : List (QueueCall Key Item)) : List (Key × Item) :=
  calls.filterMap fun
    | .push key item => some (key, item)
    | _ => none

section

variable {Key Item : Type} [DecidableEq Key] (key : Key)

/-- The items that were pushed under a key, in their order. -/
def pushedUnder (pushes : List (Key × Item)) : List Item :=
  (pushes.filter fun push => decide (push.1 = key)).map Prod.snd

/-- The items that left from under a key, in their order. -/
def leftUnder (departures : List (Departure Key Item)) : List Item :=
  (departures.filter fun departure => decide (departure.key = key)).map Departure.item

/-- The items that left from under a key in their turn. -/
def leftInTurn (departures : List (Departure Key Item)) : List Item :=
  leftUnder key (departures.filter fun departure => decide (departure.way ≠ .discarded))

@[simp] theorem pushedUnder_append (first second : List (Key × Item)) :
    pushedUnder key (first ++ second) = pushedUnder key first ++ pushedUnder key second := by
  rw [pushedUnder, List.filter_append, List.map_append, pushedUnder, pushedUnder]

@[simp] theorem leftUnder_append (first second : List (Departure Key Item)) :
    leftUnder key (first ++ second) = leftUnder key first ++ leftUnder key second := by
  rw [leftUnder, List.filter_append, List.map_append, leftUnder, leftUnder]

@[simp] theorem leftInTurn_append (first second : List (Departure Key Item)) :
    leftInTurn key (first ++ second) = leftInTurn key first ++ leftInTurn key second := by
  rw [leftInTurn, List.filter_append, leftUnder_append, leftInTurn, leftInTurn]

@[simp] theorem pushedUnder_nil : pushedUnder key ([] : List (Key × Item)) = [] := rfl

@[simp] theorem leftUnder_nil : leftUnder key ([] : List (Departure Key Item)) = [] := rfl

@[simp] theorem leftInTurn_nil : leftInTurn key ([] : List (Departure Key Item)) = [] := rfl

theorem pushedUnder_singleton (other : Key) (item : Item) :
    pushedUnder key [(other, item)] = if key = other then [item] else [] := by
  by_cases same : other = key
  · simp [pushedUnder, same]
  · simp [pushedUnder, same, Ne.symm same]

/-- Items that leave one key together. -/
theorem leftUnder_map (other : Key) (items : List Item) (way : Leaving) :
    leftUnder key (items.map fun item => ⟨other, item, way⟩) = if key = other then items else [] := by
  by_cases same : other = key
  · simp [leftUnder, List.filter_map, same, Function.comp_def]
  · simp [leftUnder, List.filter_map, same, Ne.symm same, Function.comp_def]

theorem leftInTurn_eq {departures : List (Departure Key Item)}
    (turns : ∀ departure ∈ departures, departure.way ≠ .discarded) :
    leftInTurn key departures = leftUnder key departures := by
  rw [leftInTurn, List.filter_eq_self.mpr]
  intro departure member
  exact decide_eq_true (turns departure member)

end

namespace StrideQueue

section

variable {Key Item : Type} [DecidableEq Key]

/-- Fail everything that is queued under some keys. -/
def degradeKeys : List Key → StrideQueue Key Item → List (Departure Key Item) × StrideQueue Key Item
  | [], queue => ([], queue)
  | key :: keys, queue =>
    let failed := (queue.waiting key).map fun item => ⟨key, item, .degraded⟩
    if key ∈ queue.order then
      let later := degradeKeys keys (queue.prune key)
      (failed ++ later.1, later.2)
    -- `list.remove` raises, and ends the loop with the key taken from the items only
    else (failed, { queue with items := queue.items.erase key })

/-- The books of a stretch of a run, from a queue to the queue after it. -/
structure Books (queue : StrideQueue Key Item) (pushes : List (Key × Item))
    (departures : List (Departure Key Item)) (after : StrideQueue Key Item) : Prop where
  consistent : after.Consistent
  inTurn : ∀ key, (leftInTurn key departures ++ after.waiting key).Sublist
    (queue.waiting key ++ pushedUnder key pushes)
  balanced : ∀ key, (queue.waiting key ++ pushedUnder key pushes).Perm
    (leftUnder key departures ++ after.waiting key)
  depth : queue.depth + pushes.length = departures.length + after.depth

variable {queue middle after : StrideQueue Key Item} {pushes more : List (Key × Item)}
  {departures later : List (Departure Key Item)}

/-- The books of a stretch in which nothing is pushed and nothing leaves. -/
theorem Books.idle (consistent : after.Consistent) (waiting : ∀ key, after.waiting key = queue.waiting key)
    (depth : after.depth = queue.depth) : Books queue [] [] after where
  consistent := consistent
  inTurn key := by
    rw [leftInTurn_nil, pushedUnder_nil, List.nil_append, List.append_nil, waiting]
  balanced key := by
    rw [leftUnder_nil, pushedUnder_nil, List.nil_append, List.append_nil, waiting]
  depth := by
    rw [List.length_nil, List.length_nil, depth, Nat.add_zero, Nat.zero_add]

/-- One stretch after another. -/
theorem Books.trans (first : Books queue pushes departures middle)
    (second : Books middle more later after) :
    Books queue (pushes ++ more) (departures ++ later) after where
  consistent := second.consistent
  inTurn key := by
    rw [leftInTurn_append, pushedUnder_append, List.append_assoc (leftInTurn key departures),
      ← List.append_assoc (queue.waiting key)]
    refine ((second.inTurn key).append_left (leftInTurn key departures)).trans ?_
    rw [← List.append_assoc]
    exact (first.inTurn key).append_right (pushedUnder key more)
  balanced key := by
    rw [leftUnder_append, pushedUnder_append, List.append_assoc (leftUnder key departures),
      ← List.append_assoc (queue.waiting key)]
    refine ((first.balanced key).append_right (pushedUnder key more)).trans ?_
    rw [List.append_assoc]
    exact (second.balanced key).append_left (leftUnder key departures)
  depth := by
    have one := first.depth
    have two := second.depth
    rw [List.length_append, List.length_append]
    omega

/-! ### Degradation -/

theorem waiting_prune (queue : StrideQueue Key Item) (key other : Key) :
    (queue.prune key).waiting other = if other = key then [] else queue.waiting other := by
  by_cases same : other = key <;> simp [prune, waiting, same]

theorem depth_prune (queue : StrideQueue Key Item) (key : Key) :
    queue.depth = (queue.waiting key).length + (queue.prune key).depth := by
  rw [depth_eq, depth_eq, (queued_perm queue key).length_eq, List.length_append]
  rfl

/-- The books of failing what is queued under a key. -/
theorem books_prune (consistent : queue.Consistent) (key : Key) :
    Books queue [] ((queue.waiting key).map fun item => ⟨key, item, .degraded⟩) (queue.prune key) := by
  have left : ∀ other, leftUnder other ((queue.waiting key).map fun item =>
      (⟨key, item, .degraded⟩ : Departure Key Item)) ++ (queue.prune key).waiting other =
      queue.waiting other := by
    intro other
    rw [leftUnder_map, waiting_prune]
    by_cases same : other = key
    · rw [if_pos same, if_pos same, List.append_nil, same]
    · rw [if_neg same, if_neg same, List.nil_append]
  refine ⟨consistent_prune consistent key, fun other => ?_, fun other => ?_, ?_⟩
  · rw [leftInTurn_eq, left, pushedUnder_nil, List.append_nil]
    intro departure member
    obtain ⟨item, -, rfl⟩ := List.mem_map.mp member
    exact fun same => by cases same
  · rw [left, pushedUnder_nil, List.append_nil]
  · rw [List.length_nil, List.length_map, depth_prune queue key, Nat.add_zero]

theorem books_degradeKeys (consistent : queue.Consistent) {keys : List Key} (distinct : keys.Nodup)
    (queued : ∀ key ∈ keys, key ∈ queue.order) :
    Books queue [] (queue.degradeKeys keys).1 (queue.degradeKeys keys).2 := by
  induction keys generalizing queue with
  | nil => exact Books.idle consistent (fun _ => rfl) rfl
  | cons key keys inductionHypothesis =>
    obtain ⟨fresh, distinct⟩ := List.nodup_cons.mp distinct
    have stays : ∀ other ∈ keys, other ∈ (queue.prune key).order := by
      intro other member
      have different : other ≠ key := fun same => fresh (same ▸ member)
      exact (List.mem_erase_of_ne different).mpr (queued other (List.mem_cons_of_mem key member))
    rw [degradeKeys, if_pos (queued key List.mem_cons_self)]
    exact (books_prune consistent key).trans
      (inductionHypothesis (consistent_prune consistent key) distinct stays)

end

/-! ### Runs -/

variable {Key Item : Type} [DecidableEq Key] [DecidableEq Item]

/-- What leaves in a call, and the queue after it. -/
def perform (queue : StrideQueue Key Item) :
    QueueCall Key Item → List (Departure Key Item) × StrideQueue Key Item
  | .push key item => ([], queue.push key item)
  | .pop weightOf admits =>
    match queue.pop weightOf admits with
    | none => ([], queue)
    | some ((key, item), rest) => ([⟨key, item, .popped⟩], rest)
  | .interrupted passes => ([], { queue with passes := queue.passes.mapValues fun key _ => passes key })
  | .discard key item =>
    match queue.discard key item with
    | (true, rest) => ([⟨key, item, .discarded⟩], rest)
    | (false, rest) => ([], rest)
  | .clamp admits => ([], queue.clampHeldOut admits)
  | .degrade => queue.degradeKeys queue.items.keys

/-- What leaves in a sequence of calls, and the queue after it. -/
def performAll (queue : StrideQueue Key Item) :
    List (QueueCall Key Item) → List (Departure Key Item) × StrideQueue Key Item
  | [] => ([], queue)
  | call :: calls =>
    let first := queue.perform call
    let later := first.2.performAll calls
    (first.1 ++ later.1, later.2)

/-- Every call keeps the books. -/
theorem books_perform {queue : StrideQueue Key Item} (consistent : queue.Consistent)
    (call : QueueCall Key Item) :
    Books queue (QueueCall.pushes [call]) (queue.perform call).1 (queue.perform call).2 := by
  cases call with
  | push key item =>
    have waiting : ∀ other, (queue.push key item).waiting other =
        queue.waiting other ++ pushedUnder other [(key, item)] := by
      intro other
      rw [waiting_push consistent, pushedUnder_singleton]
      by_cases same : other = key
      · rw [if_pos same, if_pos same, same]
      · rw [if_neg same, if_neg same, List.append_nil]
    refine ⟨consistent_push consistent key item, fun other => ?_, fun other => ?_, ?_⟩
    · exact (waiting other).symm ▸ List.Sublist.refl _
    · exact (waiting other).symm ▸ List.Perm.refl _
    · exact (depth_push consistent key item).symm.trans (Nat.zero_add _).symm
  | pop weightOf admits =>
    rw [perform]
    split
    · exact Books.idle consistent (fun _ => rfl) rfl
    · next key item rest pops =>
      obtain ⟨others, popped⟩ := pop_spec consistent pops
      have left : ∀ other, leftUnder other [(⟨key, item, .popped⟩ : Departure Key Item)] ++
          rest.waiting other = queue.waiting other := by
        intro other
        have alone := leftUnder_map other key [item] .popped
        rw [List.map_singleton] at alone
        rw [alone, popped.waiting_after]
        by_cases same : other = key
        · rw [if_pos same, if_pos same, same, popped.waiting_before, List.singleton_append]
        · rw [if_neg same, if_neg same, List.nil_append]
      refine ⟨popped.consistent, fun other => ?_, fun other => ?_, ?_⟩
      · rw [leftInTurn_eq, left]
        · exact List.sublist_append_left _ _
        · intro departure member
          rw [List.mem_singleton.mp member]
          exact fun same => by cases same
      · rw [left]
        exact (List.append_nil _).symm ▸ List.Perm.refl _
      · exact popped.depth.trans (Nat.add_comm _ _)
  | interrupted passes =>
    refine Books.idle ?_ (fun _ => rfl) rfl
    exact ⟨consistent.itemKeys, (Dict.keys_mapValues _ _).trans consistent.passKeys, consistent.nonempty⟩
  | discard key item =>
    rcases discard_spec consistent key item with ⟨-, same⟩ | ⟨inside, member, settled⟩
    · rw [perform, same]
      exact Books.idle consistent (fun _ => rfl) rfl
    · have taken := queued_discard consistent inside
      rw [perform, settled]
      rw [settled] at taken
      refine ⟨consistent_settle consistent member _, fun other => ?_, fun other => ?_, ?_⟩
      · have none : leftInTurn other [(⟨key, item, .discarded⟩ : Departure Key Item)] = [] := rfl
        rw [none, List.nil_append, waiting_settle]
        refine List.Sublist.trans ?_ (List.sublist_append_left _ _)
        split
        · next same =>
          rw [same]
          exact List.erase_sublist
        · exact List.Sublist.refl _
      · have alone := leftUnder_map other key [item] .discarded
        rw [List.map_singleton] at alone
        rw [alone, waiting_settle]
        refine (List.append_nil (queue.waiting other)).symm ▸ ?_
        by_cases same : other = key
        · rw [if_pos same, if_pos same, same]
          exact List.perm_cons_erase inside
        · rw [if_neg same, if_neg same, List.nil_append]
      · have less := taken.length_eq
        rw [List.length_cons, ← depth_eq, ← depth_eq] at less
        exact less.trans (Nat.add_comm _ _)
  | clamp admits =>
    have depth : (queue.clampHeldOut admits).depth = queue.depth := by
      rw [depth_eq, queued, items_clampHeldOut, ← queued, ← depth_eq]
    exact Books.idle (consistent_clampHeldOut consistent admits) (waiting_clampHeldOut queue admits) depth
  | degrade =>
    have queued : ∀ key ∈ queue.items.keys, key ∈ queue.order := fun key member =>
      consistent.itemKeys ▸ member
    exact books_degradeKeys consistent queue.items.nodup_keys queued

/-- Every run keeps the books. -/
theorem books_performAll {queue : StrideQueue Key Item} (consistent : queue.Consistent)
    (calls : List (QueueCall Key Item)) :
    Books queue (QueueCall.pushes calls) (queue.performAll calls).1 (queue.performAll calls).2 := by
  induction calls generalizing queue with
  | nil => exact Books.idle consistent (fun _ => rfl) rfl
  | cons call calls inductionHypothesis =>
    have first := books_perform consistent call
    have split : QueueCall.pushes (call :: calls) = QueueCall.pushes [call] ++ QueueCall.pushes calls := by
      rw [QueueCall.pushes, ← List.singleton_append, List.filterMap_append, QueueCall.pushes,
        QueueCall.pushes]
    rw [split, performAll]
    exact first.trans (inductionHypothesis first.consistent)

/-! ### One consistent structure -/

/-- After every run on an empty queue the three tables have the same keys, each of them once, and no
key waits for nothing. What was pushed under a key is what left from under it and what still waits. What
was not discarded leaves in the order in which it was pushed. -/
theorem performAll_consistent (calls : List (QueueCall Key Item)) :
    let departures := ((empty : StrideQueue Key Item).performAll calls).1
    let queue := ((empty : StrideQueue Key Item).performAll calls).2
    let pushes := QueueCall.pushes calls
    queue.items.keys = queue.order ∧ queue.passes.keys = queue.order ∧ queue.order.Nodup ∧
      (∀ key, queue.items.get? key ≠ some []) ∧
      (∀ key, (leftInTurn key departures ++ queue.waiting key).Sublist (pushedUnder key pushes)) ∧
      (∀ key, (∀ departure ∈ departures, departure.key = key → departure.way ≠ .discarded) →
        leftUnder key departures ++ queue.waiting key = pushedUnder key pushes) ∧
      (∀ key, (pushedUnder key pushes).Perm (leftUnder key departures ++ queue.waiting key)) ∧
      queue.depth + departures.length = pushes.length := by
  intro departures queue pushes
  have books : Books empty pushes departures queue := books_performAll consistent_empty calls
  have consistent := books.consistent
  have inTurn : ∀ key, (leftInTurn key departures ++ queue.waiting key).Sublist (pushedUnder key pushes) :=
    books.inTurn
  have balanced : ∀ key, (pushedUnder key pushes).Perm (leftUnder key departures ++ queue.waiting key) :=
    books.balanced
  refine ⟨consistent.itemKeys, consistent.passKeys, consistent.nodup, fun key found => ?_, inTurn,
    fun key turns => ?_, balanced, ?_⟩
  · have member : key ∈ queue.order := consistent.itemKeys ▸ Dict.mem_keys_of_get? found
    rw [consistent.get?_items member] at found
    exact consistent.nonempty key member (Option.some.inj found)
  · have same : leftInTurn key departures = leftUnder key departures := by
      rw [leftInTurn, leftUnder, List.filter_filter, leftUnder]
      refine congrArg (List.map _) (List.filter_congr fun departure member => ?_)
      by_cases under : departure.key = key
      · simp [under, turns departure member under]
      · simp [under]
    have sublist := inTurn key
    rw [same] at sublist
    exact sublist.eq_of_length (balanced key).length_eq.symm
  · have depth := books.depth
    have nothing : (empty : StrideQueue Key Item).depth = 0 := rfl
    omega

/-- Of two items the later one is discarded, and so leaves first. -/
def discardsLater : List (QueueCall Nat String) :=
  [.push 0 "first", .push 0 "second", .discard 0 "second", .pop (fun _ => .integer 1) none]

theorem not_sublist_discardsLater :
    leftUnder 0 ((empty : StrideQueue Nat String).performAll discardsLater).1 = ["second", "first"] ∧
      ¬(leftUnder 0 ((empty : StrideQueue Nat String).performAll discardsLater).1).Sublist
        (pushedUnder 0 (QueueCall.pushes discardsLater)) := by
  decide +kernel

end StrideQueue

end Omnitensor
