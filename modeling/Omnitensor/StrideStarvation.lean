/-
This file settles when the stride queue can starve a key.

A key that drains loses its pass and joins again at the least pass queued. Two keys
that take turns draining therefore hold each other at one pass for ever: whenever
one drains, the other is queued below a third key, and the drained key joins again
at that lower pass. The third key is never served although it always waits.

When a key that drained in a stretch joins again only once virtual time has reached
the pass it drained at, passes never move back. Every other key is then served at
most six times, between one below the waiting key's pass and that pass, before the
waiting key is the least.
-/

import Mathlib.Algebra.BigOperators.Group.Finset.Basic
import Mathlib.Algebra.Order.BigOperators.Group.Finset
import Omnitensor.StrideFairness

namespace Omnitensor

/-- Pushes, and pops that admit every key. -/
def StrideOp.AdmitsAll {Key Item : Type} : StrideOp Key Item → Prop
  | .push _ _ => True
  | .pop _ admits => ∀ key, admitted admits key = true
  | .discard _ _ => False

/-- The key a push names. -/
def StrideOp.pushed {Key Item : Type} : StrideOp Key Item → Option Key
  | .push key _ => some key
  | .pop _ _ => none
  | .discard _ _ => none

namespace StrideQueue

variable {Key Item : Type} [DecidableEq Key] [DecidableEq Item]

/-! ### What the claim speaks of -/

/-- The keys that the pushes and pops of a stretch name. -/
def named (queue : StrideQueue Key Item) : List (StrideOp Key Item) → List Key
  | [] => []
  | op :: ops => op.pushed.toList ++ (queue.serves op).toList ++ (queue.after op).named ops

/-- A key has work waiting in every state of a stretch. -/
def StaysQueued (key : Key) (queue : StrideQueue Key Item) : List (StrideOp Key Item) → Prop
  | [] => queue.waiting key ≠ []
  | op :: ops => queue.waiting key ≠ [] ∧ StaysQueued key (queue.after op) ops

instance decidableStaysQueued (key : Key) :
    (queue : StrideQueue Key Item) → (ops : List (StrideOp Key Item)) →
      Decidable (StaysQueued key queue ops)
  | queue, [] => inferInstanceAs (Decidable (queue.waiting key ≠ []))
  | queue, op :: ops =>
    have := decidableStaysQueued key (queue.after op) ops
    inferInstanceAs (Decidable (_ ∧ _))

/-- Among any `6 * (keys - 1) + 1` successive successful pops of a stretch there is one for the
key. -/
def ServedWithin (key : Key) (keys : Nat) (queue : StrideQueue Key Item)
    (stretch : List (StrideOp Key Item)) : Prop :=
  ∀ before window rest, stretch = before ++ window ++ rest →
    6 * (keys - 1) + 1 ≤ (served (queue.run before) window).length →
    key ∈ served (queue.run before) window

/-! ### Starvation -/

/-- Serve the backlogged key once, so that its pass is one ahead of the other two. -/
def starvationHistory : List (StrideOp String Nat) :=
  [.push "waiting" 0, .push "waiting" 1, .push "left" 2, .push "right" 3,
    .pop (fun _ => .integer 1) none]

/-- Two keys take turns draining and joining again. -/
def starvationRound : List (StrideOp String Nat) :=
  [.pop (fun _ => .integer 1) none, .push "left" 4, .pop (fun _ => .integer 1) none,
    .push "right" 5]

/-- Fourteen successive pops name three keys and never serve the one that waits throughout,
where thirteen should have. -/
theorem not_servedWithin :
    let stretch := (List.replicate 7 starvationRound).flatten
    (∀ op ∈ starvationHistory ++ stretch, op.AdmitsAll) ∧
      StaysQueued "waiting" (empty.run starvationHistory) stretch ∧
      ("waiting" :: named (empty.run starvationHistory) stretch).toFinset.card ≤ 3 ∧
      ¬ ServedWithin "waiting" 3 (empty.run starvationHistory) stretch := by
  refine ⟨?_, by decide +kernel, by decide +kernel, fun serves => ?_⟩
  · simp [starvationHistory, starvationRound, StrideOp.AdmitsAll]
  · have chosen := serves [] _ [] (by rw [List.nil_append, List.append_nil]) (by decide +kernel)
    exact absurd chosen (by decide +kernel)

/-! ### Joining again at the level left -/

/-- The passes at which keys drained, after one more call. -/
def drainedAfter (queue : StrideQueue Key Item) (left : Key → Option ℚ) :
    StrideOp Key Item → Key → Option ℚ
  | .push _ _ => left
  | .pop weightOf admits =>
    match queue.pop weightOf admits with
    | none => left
    | some ((key, _), rest) =>
      if key ∈ rest.order then left
      else Function.update left key (some (queue.passOf key + stride (weightOf key)))
  | .discard _ _ => left

/-- A key that drained in the stretch joins again only when virtual time has reached the pass
it drained at. -/
def RejoinsLevel (queue : StrideQueue Key Item) (left : Key → Option ℚ) :
    List (StrideOp Key Item) → Prop
  | [] => True
  | op :: ops =>
    (∀ key ∈ op.pushed, key ∉ queue.order → ∀ pass ∈ left key, pass ≤ queue.virtualTime) ∧
      RejoinsLevel (queue.after op) (queue.drainedAfter left op) ops

instance decidableRejoinsLevel :
    (queue : StrideQueue Key Item) → (left : Key → Option ℚ) →
      (ops : List (StrideOp Key Item)) → Decidable (RejoinsLevel queue left ops)
  | _, _, [] => inferInstanceAs (Decidable True)
  | queue, left, op :: ops =>
    have := decidableRejoinsLevel (queue.after op) (queue.drainedAfter left op) ops
    inferInstanceAs (Decidable (_ ∧ _))

variable {queue : StrideQueue Key Item} {chosen key waits : Key} {left fewer : Key → Option ℚ}
  {weightOf : Key → WeightValue} {admits : Option (Key → Bool)} {ops : List (StrideOp Key Item)}
  {count : Key → Nat}

omit [DecidableEq Item] in
theorem drainedAfter_pop_none (pops : queue.pop weightOf admits = none) (left : Key → Option ℚ) :
    queue.drainedAfter left (.pop weightOf admits) = left := by
  rw [drainedAfter, pops]

omit [DecidableEq Item] in
theorem drainedAfter_pop_some {rest : StrideQueue Key Item} {item : Item}
    (pops : queue.pop weightOf admits = some ((chosen, item), rest)) (left : Key → Option ℚ) :
    queue.drainedAfter left (.pop weightOf admits) =
      if chosen ∈ rest.order then left
      else Function.update left chosen (some (queue.passOf chosen + stride (weightOf chosen))) := by
  rw [drainedAfter, pops]

omit [DecidableEq Item] in
theorem drainedAfter_mono (queue : StrideQueue Key Item)
    (sub : ∀ key, ∀ pass ∈ fewer key, pass ∈ left key) (op : StrideOp Key Item) :
    ∀ key, ∀ pass ∈ queue.drainedAfter fewer op key, pass ∈ queue.drainedAfter left op key := by
  intro key pass member
  cases op with
  | push other item => exact sub key pass member
  | discard other item => exact sub key pass member
  | pop weightOf admits =>
    cases pops : queue.pop weightOf admits with
    | none =>
      rw [drainedAfter_pop_none pops] at member ⊢
      exact sub key pass member
    | some popped =>
      obtain ⟨⟨chosen, item⟩, rest⟩ := popped
      rw [drainedAfter_pop_some pops] at member ⊢
      by_cases remains : chosen ∈ rest.order
      · rw [if_pos remains] at member ⊢
        exact sub key pass member
      · rw [if_neg remains] at member ⊢
        by_cases same : key = chosen
        · rw [same, Function.update_self] at member ⊢
          exact member
        · rw [Function.update_of_ne same] at member ⊢
          exact sub key pass member

/-- Forgetting where keys drained only weakens the condition. -/
theorem RejoinsLevel.mono (rejoins : RejoinsLevel queue left ops)
    (sub : ∀ key, ∀ pass ∈ fewer key, pass ∈ left key) : RejoinsLevel queue fewer ops := by
  induction ops generalizing queue left fewer with
  | nil => trivial
  | cons op ops inductionHypothesis =>
    refine ⟨fun key pushed absent pass member => ?_,
      inductionHypothesis rejoins.2 (drainedAfter_mono queue sub op)⟩
    exact rejoins.1 key pushed absent pass (sub key pass member)

theorem RejoinsLevel.left_of_append {window rest : List (StrideOp Key Item)}
    (rejoins : RejoinsLevel queue left (window ++ rest)) : RejoinsLevel queue left window := by
  induction window generalizing queue left with
  | nil => trivial
  | cons op window inductionHypothesis => exact ⟨rejoins.1, inductionHypothesis rejoins.2⟩

/-- The condition on a stretch holds of every window inside it. -/
theorem RejoinsLevel.window {queue : StrideQueue Key Item} {left : Key → Option ℚ}
    {before window rest : List (StrideOp Key Item)}
    (rejoins : RejoinsLevel queue left (before ++ window ++ rest)) :
    RejoinsLevel (queue.run before) (fun _ => none) window := by
  induction before generalizing queue left with
  | nil => exact rejoins.left_of_append.mono fun _ _ member => by cases member
  | cons op before inductionHypothesis => exact inductionHypothesis rejoins.2

theorem StaysQueued.waiting_ne_nil (stays : StaysQueued key queue ops) :
    queue.waiting key ≠ [] := by
  cases ops with
  | nil => exact stays
  | cons op ops => exact stays.1

theorem StaysQueued.window {key : Key} {queue : StrideQueue Key Item}
    {before window rest : List (StrideOp Key Item)}
    (stays : StaysQueued key queue (before ++ window ++ rest)) :
    StaysQueued key (queue.run before) window := by
  induction before generalizing queue with
  | nil =>
    induction window generalizing queue with
    | nil => exact StaysQueued.waiting_ne_nil stays
    | cons op window inductionHypothesis => exact ⟨stays.1, inductionHypothesis stays.2⟩
  | cons op before inductionHypothesis => exact inductionHypothesis stays.2

/-! ### Counting the serves of the other keys -/

/-- How far the other keys have come while one key waits: after `count` serves a key stands, or
drained, at least `count` fifths above one below the waiting key's pass. -/
structure Tally (waits : Key) (queue : StrideQueue Key Item) (left : Key → Option ℚ)
    (count : Key → Nat) : Prop where
  bounded : ∀ key, key ≠ waits → count key ≤ 6
  queued : ∀ key ∈ queue.order, key ≠ waits → count key = 0 ∨
    queue.passOf waits - 1 + count key / 5 ≤ queue.passOf key
  drained : ∀ key, key ∉ queue.order → key ≠ waits → count key = 0 ∨
    ∃ pass ∈ left key, queue.passOf waits - 1 + count key / 5 ≤ pass

omit [DecidableEq Item] in
theorem tally_push (consistent : queue.Consistent) (tally : Tally waits queue left count)
    (waiting : waits ∈ queue.order) (item : Item)
    (rejoins : key ∉ queue.order → ∀ pass ∈ left key, pass ≤ queue.virtualTime) :
    Tally waits (queue.push key item) left count where
  bounded := tally.bounded
  queued other member different := by
    rw [passOf_push_of_mem consistent waiting]
    by_cases inside : other ∈ queue.order
    · rw [passOf_push_of_mem consistent inside]
      exact tally.queued other inside different
    · have same : other = key := ((mem_order_push consistent).mp member).resolve_right inside
      subst same
      rw [passOf_push_self consistent inside]
      refine (tally.drained other inside different).imp_right ?_
      rintro ⟨pass, marked, low⟩
      exact low.trans (rejoins inside pass marked)
  drained other absent different := by
    rw [passOf_push_of_mem consistent waiting]
    refine tally.drained other (fun inside => absent ?_) different
    exact (mem_order_push consistent).mpr (Or.inr inside)

/-- One more serve of a key moves it one fifth further, and it was not yet past the waiting
key. -/
theorem fifths_step {count : Nat} {base pass advance : ℚ}
    (far : count = 0 ∨ base - 1 + count / 5 ≤ pass) (window : base ≤ pass + 1)
    (least : pass ≤ base) (step : 1 / 5 ≤ advance) :
    count + 1 ≤ 6 ∧ base - 1 + ((count + 1 : Nat) : ℚ) / 5 ≤ pass + advance := by
  have lower : base - 1 + (count : ℚ) / 5 ≤ pass := by
    rcases far with zero | low
    · rw [zero, Nat.cast_zero, zero_div, add_zero]
      linarith
    · exact low
  have few : (count : ℚ) < 6 := by linarith
  refine ⟨Nat.succ_le_of_lt (by exact_mod_cast few), ?_⟩
  rw [Nat.cast_add, Nat.cast_one, add_div]
  linarith

omit [DecidableEq Item] in
theorem tally_popped {after : StrideQueue Key Item} (windowed : queue.Windowed)
    (tally : Tally waits queue left count) (waiting : waits ∈ queue.order)
    (admitsAll : ∀ key, admitted admits key = true) {item : Item} {rest : List Item}
    (spec : Popped queue weightOf admits chosen item rest after) (other : chosen ≠ waits) :
    Tally waits after
      (if chosen ∈ after.order then left
        else Function.update left chosen (some (queue.passOf chosen + stride (weightOf chosen))))
      fun key => count key + if chosen = key then 1 else 0 := by
  have stays : waits ∈ after.order := by
    rw [spec.order]
    split
    · exact (List.mem_erase_of_ne (Ne.symm other)).mpr waiting
    · exact waiting
  have base : after.passOf waits = queue.passOf waits :=
    spec.passOf_admitted waits stays (Ne.symm other) (admitsAll waits)
  obtain ⟨few, far⟩ := fifths_step (tally.queued chosen spec.member other)
    (windowed waits waiting chosen spec.member) (spec.least waits waiting (admitsAll waits))
    (one_fifth_le_stride (weightOf chosen))
  refine ⟨fun key different => ?_, fun key member different => ?_, fun key absent different => ?_⟩
  · by_cases same : chosen = key
    · subst same
      rw [if_pos rfl]
      exact few
    · rw [if_neg same, add_zero]
      exact tally.bounded key different
  · rw [base]
    by_cases same : chosen = key
    · subst same
      rw [if_pos rfl, spec.passOf_self member]
      exact Or.inr far
    · rw [if_neg same, add_zero, spec.passOf_admitted key member (Ne.symm same) (admitsAll key)]
      exact tally.queued key (spec.mem_order member) different
  · rw [base]
    by_cases same : chosen = key
    · subst same
      rw [if_neg absent, if_pos rfl]
      exact Or.inr ⟨_, by rw [Function.update_self]; rfl, far⟩
    · rw [if_neg same, add_zero]
      have absentBefore : key ∉ queue.order := by
        intro inside
        apply absent
        rw [spec.order]
        split
        · exact (List.mem_erase_of_ne (Ne.symm same)).mpr inside
        · exact inside
      refine (tally.drained key absentBefore different).imp_right ?_
      rintro ⟨pass, marked, low⟩
      refine ⟨pass, ?_, low⟩
      split
      · exact marked
      · rwa [Function.update_of_ne (Ne.symm same)]

/-- While the waiting key is not served, no other key is served more than six times. -/
theorem count_served_le (consistent : queue.Consistent) (windowed : queue.Windowed)
    (tally : Tally waits queue left count) (admitsAll : ∀ op ∈ ops, op.AdmitsAll)
    (stays : StaysQueued waits queue ops) (rejoins : RejoinsLevel queue left ops)
    (unserved : waits ∉ queue.served ops) (key : Key) (different : key ≠ waits) :
    count key + (queue.served ops).count key ≤ 6 := by
  induction ops generalizing queue left count with
  | nil => exact tally.bounded key different
  | cons op ops inductionHypothesis =>
    have waiting : waits ∈ queue.order := consistent.mem_order_iff.mpr stays.1
    rw [served, List.mem_append, not_or] at unserved
    have continues : ∀ next, Tally waits (queue.after op) (queue.drainedAfter left op) next →
        next key + ((queue.after op).served ops).count key ≤ 6 := fun next nextTally =>
      inductionHypothesis (consistent_after consistent op) (windowed_after consistent windowed op)
        nextTally (fun other member => admitsAll other (List.mem_cons_of_mem _ member)) stays.2
        rejoins.2 unserved.2
    have admits := admitsAll op List.mem_cons_self
    rw [served, List.count_append, ← add_assoc]
    cases op with
    | push other item =>
      exact continues count (tally_push consistent tally waiting item (rejoins.1 other rfl))
    | discard other item => exact admits.elim
    | pop weightOf admission =>
      cases pops : queue.pop weightOf admission with
      | none =>
        have same : queue.after (.pop weightOf admission) = queue := by rw [after, pops]
        have nothing : queue.serves (.pop weightOf admission) = none := by rw [serves, pops]; rfl
        rw [nothing]
        exact continues count (by rwa [same, drainedAfter_pop_none pops])
      | some popped =>
        obtain ⟨⟨chosen, item⟩, rest⟩ := popped
        obtain ⟨tail, spec⟩ := pop_spec consistent pops
        have next : queue.after (.pop weightOf admission) = rest := by rw [after, pops]
        have taken : queue.serves (.pop weightOf admission) = some chosen := by
          rw [serves, pops]
          rfl
        rw [taken] at unserved ⊢
        have other : chosen ≠ waits := fun same => unserved.1 (by simp [same])
        have counted := continues _ (by
          rw [next, drainedAfter_pop_some pops]
          exact tally_popped windowed tally waiting admits spec other)
        simpa [List.count_singleton, add_assoc] using counted

theorem served_subset_named (queue : StrideQueue Key Item) (ops : List (StrideOp Key Item)) :
    queue.served ops ⊆ queue.named ops := by
  induction ops generalizing queue with
  | nil => exact List.Subset.refl _
  | cons op ops inductionHypothesis =>
    rw [served, named]
    refine List.append_subset.mpr ⟨fun key member => ?_, fun key member => ?_⟩
    · exact List.mem_append_left _ (List.mem_append_right _ member)
    · exact List.mem_append_right _ (inductionHypothesis _ member)

theorem named_window_subset (queue : StrideQueue Key Item)
    (before window rest : List (StrideOp Key Item)) :
    (queue.run before).named window ⊆ queue.named (before ++ window ++ rest) := by
  induction before generalizing queue with
  | nil =>
    induction window generalizing queue with
    | nil => exact List.nil_subset _
    | cons op window inductionHypothesis =>
      exact List.append_subset.mpr ⟨List.subset_append_left _ _,
        List.Subset.trans (inductionHypothesis _) (List.subset_append_right _ _)⟩
  | cons op before inductionHypothesis =>
    exact List.Subset.trans (inductionHypothesis (queue.after op)) (List.subset_append_right _ _)

/-- A list in which no value occurs more than `most` times, drawn from a set of values. -/
theorem length_le_of_count_le {Value : Type} [DecidableEq Value] (values : List Value)
    (allowed : Finset Value) (most : Nat) (drawn : ∀ value ∈ values, value ∈ allowed)
    (few : ∀ value ∈ allowed, values.count value ≤ most) :
    values.length ≤ most * allowed.card := by
  calc values.length
      _ = ∑ value ∈ values.toFinset, values.count value :=
          (List.sum_toFinset_count_eq_length values).symm
      _ ≤ ∑ value ∈ allowed, values.count value :=
          Finset.sum_le_sum_of_subset fun value member => drawn value (List.mem_toFinset.mp member)
      _ ≤ allowed.card • most := Finset.sum_le_card_nsmul _ _ _ few
      _ = most * allowed.card := by rw [nsmul_eq_mul, Nat.cast_id, mul_comm]

/-- In every run in which keys that drain in a stretch join again at the level they left, a key
that waits throughout the stretch is served within any `6 * (keys - 1) + 1` successive
successful pops of it. -/
theorem servedWithin_of_rejoinsLevel (history stretch : List (StrideOp Key Item)) (waits : Key)
    (keys : Nat) (admitsAll : ∀ op ∈ stretch, op.AdmitsAll)
    (stays : StaysQueued waits (empty.run history) stretch)
    (few : (waits :: named (empty.run history) stretch).toFinset.card ≤ keys)
    (rejoins : RejoinsLevel (empty.run history) (fun _ => none) stretch) :
    ServedWithin waits keys (empty.run history) stretch := by
  rintro before window rest rfl many
  by_contra unserved
  obtain ⟨consistent, windowed⟩ := invariant_run
    (consistent_empty : (empty : StrideQueue Key Item).Consistent) windowed_empty (history ++ before)
  rw [run_append] at consistent windowed
  have start : Tally waits ((empty.run history).run before) (fun _ => none) fun _ => 0 :=
    ⟨fun _ _ => Nat.zero_le _, fun _ _ _ => Or.inl rfl, fun _ _ _ => Or.inl rfl⟩
  have windowAdmits : ∀ op ∈ window, op.AdmitsAll := fun op member =>
    admitsAll op (List.mem_append_left _ (List.mem_append_right _ member))
  have each := count_served_le consistent windowed start windowAdmits stays.window rejoins.window
    unserved
  have bound := length_le_of_count_le _
    ((waits :: named (empty.run history) (before ++ window ++ rest)).toFinset.erase waits) 6
    (fun key member => Finset.mem_erase.mpr ⟨fun same => unserved (same ▸ member),
      List.mem_toFinset.mpr (List.mem_cons_of_mem _ (named_window_subset (empty.run history)
        before window rest (served_subset_named _ window member)))⟩)
    (fun key member => by simpa using each key (Finset.mem_erase.mp member).1)
  rw [Finset.card_erase_of_mem (by simp)] at bound
  omega

/-- A key of weight five drains and joins again above the pass that it left at; seven pops serve the one
that waits. -/
theorem servedWithin_of_rejoinsLevel_two :
    let weightOf : String → WeightValue := fun key => .integer (if key = "fast" then 5 else 1)
    let history : List (StrideOp String Nat) :=
      [.push "waiting" 0, .push "waiting" 1, .push "waiting" 2, .push "waiting" 3, .push "fast" 4]
    let stretch : List (StrideOp String Nat) :=
      [.pop weightOf none, .pop weightOf none, .push "fast" 5, .push "fast" 6, .push "fast" 7,
        .push "fast" 8, .push "fast" 9] ++ List.replicate 5 (.pop weightOf none)
    (empty.run (history ++ stretch.take 2)).order = ["waiting"] ∧
      ServedWithin "waiting" 2 (empty.run history) stretch :=
  ⟨by decide +kernel, servedWithin_of_rejoinsLevel _ _ "waiting" 2 (by simp [StrideOp.AdmitsAll])
    (by decide +kernel) (by decide +kernel) (by decide +kernel)⟩

end StrideQueue

end Omnitensor
