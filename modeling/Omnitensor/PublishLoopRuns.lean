/-
This file proves that the publishing loop answers every request and that the disk says what the last
tick found.

A request that has returned leaves the wake set, its setting scheduled, or the loop on its way to
the next look. Whatever the loop remembers of its publications is what the disk has, except while
the loop has not resumed after a write.
-/

import Omnitensor.PublishLoop

namespace Omnitensor

namespace SnapshotPublishLoop

variable {View Reading Value : Type} {state next : SnapshotPublishLoop View Reading Value}
variable {intervals : PublishIntervals}

/-! ### Steps -/

/-- What each action does, and where it is possible. -/
inductive Moves [BEq Value] (intervals : PublishIntervals) (build : View → Reading → Dict String Value)
    (state : SnapshotPublishLoop View Reading Value) :
    PublishAction View Reading → SnapshotPublishLoop View Reading Value → Prop
  | heard (awake : state.wake = true) :
    Moves intervals build state .request { state with returned := state.returned + 1 }
  | asked (asleep : ¬ state.wake = true) :
    Moves intervals build state .request { state with scheduling := state.scheduling + 1 }
  | scheduled (asked : ¬ state.scheduling = 0) :
    Moves intervals build state (.schedule false) { state with
      scheduling := state.scheduling - 1
      scheduled := state.scheduled + 1
      returned := state.returned + 1 }
  | refused (ended : state.phase = .stopped ∨ state.phase = .raised)
      (asked : ¬ state.scheduling = 0) :
    Moves intervals build state (.schedule true) { state with
      scheduling := state.scheduling - 1
      returned := state.returned + 1 }
  | callback (scheduled : ¬ state.scheduled = 0) :
    Moves intervals build state .callback
      { state with scheduled := state.scheduled - 1, wake := true }
  | run (phase : state.phase = .bound) : Moves intervals build state .run state.loopHead
  | looked (phase : state.phase = .beforeTick) :
    Moves intervals build state (.beforeTick none) (state.look intervals)
  | hookRaised (failure : PublishFailure) (phase : state.phase = .beforeTick) :
    Moves intervals build state (.beforeTick (some failure)) (state.failTick intervals failure)
  | built (view : View) (reading : Reading) (phase : state.phase = .building view) :
    Moves intervals build state (.build (.ok reading)) (state.weigh intervals build view reading)
  | buildRaised (failure : PublishFailure) (view : View) (phase : state.phase = .building view) :
    Moves intervals build state (.build (.error failure)) (state.failTick intervals failure)
  | published (view : View) (reading : Reading) (changed : Bool)
      (phase : state.phase = .publishing view reading changed) :
    Moves intervals build state (.publish none) { state with
      phase := .recording view reading changed
      disk := some (build view reading) }
  | publishRaised (failure : PublishFailure) (view : View) (reading : Reading) (changed : Bool)
      (phase : state.phase = .publishing view reading changed) :
    Moves intervals build state (.publish (some failure)) (state.failTick intervals failure)
  | recorded (view : View) (reading : Reading) (changed : Bool)
      (phase : state.phase = .recording view reading changed) :
    Moves intervals build state .record (state.publishedTick intervals build view reading changed)
  | retracted (phase : state.phase = .retracting) :
    Moves intervals build state (.retract none) { state with phase := .forgetting, disk := none }
  | retractRaised (failure : PublishFailure) (phase : state.phase = .retracting) :
    Moves intervals build state (.retract (some failure)) (state.failTick intervals failure)
  | forgotten (phase : state.phase = .forgetting) :
    Moves intervals build state .forget (state.retractedTick intervals)
  | timedOut (deadline : Nat) (phase : state.phase = .waiting deadline)
      (late : deadline ≤ state.clock) :
    Moves intervals build state .timeout { state with phase := .waking }
  | woken (deadline : Nat) (phase : state.phase = .waiting deadline)
      (signalled : (state.wake || state.stopping) = true) :
    Moves intervals build state .woken { state with phase := .waking }
  | resumed (phase : state.phase = .waking) :
    Moves intervals build state .resume (loopHead { state with wake := false })
  | devices (present : Bool) :
    Moves intervals build state (.devices present) { state with devicesPresent := present }
  | change (view : View) : Moves intervals build state (.change view) { state with view := view }
  | elapse (duration : Nat) :
    Moves intervals build state (.elapse duration) { state with clock := state.clock + duration }
  | stop : Moves intervals build state .stop { state with stopping := true }

variable {action : PublishAction View Reading} {view : View} {reading : Reading}
  {start : SnapshotPublishLoop View Reading Value} {actions : List (PublishAction View Reading)}

theorem moves_of_step [BEq Value] {build : View → Reading → Dict String Value}
    (steps : state.step intervals build action = some next) :
    Moves intervals build state action next := by
  unfold SnapshotPublishLoop.step at steps
  split at steps
  all_goals try split_ifs at steps
  all_goals cases steps
  all_goals constructor <;> first | assumption | simp_all

/-! ### Requests -/

/-- A request that returned since the last look is on its way to the next one. -/
def Heeds (state : SnapshotPublishLoop View Reading Value) : Prop :=
  0 < state.returned →
    state.wake = true ∨ 0 < state.scheduled ∨ state.phase.looksFirst = true

theorem Heeds.returned_of_asleep (heeds : state.Heeds) (asleep : state.Asleep) :
    state.returned = 0 := by
  obtain ⟨⟨deadline, waiting⟩, clear, unscheduled⟩ := asleep
  by_contra returned
  rcases heeds (Nat.pos_of_ne_zero returned) with awake | scheduled | looksFirst
  · rw [clear] at awake
    cases awake
  · omega
  · rw [waiting] at looksFirst
    cases looksFirst

theorem heeds_of_looksFirst (looksFirst : state.phase.looksFirst = true) : state.Heeds :=
  fun _ => .inr (.inr looksFirst)

theorem heeds_of_wake (wake : state.wake = true) : state.Heeds := fun _ => .inl wake

theorem heeds_of_returned (returned : state.returned = 0) : state.Heeds :=
  fun positive => by omega

/-- Once the loop has looked, only the wake and its settings count. -/
theorem Heeds.frame (heeds : state.Heeds) (looked : state.phase.looksFirst = false)
    (returned : next.returned = state.returned) (wake : next.wake = state.wake)
    (scheduled : next.scheduled = state.scheduled) : next.Heeds := by
  intro positive
  rw [returned] at positive
  rcases heeds positive with awake | waiting | looksFirst
  · exact .inl (wake.trans awake)
  · exact .inr (.inl (by omega))
  · rw [looked] at looksFirst
    cases looksFirst

theorem Heeds.failTick (heeds : state.Heeds) (looked : state.phase.looksFirst = false)
    (failure : PublishFailure) : (state.failTick intervals failure).Heeds := by
  cases failure <;> exact heeds.frame looked rfl rfl rfl

theorem look_returned (state : SnapshotPublishLoop View Reading Value) :
    (state.look intervals).returned = 0 := by
  unfold look
  split_ifs <;> rfl

theorem looksFirst_loopHead (state : SnapshotPublishLoop View Reading Value) :
    state.loopHead.phase.looksFirst = true := by
  unfold loopHead
  dsimp only
  split_ifs <;> rfl

variable [BEq Value] {build : View → Reading → Dict String Value}

theorem Heeds.weigh (heeds : state.Heeds) (looked : state.phase.looksFirst = false) (view : View)
    (reading : Reading) : (state.weigh intervals build view reading).Heeds := by
  unfold SnapshotPublishLoop.weigh
  dsimp only
  split_ifs
  · exact heeds.frame looked rfl rfl rfl
  · exact heeds.frame looked rfl rfl rfl

/-- Every action but a hook that raises keeps requests on their way. -/
theorem Heeds.step (heeds : state.Heeds) (returns : action.HookReturns)
    (steps : state.step intervals build action = some next) : next.Heeds := by
  cases moves_of_step steps with
  | heard awake => exact heeds_of_wake awake
  | asked => exact heeds
  | scheduled => exact fun _ => .inr (.inl (Nat.succ_pos _))
  | refused ended => exact heeds_of_looksFirst (by rcases ended with ended | ended <;> exact ended ▸ rfl)
  | callback => exact heeds_of_wake rfl
  | run => exact heeds_of_looksFirst state.looksFirst_loopHead
  | looked => exact heeds_of_returned state.look_returned
  | hookRaised failure => exact absurd rfl (returns failure)
  | built view reading phase => exact heeds.weigh (phase ▸ rfl) view reading
  | buildRaised failure view phase => exact heeds.failTick (phase ▸ rfl) failure
  | published view reading changed phase => exact heeds.frame (phase ▸ rfl) rfl rfl rfl
  | publishRaised failure view reading changed phase => exact heeds.failTick (phase ▸ rfl) failure
  | recorded view reading changed phase => exact heeds.frame (phase ▸ rfl) rfl rfl rfl
  | retracted phase => exact heeds.frame (phase ▸ rfl) rfl rfl rfl
  | retractRaised failure phase => exact heeds.failTick (phase ▸ rfl) failure
  | forgotten phase => exact heeds.frame (phase ▸ rfl) rfl rfl rfl
  | timedOut => exact heeds_of_looksFirst rfl
  | woken => exact heeds_of_looksFirst rfl
  | resumed => exact heeds_of_looksFirst (looksFirst_loopHead _)
  | devices => exact heeds
  | change => exact heeds
  | elapse => exact heeds
  | stop => exact heeds

/-! ### The disk -/

/-- What the loop remembers and the last tick found is what the disk has. -/
structure Mirrors (build : View → Reading → Dict String Value)
    (state : SnapshotPublishLoop View Reading Value) : Prop where
  remembered : state.phase.settled = true →
    ∀ document, state.lastPublished = some document → state.disk = some document
  recording : ∀ view reading changed, state.phase = .recording view reading changed →
    state.disk = some (build view reading)
  forgetting : state.phase = .forgetting → state.disk = none
  retracted : state.retracted = true → state.phase.between = true ∧ state.disk = none
  ended : ∀ outcome, state.ended = some outcome →
    state.phase.between = true ∧ Tells build outcome state.disk

theorem Mirrors.truthful (mirrors : Mirrors build state) : state.Truthful build :=
  fun outcome ended => (mirrors.ended outcome ended).2

/-- Between two ticks, only the memory, the disk and what the last tick found count. -/
theorem mirrors_of_between (between : state.phase.between = true)
    (remembered : ∀ document, state.lastPublished = some document → state.disk = some document)
    (retracted : state.retracted = true → state.disk = none)
    (ended : ∀ outcome, state.ended = some outcome → Tells build outcome state.disk) :
    Mirrors build state where
  remembered := fun _ => remembered
  recording := fun _ _ _ phase => by
    rw [phase] at between
    cases between
  forgetting := fun phase => by
    rw [phase] at between
    cases between
  retracted := fun withdrawn => ⟨between, retracted withdrawn⟩
  ended := fun outcome found => ⟨between, ended outcome found⟩

omit [BEq Value] in
theorem between_loopHead (state : SnapshotPublishLoop View Reading Value) :
    state.loopHead.phase.between = true := by
  unfold loopHead
  dsimp only
  split_ifs <;> rfl

/-- A move between two places of the loop where no tick is open changes nothing. -/
theorem Mirrors.rest (mirrors : Mirrors build state) (settled : state.phase.settled = true)
    (between : next.phase.between = true) (lastPublished : next.lastPublished = state.lastPublished)
    (disk : next.disk = state.disk) (retracted : next.retracted = state.retracted)
    (ended : next.ended = state.ended ∨ next.ended = none) : Mirrors build next := by
  refine mirrors_of_between between ?_ ?_ ?_
  · rw [lastPublished, disk]
    exact mirrors.remembered settled
  · rw [retracted, disk]
    exact fun withdrawn => (mirrors.retracted withdrawn).2
  · intro outcome found
    rcases ended with same | none
    · rw [same] at found
      exact disk ▸ (mirrors.ended outcome found).2
    · rw [none] at found
      cases found

theorem Mirrors.failTick (mirrors : Mirrors build state) (settled : state.phase.settled = true)
    (failure : PublishFailure) : Mirrors build (state.failTick intervals failure) := by
  cases failure <;> exact mirrors.rest settled rfl rfl rfl rfl (.inr rfl)

/-- A tick that is open has found nothing, and nothing is retracted. -/
theorem mirrors_of_open (remembered : ∀ document, state.lastPublished = some document →
      state.disk = some document)
    (settled : state.phase.settled = true) (retracted : state.retracted = false)
    (ended : state.ended = none) : Mirrors build state where
  remembered := fun _ => remembered
  recording := fun _ _ _ phase => by
    rw [phase] at settled
    cases settled
  forgetting := fun phase => by
    rw [phase] at settled
    cases settled
  retracted := fun withdrawn => by
    rw [retracted] at withdrawn
    cases withdrawn
  ended := fun outcome found => by
    rw [ended] at found
    cases found

/-- While a tick is open nothing is retracted. -/
theorem Mirrors.not_retracted (mirrors : Mirrors build state) (opened : state.phase.between = false) :
    state.retracted = false := by
  cases withdrawn : state.retracted with
  | false => rfl
  | true =>
    have between := (mirrors.retracted withdrawn).1
    rw [opened] at between
    cases between

theorem Mirrors.not_ended (mirrors : Mirrors build state) (opened : state.phase.between = false) :
    state.ended = none := by
  cases ended : state.ended with
  | none => rfl
  | some outcome =>
    have between := (mirrors.ended outcome ended).1
    rw [opened] at between
    cases between

theorem Mirrors.look (mirrors : Mirrors build state) (phase : state.phase = .beforeTick) :
    Mirrors build (state.look intervals) := by
  have remembered := mirrors.remembered (phase ▸ rfl)
  unfold SnapshotPublishLoop.look
  split_ifs with present withdrawn
  · exact mirrors_of_open remembered rfl rfl rfl
  · have gone := (mirrors.retracted withdrawn).2
    refine mirrors_of_between rfl remembered (fun _ => gone) ?_
    rintro outcome ⟨⟩
    exact gone
  · exact mirrors_of_open remembered rfl (Bool.eq_false_iff.mpr withdrawn) rfl

/-- A snapshot that says nothing new is what the disk says. -/
theorem Mirrors.tells_of_not_changed (mirrors : Mirrors build state)
    (settled : state.phase.settled = true) (same : state.changed (build view reading) = false) :
    Tells build (.present view reading) state.disk := by
  unfold changed at same
  split at same
  · cases same
  · next last found =>
    exact ⟨last, mirrors.remembered settled last found, .inr (by simpa using same)⟩

theorem Mirrors.weigh (mirrors : Mirrors build state) (phase : state.phase = .building view)
    (reading : Reading) : Mirrors build (state.weigh intervals build view reading) := by
  have settled : state.phase.settled = true := phase ▸ rfl
  have present := mirrors.not_retracted (phase ▸ rfl)
  unfold SnapshotPublishLoop.weigh
  dsimp only
  split_ifs with news
  · exact mirrors_of_open (mirrors.remembered settled) rfl present (mirrors.not_ended (phase ▸ rfl))
  · have same : state.changed (build view reading) = false :=
      (Bool.or_eq_false_iff.mp (Bool.eq_false_iff.mpr news)).1
    refine mirrors_of_between rfl (mirrors.remembered settled) ?_ ?_
    · intro withdrawn
      exact absurd (present.symm.trans withdrawn) Bool.false_ne_true
    · rintro outcome ⟨⟩
      exact mirrors.tells_of_not_changed settled same

theorem Mirrors.publishedTick (mirrors : Mirrors build state) {changed : Bool}
    (phase : state.phase = .recording view reading changed) :
    Mirrors build (state.publishedTick intervals build view reading changed) := by
  have written := mirrors.recording view reading changed phase
  refine mirrors_of_between rfl ?_ ?_ ?_
  · rintro document ⟨⟩
    exact written
  · intro withdrawn
    have present := mirrors.not_retracted (phase ▸ rfl)
    exact absurd (present.symm.trans withdrawn) Bool.false_ne_true
  · rintro outcome ⟨⟩
    exact ⟨build view reading, written, .inl rfl⟩

theorem Mirrors.retractedTick (mirrors : Mirrors build state) (phase : state.phase = .forgetting) :
    Mirrors build (state.retractedTick intervals) := by
  have gone := mirrors.forgetting phase
  refine mirrors_of_between rfl ?_ (fun _ => gone) ?_
  · rintro document ⟨⟩
  · rintro outcome ⟨⟩
    exact gone

theorem mirrors_published (mirrors : Mirrors build state) {changed : Bool}
    (phase : state.phase = .publishing view reading changed) :
    Mirrors build { state with
      phase := .recording view reading changed
      disk := some (build view reading) } where
  remembered := nofun
  recording := fun _ _ _ same => by
    cases same
    rfl
  forgetting := nofun
  retracted := fun withdrawn =>
    absurd ((mirrors.not_retracted (phase ▸ rfl)).symm.trans withdrawn) Bool.false_ne_true
  ended := fun outcome found => by
    have nothing := mirrors.not_ended (phase ▸ rfl)
    rw [show state.ended = some outcome from found] at nothing
    cases nothing

theorem mirrors_withdrawn (mirrors : Mirrors build state) (phase : state.phase = .retracting) :
    Mirrors build { state with phase := .forgetting, disk := none } where
  remembered := nofun
  recording := nofun
  forgetting := fun _ => rfl
  retracted := fun withdrawn =>
    absurd ((mirrors.not_retracted (phase ▸ rfl)).symm.trans withdrawn) Bool.false_ne_true
  ended := fun outcome found => by
    have nothing := mirrors.not_ended (phase ▸ rfl)
    rw [show state.ended = some outcome from found] at nothing
    cases nothing

theorem Mirrors.step (mirrors : Mirrors build state)
    (steps : state.step intervals build action = some next) : Mirrors build next := by
  cases moves_of_step steps with
  | heard => exact ⟨mirrors.1, mirrors.2, mirrors.3, mirrors.4, mirrors.5⟩
  | asked => exact ⟨mirrors.1, mirrors.2, mirrors.3, mirrors.4, mirrors.5⟩
  | scheduled => exact ⟨mirrors.1, mirrors.2, mirrors.3, mirrors.4, mirrors.5⟩
  | refused => exact ⟨mirrors.1, mirrors.2, mirrors.3, mirrors.4, mirrors.5⟩
  | callback => exact ⟨mirrors.1, mirrors.2, mirrors.3, mirrors.4, mirrors.5⟩
  | run phase => exact mirrors.rest (phase ▸ rfl) state.between_loopHead rfl rfl rfl (.inl rfl)
  | looked phase => exact mirrors.look phase
  | hookRaised failure phase => exact mirrors.failTick (phase ▸ rfl) failure
  | built view reading phase => exact mirrors.weigh phase reading
  | buildRaised failure view phase => exact mirrors.failTick (phase ▸ rfl) failure
  | published view reading changed phase => exact mirrors_published mirrors phase
  | publishRaised failure view reading changed phase => exact mirrors.failTick (phase ▸ rfl) failure
  | recorded view reading changed phase => exact mirrors.publishedTick phase
  | retracted phase => exact mirrors_withdrawn mirrors phase
  | retractRaised failure phase => exact mirrors.failTick (phase ▸ rfl) failure
  | forgotten phase => exact mirrors.retractedTick phase
  | timedOut deadline phase => exact mirrors.rest (phase ▸ rfl) rfl rfl rfl rfl (.inl rfl)
  | woken deadline phase => exact mirrors.rest (phase ▸ rfl) rfl rfl rfl rfl (.inl rfl)
  | resumed phase =>
    exact mirrors.rest (phase ▸ rfl) (between_loopHead _) rfl rfl rfl (.inl rfl)
  | devices => exact ⟨mirrors.1, mirrors.2, mirrors.3, mirrors.4, mirrors.5⟩
  | change => exact ⟨mirrors.1, mirrors.2, mirrors.3, mirrors.4, mirrors.5⟩
  | elapse => exact ⟨mirrors.1, mirrors.2, mirrors.3, mirrors.4, mirrors.5⟩
  | stop => exact ⟨mirrors.1, mirrors.2, mirrors.3, mirrors.4, mirrors.5⟩

/-! ### Runs -/

omit [BEq Value] in
theorem returned_failTick (failure : PublishFailure) :
    (state.failTick intervals failure).returned = state.returned := by
  cases failure <;> rfl

theorem returned_weigh (view : View) (reading : Reading) :
    (state.weigh intervals build view reading).returned = state.returned := by
  unfold weigh
  dsimp only
  split_ifs <;> rfl

/-- Only a look forgets a request that returned. -/
theorem returned_le_of_step (blind : action ≠ .beforeTick none)
    (steps : state.step intervals build action = some next) : state.returned ≤ next.returned := by
  cases moves_of_step steps with
  | heard => exact Nat.le_succ _
  | scheduled => exact Nat.le_succ _
  | refused => exact Nat.le_succ _
  | looked => exact absurd rfl blind
  | hookRaised failure => exact Nat.le_of_eq (returned_failTick failure).symm
  | built view reading => exact Nat.le_of_eq (returned_weigh view reading).symm
  | buildRaised failure => exact Nat.le_of_eq (returned_failTick failure).symm
  | publishRaised failure => exact Nat.le_of_eq (returned_failTick failure).symm
  | retractRaised failure => exact Nat.le_of_eq (returned_failTick failure).symm
  | _ => exact Nat.le_refl _

/-- Whatever happened before, a request that returns is on its way. -/
theorem heeds_of_returns (returns : action.Returns state.wake)
    (steps : state.step intervals build action = some next) : next.Heeds ∧ 0 < next.returned := by
  cases moves_of_step steps with
  | heard awake => exact ⟨heeds_of_wake awake, Nat.succ_pos _⟩
  | asked asleep => exact absurd returns asleep
  | scheduled => exact ⟨fun _ => .inr (.inl (Nat.succ_pos _)), Nat.succ_pos _⟩
  | refused ended =>
    exact ⟨heeds_of_looksFirst (by rcases ended with ended | ended <;> exact ended ▸ rfl),
      Nat.succ_pos _⟩
  | _ => cases returns

theorem returned_le_of_run (blind : .beforeTick none ∉ actions)
    (runs : Machine.run (step intervals build) start actions = some state) :
    start.returned ≤ state.returned := by
  have each : ∀ action ∈ actions, action ≠ .beforeTick none :=
    fun action member same => blind (same ▸ member)
  exact Machine.invariant_run_throughout (fun state => start.returned ≤ state.returned)
    (fun _ _ _ before look steps => Nat.le_trans before (returned_le_of_step look steps))
    (Nat.le_refl _) (Machine.throughout_of_forall each) runs

theorem heeds_of_run (heeds : start.Heeds) (hooks : ∀ action ∈ actions, action.HookReturns)
    (runs : Machine.run (step intervals build) start actions = some state) : state.Heeds := by
  have keeps : ∀ (state : SnapshotPublishLoop View Reading Value) action next, state.Heeds →
      action.HookReturns → step intervals build state action = some next → next.Heeds :=
    fun _ _ _ heeds returns steps => heeds.step returns steps
  exact Machine.invariant_run_throughout Heeds keeps heeds (Machine.throughout_of_forall hooks) runs

variable {disk : Option (Dict String Value)} {devicesPresent : Bool} {view : View}

theorem mirrors_fresh :
    Mirrors build (fresh disk devicesPresent view : SnapshotPublishLoop View Reading Value) :=
  mirrors_of_between rfl nofun nofun nofun

/-- In every run, the loop looks between the return of a request and its next sleep unless a hook
raises there, and the disk says what the last tick that ended without error found. -/
theorem publishes_every_change {before after : List (PublishAction View Reading)}
    {asked : SnapshotPublishLoop View Reading Value}
    (runs : Machine.run (step intervals build) (fresh disk devicesPresent view) before = some asked)
    (later : Machine.run (step intervals build) asked after = some state) :
    (∀ action rest, after = action :: rest → action.Returns asked.wake →
      (∀ other ∈ rest, other.HookReturns) → state.Asleep → .beforeTick none ∈ rest) ∧
      state.Truthful build := by
  constructor
  · rintro action rest rfl returns hooks asleep
    obtain ⟨middle, steps, remaining⟩ := Machine.run_cons_eq_some.mp later
    obtain ⟨heeds, returned⟩ := heeds_of_returns returns steps
    by_contra blind
    have kept := returned_le_of_run blind remaining
    have none := (heeds_of_run heeds hooks remaining).returned_of_asleep asleep
    omega
  · have whole : Machine.run (step intervals build) (fresh disk devicesPresent view)
        (before ++ after) = some state := by
      rw [Machine.run_append, runs]
      exact later
    have mirrors : Mirrors build state :=
      Machine.invariant_run (Mirrors build) (fun _ _ _ mirrors steps => mirrors.step steps)
        mirrors_fresh whole
    exact mirrors.truthful

/-- A snapshot of how many jobs run. -/
def jobsSnapshot (jobs time : Nat) : Dict String Nat :=
  (Dict.empty.set "generatedAt" time).set "jobs" jobs

/-- A job starts while the loop waits, and the request wakes it; the devices go, and the tick after
the next deadline retracts what the tick before it wrote. -/
theorem publishes_every_change_woken :
    ∃ asked state : SnapshotPublishLoop Nat Nat Nat, asked.wake = false ∧
      (PublishAction.schedule false : PublishAction Nat Nat).Returns asked.wake ∧
      state.ended = some .absent ∧
      ((∀ action rest, ([.schedule false, .callback, .woken, .resume, .beforeTick none,
            .build (.ok 2), .publish none, .record, .devices false, .elapse 1, .timeout, .resume,
            .beforeTick none, .retract none, .forget] : List (PublishAction Nat Nat)) =
          action :: rest → action.Returns asked.wake →
        (∀ other ∈ rest, other.HookReturns) → state.Asleep → .beforeTick none ∈ rest) ∧
        state.Truthful jobsSnapshot) := by
  have passes : (Machine.run (step ⟨1, 10, 10⟩ jobsSnapshot) (fresh none true 2)
      [.run, .beforeTick none, .build (.ok 1), .publish none, .record, .change 3, .request]).any
        (fun asked => decide (asked.wake = false) &&
          (Machine.run (step ⟨1, 10, 10⟩ jobsSnapshot) asked
            [.schedule false, .callback, .woken, .resume, .beforeTick none, .build (.ok 2),
              .publish none, .record, .devices false, .elapse 1, .timeout, .resume,
              .beforeTick none, .retract none, .forget]).any
                fun state => decide (state.ended = some .absent)) = true := by
    decide +kernel
  obtain ⟨asked, runs, test⟩ := Machine.exists_run_of_any passes
  obtain ⟨clear, more⟩ := Bool.and_eq_true_iff.mp test
  obtain ⟨state, later, ended⟩ := Machine.exists_run_of_any more
  exact ⟨asked, state, of_decide_eq_true clear, trivial, of_decide_eq_true ended,
    publishes_every_change runs later⟩

end SnapshotPublishLoop

end Omnitensor
