/-
This file follows the scheduler's history: what was withdrawn and what was handed out.

Every function of the scheduler but two carries the history over: no job's withdrawal
changes, no done future becomes pending again, and no job is handed to an executor. The
two are a submitter cancelling a future and the worker's loop, which hands out the
oldest job of the key the stride queue chooses.
-/

import Omnitensor.SchedulerLedger

namespace Omnitensor

variable {Result : Type}

namespace Scheduler

/-- The history of one scheduler carries over to another. -/
structure Carries (before after : Scheduler Result) : Prop where
  jobs : ∀ (job : Nat) (row : Job Result), after.jobs[job]? = some row → row.withdrawal = .kept ∨
    ∃ old, before.jobs[job]? = some old ∧ old.withdrawal = row.withdrawal ∧
      (old.future ≠ .pending → row.future ≠ .pending)
  handed : after.handed = before.handed

variable {before after scheduler : Scheduler Result} {outcome : FutureState Result}
  {weightOf : String → WeightValue} {admits : Option (String → Bool)}

theorem Carries.of_eq (jobs : after.jobs = before.jobs) (handed : after.handed = before.handed) :
    Carries before after where
  jobs _ row found := Or.inr ⟨row, jobs ▸ found, rfl, id⟩
  handed := handed

theorem Carries.refl (scheduler : Scheduler Result) : Carries scheduler scheduler :=
  .of_eq rfl rfl

theorem Carries.trans {first second third : Scheduler Result} (earlier : Carries first second)
    (later : Carries second third) : Carries first third where
  jobs job row found := by
    rcases later.jobs job row found with kept | ⟨middle, storedMiddle, sameLater, doneLater⟩
    · exact Or.inl kept
    · rcases earlier.jobs job middle storedMiddle with kept | ⟨old, stored, same, done⟩
      · exact Or.inl (sameLater ▸ kept)
      · exact Or.inr ⟨old, stored, same.trans sameLater, fun settled => doneLater (done settled)⟩
  handed := later.handed.trans earlier.handed

theorem Carries.foldl {Value : Type} {change : Scheduler Result → Value → Scheduler Result}
    (carries : ∀ scheduler value, Carries scheduler (change scheduler value))
    (scheduler : Scheduler Result) (values : List Value) :
    Carries scheduler (values.foldl change scheduler) := by
  induction values generalizing scheduler with
  | nil => exact .refl scheduler
  | cons value values inductionHypothesis =>
    exact (carries scheduler value).trans (inductionHypothesis _)

/-- Completing futures carries the history over. -/
theorem Carries.of_settleJobs {indices : List Nat} (completes : outcome ≠ .pending)
    (jobs : after.jobs = settleJobs outcome before.jobs indices)
    (handed : after.handed = before.handed) : Carries before after where
  jobs job row found := by
    rw [jobs, getElem?_settleJobs, Option.map_eq_some_iff] at found
    obtain ⟨old, stored, rfl⟩ := found
    refine Or.inr ⟨old, stored, ?_, fun settled => ?_⟩
    · split <;> simp
    · split
      · exact old.settle_ne_pending completes
      · exact settled
  handed := handed

theorem jobs_setStatus (scheduler : Scheduler Result) (task : Nat) (status : WorkerStatus) :
    (scheduler.setStatus task status).jobs = scheduler.jobs := by
  unfold setStatus
  split <;> rfl

theorem handed_setStatus (scheduler : Scheduler Result) (task : Nat) (status : WorkerStatus) :
    (scheduler.setStatus task status).handed = scheduler.handed := by
  unfold setStatus
  split <;> rfl

theorem carries_setStatus (scheduler : Scheduler Result) (task : Nat) (status : WorkerStatus) :
    Carries scheduler (scheduler.setStatus task status) :=
  .of_eq (jobs_setStatus _ _ _) (handed_setStatus _ _ _)

theorem carries_await (scheduler : Scheduler Result) (task : Nat) (backend : String)
    (index : Nat) : Carries scheduler (scheduler.await task backend index) :=
  .of_eq (jobs_setStatus _ _ _) (handed_setStatus _ _ _)

theorem carries_degrade (scheduler : Scheduler Result) (backend : String) (index : Nat)
    (typeName : String) : Carries scheduler (scheduler.degrade backend index typeName) :=
  .of_settleJobs (FutureState.exception_ne_pending _) rfl rfl

theorem carries_finishJob (scheduler : Scheduler Result) (task index job : Nat)
    (workloadId : String) (completes : outcome ≠ .pending) :
    Carries scheduler (scheduler.finishJob task index job workloadId outcome) := by
  have one : settleJob outcome scheduler.jobs job = settleJobs outcome scheduler.jobs [job] := rfl
  exact .of_settleJobs completes ((jobs_setStatus _ _ _).trans one) (handed_setStatus _ _ _)

theorem carries_unwind (scheduler : Scheduler Result) (task : Nat) (status : WorkerStatus) :
    Carries scheduler (scheduler.unwind task status) := by
  cases status with
  | executing index job workloadId =>
    exact (carries_finishJob _ _ _ _ _ FutureState.cancelled_ne_pending).trans
      (carries_setStatus _ _ _)
  | notStarted => exact carries_setStatus _ _ _
  | waiting index => exact carries_setStatus _ _ _
  | ended => exact carries_setStatus _ _ _

/-! ### The host's calls -/

theorem carries_cancelQueued (scheduler : Scheduler Result) (index : Nat) :
    Carries scheduler (scheduler.cancelQueued index) :=
  .of_settleJobs FutureState.cancelled_ne_pending rfl rfl

theorem carries_retireWorker (scheduler : Scheduler Result) (backend : String) :
    Carries scheduler (scheduler.retireWorker backend) := by
  unfold retireWorker
  split
  · exact .refl scheduler
  · exact .of_eq rfl rfl

theorem carries_removeBackend (scheduler : Scheduler Result) (backend : String) :
    Carries scheduler (scheduler.removeBackend backend) := by
  have retired := carries_retireWorker (scheduler.clearDegradation backend) backend
  have cleared : Carries scheduler (scheduler.clearDegradation backend) := .of_eq rfl rfl
  refine (cleared.trans retired).trans ?_
  unfold removeBackend
  dsimp only
  split
  · exact .of_eq rfl rfl
  · exact .of_settleJobs FutureState.cancelled_ne_pending rfl rfl

theorem carries_addBackend (scheduler : Scheduler Result) (backend : String) :
    Carries scheduler (scheduler.addBackend backend) := by
  unfold addBackend
  split
  · exact .refl scheduler
  · dsimp only
    split
    · exact .of_eq rfl rfl
    · exact .of_eq rfl rfl

theorem carries_updateExecutors (scheduler : Scheduler Result) (executors : Dict String Nat) :
    Carries scheduler (scheduler.updateExecutors executors) := by
  have swapped : Carries scheduler
      { scheduler with
        executors := executors
        retired := scheduler.retired.filter fun task => !scheduler.taskDone task } :=
    .of_eq rfl rfl
  exact (swapped.trans (.foldl carries_removeBackend _ _)).trans (.foldl carries_addBackend _ _)

theorem carries_spawnWorker (scheduler : Scheduler Result) (backend : String) :
    Carries scheduler (scheduler.spawnWorker backend) := .of_eq rfl rfl

theorem carries_start (scheduler : Scheduler Result) : Carries scheduler scheduler.start := by
  have started : Carries scheduler { scheduler with started := true } := .of_eq rfl rfl
  exact started.trans (.foldl carries_spawnWorker _ _)

theorem carries_finishStop (scheduler : Scheduler Result) (call : Nat) (gathered : StopCall) :
    Carries scheduler (scheduler.finishStop call gathered) := by
  have cleared : Carries scheduler
      { scheduler with
        workers := Dict.empty
        retired := []
        degraded := Dict.empty
        stops := scheduler.stops.set call { gathered with returned := true } } := .of_eq rfl rfl
  exact cleared.trans (.foldl carries_cancelQueued _ _)

theorem carries_submit {submitted : Scheduler Result} {backend workloadId : String}
    (accepts : scheduler.submit backend workloadId = .ok submitted) :
    Carries scheduler submitted := by
  unfold submit at accepts
  split at accepts
  · cases accepts
  · split at accepts
    · cases accepts
    · dsimp only at accepts
      split at accepts
      · cases accepts
      · cases accepts
        refine ⟨fun job row found => ?_, rfl⟩
        rw [Table.getElem?_concat] at found
        split at found
        · cases found
          exact Or.inl rfl
        · exact Or.inr ⟨row, found, rfl, id⟩

/-! ### The worker's loop -/

/-- The job the worker of a lane would serve next: the oldest of the key the queue chooses. -/
def head (scheduler : Scheduler Result) (index : Nat) : PopCallbacks → Option Nat
  | .answer weightOf admits =>
    match (scheduler.lane index).choose weightOf admits with
    | none => none
    | some (key, _) => ((scheduler.lane index).waiting key).head?
  | _ => none

theorem waiting_choose {queue advanced : StrideQueue String Nat} {key : String}
    (chooses : queue.choose weightOf admits = some (key, advanced)) (other : String) :
    advanced.waiting other = queue.waiting other := by
  obtain ⟨chosen, _, pair⟩ := Option.map_eq_some_iff.mp chooses
  obtain ⟨_, rfl⟩ := Prod.mk.inj pair
  exact StrideQueue.waiting_clampHeldOut _ _ _

/-- What a pop takes is the head. -/
theorem head_of_pop {index job : Nat} {key : String} {rest : StrideQueue String Nat}
    (pops : (scheduler.lane index).pop weightOf admits = some ((key, job), rest)) :
    scheduler.head index (.answer weightOf admits) = some job := by
  unfold StrideQueue.pop at pops
  split at pops
  · cases pops
  · rename_i chosen advanced chooses
    split at pops
    · cases pops
    · rename_i first more waits
      cases pops
      rw [waiting_choose chooses] at waits
      simp only [head, chooses, waits]
      rfl

/-- The loop carries the history over or hands out the head. -/
theorem workerLoop_history (scheduler : Scheduler Result) (task : Nat) (backend : String)
    (index : Nat) (callbacks : PopCallbacks) :
    Carries scheduler (scheduler.workerLoop task backend index callbacks) ∨
      ∃ job, scheduler.head index callbacks = some job ∧
        (scheduler.workerLoop task backend index callbacks).jobs = scheduler.jobs ∧
        (scheduler.workerLoop task backend index callbacks).handed = scheduler.handed ++ [job] := by
  unfold workerLoop
  split
  · exact Or.inl (carries_setStatus _ _ _)
  · cases callbacks with
    | answer weightOf admits =>
      dsimp only
      split
      · exact Or.inl (carries_await _ _ _ _)
      · rename_i key job rest pops
        unfold execute
        split
        · exact Or.inr ⟨job, head_of_pop pops, jobs_setStatus _ _ _, handed_setStatus _ _ _⟩
        · have moved : Carries scheduler (scheduler.setLane index rest) := .of_eq rfl rfl
          exact Or.inl ((moved.trans (carries_degrade _ _ _ _)).trans (carries_await _ _ _ _))
    | raiseCancelled passes =>
      dsimp only
      split
      · exact Or.inl (carries_await _ _ _ _)
      · have moved : Carries scheduler
            (scheduler.setLane index (movePasses (scheduler.lane index) passes)) := .of_eq rfl rfl
        exact Or.inl (moved.trans (carries_setStatus _ _ _))
    | raiseError error passes =>
      dsimp only
      split
      · exact Or.inl (carries_await _ _ _ _)
      · have moved : Carries scheduler
            (scheduler.setLane index (movePasses (scheduler.lane index) passes)) := .of_eq rfl rfl
        exact Or.inl ((moved.trans (carries_degrade _ _ _ _)).trans (carries_await _ _ _ _))

end Scheduler

end Omnitensor
