/-
This file proves that the scheduler neither loses, duplicates nor strands a job.

A state is sound when its ledger and its wiring are. Every function of the scheduler
keeps a sound state sound; a worker's turn does so because the worker that is not
cancelled serves its backend's lane, which is consistent until a stop has returned.
In a sound state a job that its submitter did not cancel is queued in a live lane,
held by one worker or done, and a lane without a backend, or a scheduler whose stop
has returned, leaves no future pending once the cancelled workers have unwound.
-/

import Omnitensor.SchedulerHistory
import Omnitensor.SchedulerWiring

namespace Omnitensor

variable {Result : Type}

namespace Scheduler

variable {scheduler : Scheduler Result}

/-! ### Sound states -/

/-- The ledger and the wiring hold together. -/
structure Sound (scheduler : Scheduler Result) : Prop where
  ledger : Ledger scheduler.jobs scheduler.lanes scheduler.tasks scheduler.running scheduler.handed
  wiring : Wiring scheduler

/-- The queues and executors of the same backends are at hand. -/
def Known (scheduler : Scheduler Result) : Prop :=
  ∀ backend, backend ∈ scheduler.executors.keys ↔ backend ∈ scheduler.queues.keys

/-- A worker is about to serve its backend's lane: it is live and holds no job. -/
structure Serving (scheduler : Scheduler Result) (task : Nat) (backend : String) (index : Nat) :
    Prop where
  worker : ∃ worker, scheduler.tasks[task]? = some worker ∧ worker.backend = backend ∧
    worker.cancelRequested = false ∧ worker.status ≠ .ended ∧ worker.held = []
  queue : scheduler.queues.get? backend = some index

variable {index task job : Nat} {backend workloadId : String} {worker : Worker}
  {before after submitted next : Scheduler Result} {queue rest : StrideQueue String Nat}
  {callbacks : PopCallbacks} {action : Action Result} {row : Job Result}
  {executors : Dict String Nat}

theorem lane_eq (stored : scheduler.lanes[index]? = some queue) : scheduler.lane index = queue := by
  rw [lane, stored, Option.getD_some]

/-- A live worker's scheduler is not stopped. -/
theorem Serving.not_stopped (serving : Serving scheduler task backend index)
    (sound : Sound scheduler) : scheduler.stopped = false := by
  obtain ⟨worker, stored, _, kept, alive, _⟩ := serving.worker
  by_contra stopped
  rw [Bool.not_eq_false] at stopped
  have cancelled := sound.wiring.stopping stopped task worker stored alive
  rw [kept] at cancelled
  cases cancelled

/-- A live worker's lane is consistent. -/
theorem Serving.lane (serving : Serving scheduler task backend index) (sound : Sound scheduler) :
    ∃ queue, scheduler.lanes[index]? = some queue ∧ queue.Consistent := by
  obtain ⟨queue, stored, either⟩ := sound.wiring.queueLane backend index serving.queue
  refine ⟨queue, stored, either.resolve_right fun both => ?_⟩
  rw [serving.not_stopped sound] at both
  cases both.1

theorem Sound.setStatus (sound : Sound scheduler) {status : WorkerStatus}
    (stored : scheduler.tasks[task]? = some worker) (alive : worker.status ≠ .ended)
    (idle : worker.held = []) (after : ({ worker with status } : Worker).held = [])
    (serves : worker.cancelRequested = false → ∀ lane, status.serves = some lane →
      scheduler.queues.get? worker.backend = some lane) :
    Sound (scheduler.setStatus task status) where
  ledger := by
    rw [setStatus_of_getElem? stored]
    exact sound.ledger.setIdle stored idle after
  wiring := by
    rw [setStatus_of_getElem? stored]
    exact sound.wiring.setTask stored alive serves

/-- An idle worker's task ends. -/
theorem Sound.endTask (sound : Sound scheduler) (stored : scheduler.tasks[task]? = some worker)
    (alive : worker.status ≠ .ended) (idle : worker.held = []) :
    Sound (scheduler.setStatus task .ended) :=
  sound.setStatus stored alive idle rfl fun _ lane impossible => by cases impossible

/-- The tables that say which backends there are. -/
def backends (scheduler : Scheduler Result) : Dict String Nat × Dict String Nat :=
  (scheduler.executors, scheduler.queues)

theorem executors_eq (same : after.backends = before.backends) :
    after.executors = before.executors := (Prod.mk.inj same).1

theorem queues_eq (same : after.backends = before.backends) :
    after.queues = before.queues := (Prod.mk.inj same).2

theorem Known.of_backends (known : Known before) (same : after.backends = before.backends) :
    Known after := by
  intro backend
  rw [executors_eq same, queues_eq same]
  exact known backend

@[simp] theorem backends_setStatus (scheduler : Scheduler Result) (task : Nat)
    (status : WorkerStatus) : (scheduler.setStatus task status).backends = scheduler.backends := by
  unfold setStatus
  split <;> rfl

/-! ### What a lane is left as -/

theorem foldl_erase_self (keys : List String) : keys.foldl List.erase keys = [] := by
  induction keys with
  | nil => rfl
  | cons key keys inductionHypothesis =>
    rw [List.foldl_cons, List.erase_cons_head]
    exact inductionHypothesis

theorem queued_drained (consistent : queue.Consistent) : (drained queue).queued = [] := by
  refine (StrideQueue.consistent_foldl_prune consistent queue.items.keys).queued_eq_nil ?_
  rw [StrideQueue.order_foldl_prune, consistent.itemKeys]
  exact foldl_erase_self queue.order

theorem consistent_drained (consistent : queue.Consistent) : (drained queue).Consistent :=
  StrideQueue.consistent_foldl_prune consistent _

theorem queued_emptied (queue : StrideQueue String Nat) :
    ({ queue with items := queue.items.mapValues fun _ _ => [] } :
      StrideQueue String Nat).queued = [] := by
  refine List.eq_nil_iff_forall_not_mem.mpr fun job member => ?_
  obtain ⟨key, waits⟩ := StrideQueue.mem_queued.mp member
  rw [StrideQueue.waiting, Dict.get?_mapValues] at waits
  cases found : queue.items.get? key <;> simp [found] at waits

theorem consistent_movePasses (consistent : queue.Consistent) (passes : String → ℚ) :
    (movePasses queue passes).Consistent where
  itemKeys := consistent.itemKeys
  passKeys := by
    rw [movePasses, Dict.keys_mapValues]
    exact consistent.passKeys
  nonempty := consistent.nonempty

/-! ### A worker's turn -/

theorem Sound.rewake (sound : Sound scheduler) (wakeups : Dict String Bool) :
    Sound { scheduler with wakeups } :=
  ⟨sound.ledger, sound.wiring.reframe _ _ wakeups _ _ _⟩

theorem sound_await (sound : Sound scheduler) (serving : Serving scheduler task backend index) :
    Sound (scheduler.await task backend index) := by
  obtain ⟨worker, stored, owner, _, alive, idle⟩ := serving.worker
  refine (sound.rewake _).setStatus stored alive idle rfl fun _ lane serves => ?_
  rw [owner, ← Option.some.inj serves]
  exact serving.queue

theorem sound_movePasses (sound : Sound scheduler) (stored : scheduler.lanes[index]? = some queue)
    (passes : String → ℚ) :
    Sound (scheduler.setLane index (movePasses queue passes)) where
  ledger := sound.ledger.setItems stored rfl
  wiring := sound.wiring.setLane stored (fun consistent => consistent_movePasses consistent passes) id

theorem sound_degrade (sound : Sound scheduler) (stored : scheduler.lanes[index]? = some queue)
    (consistent : queue.Consistent) (typeName : String) :
    Sound (scheduler.degrade backend index typeName) := by
  unfold degrade
  rw [lane_eq stored]
  have wired := sound.wiring.setLane stored (fun _ => consistent_drained consistent)
    fun _ => queued_drained consistent
  exact ⟨sound.ledger.drain (FutureState.exception_ne_pending _) stored (queued_drained consistent),
    wired.reframe _ _ _ _ _ _⟩

theorem Serving.degrade (serving : Serving scheduler task backend index) (typeName : String) :
    Serving (scheduler.degrade backend index typeName) task backend index :=
  ⟨serving.worker, serving.queue⟩

theorem Serving.setLane (serving : Serving scheduler task backend index)
    (queue : StrideQueue String Nat) : Serving (scheduler.setLane index queue) task backend index :=
  ⟨serving.worker, serving.queue⟩

theorem execute_eq {adapter : Nat} (found : scheduler.executors.get? backend = some adapter)
    (storedJob : scheduler.jobs[job]? = some row)
    (storedTask : scheduler.tasks[task]? = some worker) :
    (scheduler.setLane index rest).execute task backend index job =
      { scheduler with
        lanes := scheduler.lanes.set index rest
        running := scheduler.running.add row.workloadId
        handed := scheduler.handed ++ [job]
        tasks := scheduler.tasks.set task
          { worker with status := .executing index job row.workloadId } } := by
  simp only [execute, setLane, setStatus, found, storedJob, storedTask]

/-- A job popped by a live worker is handed to its backend's executor. -/
theorem sound_execute (sound : Sound scheduler) (serving : Serving scheduler task backend index)
    (executor : backend ∈ scheduler.executors.keys) (stored : scheduler.lanes[index]? = some queue)
    {weightOf : String → WeightValue} {admits : Option (String → Bool)} {key : String}
    {left : List Nat} (spec : StrideQueue.Popped queue weightOf admits key job left rest) :
    Sound ((scheduler.setLane index rest).execute task backend index job) := by
  obtain ⟨worker, storedTask, owner, kept, alive, idle⟩ := serving.worker
  obtain ⟨adapter, found⟩ := Dict.mem_keys_iff.mp executor
  have waits : job ∈ queue.waiting key := by
    rw [spec.waiting_before]
    exact List.mem_cons_self
  obtain ⟨row, storedJob, _, _⟩ := sound.ledger.queued index queue key job stored waits
  have wired := sound.wiring.setLane stored (fun _ => spec.consistent) fun nothing => by
    have member : job ∈ queue.queued := StrideQueue.mem_queued.mpr ⟨key, waits⟩
    rw [nothing] at member
    exact absurd member List.not_mem_nil
  rw [execute_eq found storedJob storedTask]
  refine
    { ledger := sound.ledger.take stored spec storedTask idle storedJob rfl
      wiring := (wired.setTask storedTask alive fun _ lane serves => ?_).reframe _ _ _ _ _ _ }
  rw [owner, ← Option.some.inj serves]
  exact serving.queue

/-- The worker's loop, up to its next suspension. -/
theorem sound_workerLoop (sound : Sound scheduler) (serving : Serving scheduler task backend index)
    (executor : backend ∈ scheduler.executors.keys) (callbacks : PopCallbacks) :
    Sound (scheduler.workerLoop task backend index callbacks) := by
  obtain ⟨queue, stored, consistent⟩ := serving.lane sound
  obtain ⟨worker, storedTask, _, _, alive, idle⟩ := serving.worker
  unfold workerLoop
  rw [serving.not_stopped sound, if_neg Bool.false_ne_true, lane_eq stored]
  cases callbacks with
  | answer weightOf admits =>
    dsimp only
    split
    · exact sound_await sound serving
    · rename_i key job rest pops
      obtain ⟨left, spec⟩ := StrideQueue.pop_spec consistent pops
      exact sound_execute sound serving executor stored spec
  | raiseCancelled passes =>
    dsimp only
    split
    · exact sound_await sound serving
    · exact (sound_movePasses sound stored passes).endTask storedTask alive idle
  | raiseError error passes =>
    dsimp only
    split
    · exact sound_await sound serving
    · have bound : index < scheduler.lanes.length := (List.getElem?_eq_some_iff.mp stored).1
      have moved := sound_movePasses sound stored passes
      have storedMoved : (scheduler.setLane index (movePasses queue passes)).lanes[index]? =
          some (movePasses queue passes) := List.getElem?_set_self bound
      exact sound_await
        (sound_degrade moved storedMoved (consistent_movePasses consistent passes) error.typeName)
        ((serving.setLane _).degrade error.typeName)

theorem finishJob_eq (stored : scheduler.tasks[task]? = some worker) (outcome : FutureState Result) :
    scheduler.finishJob task index job workloadId outcome =
      { scheduler with
        jobs := settleJob outcome scheduler.jobs job
        running := scheduler.running.remove workloadId
        tasks := scheduler.tasks.set task { worker with status := .waiting index } } := by
  simp only [finishJob, setStatus, stored]

/-- An executor call ends and its job's future is completed. -/
theorem sound_finishJob (sound : Sound scheduler) {outcome : FutureState Result}
    (completes : outcome ≠ .pending) (stored : scheduler.tasks[task]? = some worker)
    (executing : worker.status = .executing index job workloadId) :
    Sound (scheduler.finishJob task index job workloadId outcome) := by
  have alive : worker.status ≠ .ended := by simp [executing]
  rw [finishJob_eq stored]
  refine
    { ledger := sound.ledger.finish completes stored executing rfl
      wiring := (sound.wiring.setTask stored alive fun kept lane serves => ?_).reframe _ _ _ _ _ _ }
  rw [← Option.some.inj serves]
  exact (sound.wiring.live task worker stored alive kept).2 index (by rw [executing]; rfl)

theorem tasks_finishJob (stored : scheduler.tasks[task]? = some worker)
    (outcome : FutureState Result) :
    (scheduler.finishJob task index job workloadId outcome).tasks[task]? =
      some { worker with status := .waiting index } := by
  rw [finishJob_eq stored]
  exact List.getElem?_set_self (List.getElem?_eq_some_iff.mp stored).1

theorem backends_finishJob (scheduler : Scheduler Result) (task index job : Nat)
    (workloadId : String) (outcome : FutureState Result) :
    (scheduler.finishJob task index job workloadId outcome).backends = scheduler.backends :=
  backends_setStatus _ _ _

/-- A live worker whose call ended serves its lane again. -/
theorem serving_finishJob (sound : Sound scheduler) (stored : scheduler.tasks[task]? = some worker)
    (executing : worker.status = .executing index job workloadId)
    (kept : worker.cancelRequested = false) (outcome : FutureState Result) :
    Serving (scheduler.finishJob task index job workloadId outcome) task worker.backend index where
  worker := ⟨_, tasks_finishJob stored outcome, rfl, kept, by simp, rfl⟩
  queue := by
    have alive : worker.status ≠ .ended := by simp [executing]
    rw [queues_eq (backends_finishJob _ _ _ _ _ _)]
    exact (sound.wiring.live task worker stored alive kept).2 index (by rw [executing]; rfl)

/-- A cancelled worker unwinds: the job it holds is cancelled and its task ends. -/
theorem sound_unwind (sound : Sound scheduler) (stored : scheduler.tasks[task]? = some worker)
    (alive : worker.status ≠ .ended) : Sound (scheduler.unwind task worker.status) := by
  cases status : worker.status with
  | executing index job workloadId =>
    have finished := sound_finishJob sound FutureState.cancelled_ne_pending stored status
    exact finished.endTask (tasks_finishJob stored _) (by simp) rfl
  | notStarted => exact sound.endTask stored alive (by rw [Worker.held, status])
  | waiting index => exact sound.endTask stored alive (by rw [Worker.held, status])
  | ended => exact absurd status alive

theorem Sound.clearDegradation (sound : Sound scheduler) (backend : String) :
    Sound (scheduler.clearDegradation backend) :=
  ⟨sound.ledger, sound.wiring.reframe _ _ _ _ _ _⟩

/-- A live worker resumes with the end of its executor call. -/
theorem sound_complete (sound : Sound scheduler) (stored : scheduler.tasks[task]? = some worker)
    (executing : worker.status = .executing index job workloadId)
    (kept : worker.cancelRequested = false) (executor : worker.backend ∈ scheduler.executors.keys)
    (outcome : ExecutorOutcome Result) (callbacks : PopCallbacks) :
    Sound (scheduler.complete task worker.backend index job workloadId outcome callbacks) := by
  unfold complete
  cases outcome with
  | success value =>
    have cleared := sound.clearDegradation worker.backend
    refine sound_workerLoop (sound_finishJob cleared (FutureState.result_ne_pending value) stored executing)
      (serving_finishJob cleared stored executing kept _) ?_ callbacks
    rw [executors_eq (backends_finishJob _ _ _ _ _ _)]
    exact executor
  | raisedCancelled =>
    have finished := sound_finishJob sound FutureState.cancelled_ne_pending stored executing
    exact finished.endTask (tasks_finishJob stored _) (by simp) rfl
  | raised error =>
    dsimp only
    split
    · refine sound_workerLoop (sound_finishJob sound (FutureState.exception_ne_pending error) stored executing)
        (serving_finishJob sound stored executing kept _) ?_ callbacks
      rw [executors_eq (backends_finishJob _ _ _ _ _ _)]
      exact executor
    · have finished := sound_finishJob sound
        (FutureState.exception_ne_pending ⟨"RuntimeError", error.text, true⟩) stored executing
      have serving := serving_finishJob sound stored executing kept
        (.exception ⟨"RuntimeError", error.text, true⟩)
      obtain ⟨queue, storedLane, consistent⟩ := serving.lane finished
      refine sound_workerLoop (sound_degrade finished storedLane consistent error.typeName)
        (serving.degrade error.typeName) ?_ callbacks
      show worker.backend ∈ (scheduler.finishJob task index job workloadId _).executors.keys
      rw [executors_eq (backends_finishJob _ _ _ _ _ _)]
      exact executor

/-! ### Discovery -/

theorem sound_spawnWorker (sound : Sound scheduler)
    (queue : scheduler.queues.get? backend = some index)
    (idle : scheduler.workers.get? backend = none) (started : scheduler.started = true)
    (running : scheduler.stopped = false) : Sound (scheduler.spawnWorker backend) :=
  ⟨sound.ledger.addTask rfl, sound.wiring.spawnWorker queue idle started running⟩

theorem sound_addBackend (sound : Sound scheduler) (backend : String) :
    Sound (scheduler.addBackend backend) := by
  unfold addBackend
  split
  · exact sound
  · rename_i missing
    rw [Dict.contains_iff, ← Dict.get?_eq_none_iff] at missing
    have added : Sound
        { scheduler with
          queues := scheduler.queues.set backend scheduler.lanes.length
          lanes := scheduler.lanes ++ [StrideQueue.empty]
          wakeups := scheduler.wakeups.set backend false } :=
      ⟨sound.ledger.addLane, (sound.wiring.addLane missing).reframe _ _ _ _ _ _⟩
    dsimp only
    split
    · rename_i active
      rw [Bool.and_eq_true, Bool.not_eq_true'] at active
      refine sound_spawnWorker added (Dict.get?_set_self _ _ _) ?_ active.1 active.2
      rw [← Option.not_isSome_iff_eq_none, Option.isSome_iff_exists]
      rintro ⟨task, found⟩
      obtain ⟨index, mine⟩ := sound.wiring.workerQueue backend task found
      rw [missing] at mine
      cases mine
    · exact added

theorem sound_retireWorker (sound : Sound scheduler) (backend : String) :
    Sound (scheduler.retireWorker backend) where
  ledger := by
    unfold retireWorker
    split
    · exact sound.ledger
    · exact sound.ledger.cancelTask _
  wiring := sound.wiring.retireWorker backend

theorem sound_removeBackend (sound : Sound scheduler) (backend : String) :
    Sound (scheduler.removeBackend backend) := by
  have retiring := sound_retireWorker (sound.clearDegradation backend) backend
  have idle := get?_workers_retireWorker (scheduler.clearDegradation backend) backend
  unfold removeBackend
  dsimp only
  generalize (scheduler.clearDegradation backend).retireWorker backend = retired at retiring idle ⊢
  split
  · rename_i missing
    rw [Dict.erase_of_not_mem (Dict.get?_eq_none_iff.mp missing)]
    exact retiring.rewake _
  · rename_i index mine
    obtain ⟨queue, stored, _⟩ := retiring.wiring.queueLane backend index mine
    have sameLane : lane
        { retired with
          wakeups := retired.wakeups.erase backend
          queues := retired.queues.erase backend } index = queue := lane_eq stored
    unfold cancelQueued
    rw [sameLane]
    exact
      { ledger := retiring.ledger.drain FutureState.cancelled_ne_pending stored (queued_emptied queue)
        wiring := (retiring.wiring.removeLane idle mine stored (queued_emptied queue)).reframe
          _ _ _ _ _ _ }

theorem sound_updateExecutors (sound : Sound scheduler) (executors : Dict String Nat) :
    Sound (scheduler.updateExecutors executors) := by
  have swapped : Sound
      { scheduler with
        executors := executors
        retired := scheduler.retired.filter fun task => !scheduler.taskDone task } :=
    ⟨sound.ledger, sound.wiring.reap.reframe _ _ _ _ _ _⟩
  unfold updateExecutors
  dsimp only
  generalize scheduler.executors.keys.filter (fun backend => !executors.contains backend) =
    removed
  have removedSound := List.foldlRecOn removed removeBackend swapped
    fun _ before backend _ => sound_removeBackend before backend
  exact List.foldlRecOn executors.keys addBackend removedSound
    fun _ before backend _ => sound_addBackend before backend

/-! ### Which backends have a queue -/

theorem queues_retireWorker (scheduler : Scheduler Result) (backend : String) :
    (scheduler.retireWorker backend).queues = scheduler.queues := by
  unfold retireWorker
  split <;> rfl

theorem mem_queues_removeBackend (scheduler : Scheduler Result) (backend other : String) :
    other ∈ (scheduler.removeBackend backend).queues.keys ↔
      other ≠ backend ∧ other ∈ scheduler.queues.keys := by
  have erased : (scheduler.removeBackend backend).queues = scheduler.queues.erase backend := by
    unfold removeBackend
    dsimp only
    split <;> simp only [cancelQueued, queues_retireWorker] <;> rfl
  rw [erased, Dict.mem_keys_erase]

theorem mem_queues_addBackend (scheduler : Scheduler Result) (backend other : String) :
    other ∈ (scheduler.addBackend backend).queues.keys ↔
      other = backend ∨ other ∈ scheduler.queues.keys := by
  unfold addBackend
  split
  · rename_i present
    rw [Dict.contains_iff] at present
    exact ⟨Or.inr, fun either => either.elim (fun same => same ▸ present) id⟩
  · dsimp only
    split
    · exact Dict.mem_keys_set
    · exact Dict.mem_keys_set

theorem mem_queues_removeBackends (scheduler : Scheduler Result) (removed : List String)
    (other : String) :
    other ∈ (removed.foldl removeBackend scheduler).queues.keys ↔
      other ∉ removed ∧ other ∈ scheduler.queues.keys := by
  induction removed generalizing scheduler with
  | nil => simp
  | cons backend removed inductionHypothesis =>
    rw [List.foldl_cons, inductionHypothesis, mem_queues_removeBackend, List.mem_cons, not_or]
    constructor
    · rintro ⟨rest, first, member⟩
      exact ⟨⟨first, rest⟩, member⟩
    · rintro ⟨⟨first, rest⟩, member⟩
      exact ⟨rest, first, member⟩

theorem mem_queues_addBackends (scheduler : Scheduler Result) (added : List String)
    (other : String) :
    other ∈ (added.foldl addBackend scheduler).queues.keys ↔
      other ∈ added ∨ other ∈ scheduler.queues.keys := by
  induction added generalizing scheduler with
  | nil => simp
  | cons backend added inductionHypothesis =>
    rw [List.foldl_cons, inductionHypothesis, mem_queues_addBackend, List.mem_cons, or_left_comm,
      or_assoc]

theorem executors_removeBackend (scheduler : Scheduler Result) (backend : String) :
    (scheduler.removeBackend backend).executors = scheduler.executors := by
  have retired : ((scheduler.clearDegradation backend).retireWorker backend).executors =
      scheduler.executors := by
    unfold retireWorker
    split <;> rfl
  unfold removeBackend
  dsimp only
  split
  · exact retired
  · exact retired

theorem executors_addBackend (scheduler : Scheduler Result) (backend : String) :
    (scheduler.addBackend backend).executors = scheduler.executors := by
  unfold addBackend
  split
  · rfl
  · dsimp only
    split <;> rfl

theorem executors_removeBackends (scheduler : Scheduler Result) (removed : List String) :
    (removed.foldl removeBackend scheduler).executors = scheduler.executors := by
  induction removed generalizing scheduler with
  | nil => rfl
  | cons backend removed inductionHypothesis =>
    exact (inductionHypothesis _).trans (executors_removeBackend scheduler backend)

theorem executors_addBackends (scheduler : Scheduler Result) (added : List String) :
    (added.foldl addBackend scheduler).executors = scheduler.executors := by
  induction added generalizing scheduler with
  | nil => rfl
  | cons backend added inductionHypothesis =>
    exact (inductionHypothesis _).trans (executors_addBackend scheduler backend)

theorem known_updateExecutors (known : Known scheduler) (executors : Dict String Nat) :
    Known (scheduler.updateExecutors executors) := by
  intro backend
  have same : (scheduler.updateExecutors executors).executors = executors := by
    unfold updateExecutors
    dsimp only
    rw [executors_addBackends, executors_removeBackends]
  rw [same]
  unfold updateExecutors
  dsimp only
  rw [mem_queues_addBackends, mem_queues_removeBackends, ← known backend]
  simp only [List.mem_filter, Bool.not_eq_true', ← Bool.not_eq_true, Dict.contains_iff]
  constructor
  · exact Or.inl
  · rintro (member | ⟨notRemoved, member⟩)
    · exact member
    · by_contra absent
      exact notRemoved ⟨member, absent⟩

/-! ### Starting and stopping -/

theorem sound_spawnWorkers (sound : Sound scheduler) {backends : List String}
    (distinct : backends.Nodup)
    (queues : ∀ backend ∈ backends, ∃ index, scheduler.queues.get? backend = some index)
    (idle : ∀ backend ∈ backends, scheduler.workers.get? backend = none)
    (started : scheduler.started = true) (running : scheduler.stopped = false) :
    Sound (backends.foldl spawnWorker scheduler) := by
  induction backends generalizing scheduler with
  | nil => exact sound
  | cons backend backends inductionHypothesis =>
    obtain ⟨fresh, distinctRest⟩ := List.nodup_cons.mp distinct
    obtain ⟨index, mine⟩ := queues backend List.mem_cons_self
    refine inductionHypothesis
      (sound_spawnWorker sound mine (idle backend List.mem_cons_self) started running)
      distinctRest (fun other member => queues other (List.mem_cons_of_mem _ member))
      (fun other member => ?_) started running
    rw [spawnWorker, Dict.get?_set, if_neg, idle other (List.mem_cons_of_mem _ member)]
    rintro rfl
    exact fresh member

theorem backends_spawnWorkers (scheduler : Scheduler Result) (backends : List String) :
    (backends.foldl spawnWorker scheduler).backends = scheduler.backends := by
  induction backends generalizing scheduler with
  | nil => rfl
  | cons backend backends inductionHypothesis => exact inductionHypothesis _

theorem sound_start (sound : Sound scheduler) (known : Known scheduler)
    (fresh : scheduler.started = false) (running : scheduler.stopped = false) :
    Sound scheduler.start := by
  have wiring := sound.wiring
  obtain ⟨_, noWorkers⟩ := wiring.unstarted fresh
  have started : Sound { scheduler with started := true } :=
    ⟨sound.ledger, wiring.queueLane, wiring.queueOwner, wiring.deadLane, wiring.workerQueue,
      wiring.live, wiring.tracked, fun impossible => (by cases impossible), wiring.stopping,
      wiring.calls⟩
  refine sound_spawnWorkers started scheduler.executors.nodup_keys (fun backend member => ?_)
    (fun backend _ => ?_) rfl running
  · exact Dict.mem_keys_iff.mp ((known backend).mp member)
  · show scheduler.workers.get? backend = none
    rw [noWorkers]
    rfl

/-- Cancelling what several lanes queue settles those jobs and empties those lanes. -/
theorem cancelQueued_foldl (scheduler : Scheduler Result) (indices : List Nat) :
    ∃ (jobs : List (Job Result)) (lanes : List (StrideQueue String Nat)),
      indices.foldl cancelQueued scheduler = { scheduler with jobs, lanes } ∧
        (∀ index : Nat, lanes[index]? = (scheduler.lanes[index]?).map fun queue =>
          if index ∈ indices then { queue with items := queue.items.mapValues fun _ _ => [] }
          else queue) ∧
        (Ledger scheduler.jobs scheduler.lanes scheduler.tasks scheduler.running
            scheduler.handed →
          Ledger jobs lanes scheduler.tasks scheduler.running scheduler.handed) := by
  induction indices generalizing scheduler with
  | nil => exact ⟨scheduler.jobs, scheduler.lanes, rfl, by simp, id⟩
  | cons index indices inductionHypothesis =>
    obtain ⟨jobs, lanes, folded, lookup, ledger⟩ := inductionHypothesis (scheduler.cancelQueued index)
    refine ⟨jobs, lanes, folded, fun other => ?_, fun before => ledger ?_⟩
    · rw [lookup]
      cases stored : scheduler.lanes[index]? with
      | none =>
        have unchanged : (scheduler.cancelQueued index).lanes = scheduler.lanes :=
          List.set_eq_of_length_le (List.getElem?_eq_none_iff.mp stored)
        rw [unchanged]
        by_cases same : other = index
        · rw [same, stored]
          rfl
        · simp [same]
      | some queue =>
        rw [cancelQueued, lane_eq stored, Table.getElem?_set stored]
        by_cases same : other = index
        · rw [if_pos same, same, stored, Option.map_some, Option.map_some,
            if_pos List.mem_cons_self]
          split <;> simp [Dict.mapValues]
        · simp [same]
    · cases stored : scheduler.lanes[index]? with
      | none =>
        have nothing : scheduler.lane index = StrideQueue.empty := by rw [lane, stored]; rfl
        have unchanged : (scheduler.cancelQueued index).lanes = scheduler.lanes :=
          List.set_eq_of_length_le (List.getElem?_eq_none_iff.mp stored)
        have kept : (scheduler.cancelQueued index).jobs = scheduler.jobs := by
          rw [cancelQueued, nothing]
          rfl
        rw [unchanged, kept]
        exact before
      | some queue =>
        rw [cancelQueued, lane_eq stored]
        exact before.drain FutureState.cancelled_ne_pending stored (queued_emptied queue)

theorem sound_stop (sound : Sound scheduler) : Sound scheduler.stop :=
  ⟨sound.ledger.cancelTasks _, sound.wiring.stop⟩

theorem sound_finishStop (sound : Sound scheduler) {call : Nat} {gathered : StopCall}
    (stored : scheduler.stops[call]? = some gathered)
    (ended : scheduler.gathered gathered = true) : Sound (scheduler.finishStop call gathered) := by
  unfold finishStop
  dsimp only
  obtain ⟨jobs, lanes, folded, lookup, ledger⟩ := cancelQueued_foldl
    { scheduler with
      workers := Dict.empty
      retired := []
      degraded := Dict.empty
      stops := scheduler.stops.set call { gathered with returned := true } }
    scheduler.queues.values
  rw [folded]
  refine ⟨ledger sound.ledger, sound.wiring.finishStop stored ended (fun index queue found => ?_)
    fun index present => ?_⟩
  · rw [lookup, Option.map_eq_some_iff] at found
    obtain ⟨before, storedBefore, rfl⟩ := found
    refine ⟨before, storedBefore, fun member => ?_, fun absent => if_neg absent⟩
    rw [if_pos member]
    exact queued_emptied before
  · rw [lookup, Option.isSome_map]
    exact present

theorem backends_finishStop (scheduler : Scheduler Result) (call : Nat) (gathered : StopCall) :
    (scheduler.finishStop call gathered).backends = scheduler.backends := by
  unfold finishStop
  dsimp only
  obtain ⟨jobs, lanes, folded, _⟩ := cancelQueued_foldl
    { scheduler with
      workers := Dict.empty
      retired := []
      degraded := Dict.empty
      stops := scheduler.stops.set call { gathered with returned := true } }
    scheduler.queues.values
  rw [folded]
  rfl

/-! ### Submitters -/

theorem sound_submit (sound : Sound scheduler)
    (accepts : scheduler.submit backend workloadId = .ok submitted) : Sound submitted := by
  unfold submit at accepts
  split at accepts
  · cases accepts
  · rename_i running
    rw [Bool.not_eq_true] at running
    split at accepts
    · cases accepts
    · rename_i index mine
      dsimp only at accepts
      split at accepts
      · cases accepts
      · cases accepts
        obtain ⟨queue, stored, either⟩ := sound.wiring.queueLane backend index mine
        have consistent : queue.Consistent := either.resolve_right fun both => by
          rw [running] at both
          cases both.1
        rw [lane_eq stored]
        exact
          { ledger := sound.ledger.submit stored consistent workloadId
            wiring := (sound.wiring.fillLane running mine stored
              (StrideQueue.consistent_push consistent _ _)).reframe _ _ _ _ _ _ }

theorem backends_submit (accepts : scheduler.submit backend workloadId = .ok submitted) :
    submitted.backends = scheduler.backends := by
  unfold submit at accepts
  split at accepts
  · cases accepts
  · split at accepts
    · cases accepts
    · dsimp only at accepts
      split at accepts
      · cases accepts
      · cases accepts
        rfl

theorem sound_cancelFuture (sound : Sound scheduler) {job : Job Result}
    (stored : scheduler.jobs[index]? = some job) : Sound (scheduler.cancelFuture index job) := by
  unfold cancelFuture
  split
  · dsimp only
    refine ⟨sound.ledger.withdraw stored rfl rfl (by simp) ?_, sound.wiring.reframe _ _ _ _ _ _⟩
    dsimp only
    split <;> simp
  · exact sound

theorem backends_cancelFuture (scheduler : Scheduler Result) (index : Nat) (job : Job Result) :
    (scheduler.cancelFuture index job).backends = scheduler.backends := by
  unfold cancelFuture
  split <;> rfl

/-! ### Workers change no backend -/

theorem backends_await (scheduler : Scheduler Result) (task : Nat) (backend : String)
    (index : Nat) : (scheduler.await task backend index).backends = scheduler.backends :=
  backends_setStatus _ _ _

theorem backends_execute (scheduler : Scheduler Result) (task : Nat) (backend : String)
    (index job : Nat) :
    (scheduler.execute task backend index job).backends = scheduler.backends := by
  unfold execute
  split
  · exact backends_setStatus _ _ _
  · exact backends_await _ _ _ _

theorem backends_workerLoop (scheduler : Scheduler Result) (task : Nat) (backend : String)
    (index : Nat) (callbacks : PopCallbacks) :
    (scheduler.workerLoop task backend index callbacks).backends = scheduler.backends := by
  unfold workerLoop
  split
  · exact backends_setStatus _ _ _
  · cases callbacks with
    | answer weightOf admits =>
      dsimp only
      split
      · exact backends_await _ _ _ _
      · exact backends_execute _ _ _ _ _
    | raiseCancelled passes =>
      dsimp only
      split
      · exact backends_await _ _ _ _
      · exact backends_setStatus _ _ _
    | raiseError error passes =>
      dsimp only
      split
      · exact backends_await _ _ _ _
      · exact backends_await _ _ _ _

theorem backends_unwind (scheduler : Scheduler Result) (task : Nat) (status : WorkerStatus) :
    (scheduler.unwind task status).backends = scheduler.backends := by
  cases status with
  | executing index job workloadId =>
    exact (backends_setStatus _ _ _).trans (backends_finishJob _ _ _ _ _ _)
  | notStarted => exact backends_setStatus _ _ _
  | waiting index => exact backends_setStatus _ _ _
  | ended => exact backends_setStatus _ _ _

theorem backends_complete (scheduler : Scheduler Result) (task : Nat) (backend : String)
    (index job : Nat) (workloadId : String) (outcome : ExecutorOutcome Result)
    (callbacks : PopCallbacks) :
    (scheduler.complete task backend index job workloadId outcome callbacks).backends =
      scheduler.backends := by
  unfold complete
  cases outcome with
  | success value => exact (backends_workerLoop _ _ _ _ _).trans (backends_finishJob _ _ _ _ _ _)
  | raisedCancelled => exact (backends_setStatus _ _ _).trans (backends_finishJob _ _ _ _ _ _)
  | raised error =>
    dsimp only
    split
    · exact (backends_workerLoop _ _ _ _ _).trans (backends_finishJob _ _ _ _ _ _)
    · exact (backends_workerLoop _ _ _ _ _).trans (backends_finishJob _ _ _ _ _ _)

/-! ### Steps -/

/-- What a resumed worker does: it unwinds, or its loop serves its backend's lane. -/
theorem resume_cases (resumes : scheduler.resume task worker callbacks = some next) :
    worker.status ≠ .ended ∧
      (next = scheduler.unwind task worker.status ∨
        next = scheduler.setStatus task .ended ∧ worker.status = .notStarted ∨
        ∃ index, worker.cancelRequested = false ∧ worker.held = [] ∧
          (scheduler.queues.get? worker.backend = some index ∨
            worker.status.serves = some index) ∧
          next = scheduler.workerLoop task worker.backend index callbacks) := by
  unfold resume at resumes
  split at resumes
  · cases resumes
  · rename_i alive
    refine ⟨alive, ?_⟩
    split at resumes
    · exact Or.inl (Option.some.inj resumes).symm
    · rename_i kept
      rw [Bool.not_eq_true] at kept
      split at resumes
      · rename_i status
        split at resumes
        · exact Or.inr (Or.inl ⟨(Option.some.inj resumes).symm, status⟩)
        · rename_i index mine
          exact Or.inr (Or.inr ⟨index, kept, by rw [Worker.held, status], Or.inl mine,
            (Option.some.inj resumes).symm⟩)
      · rename_i index status
        split at resumes
        · exact Or.inr (Or.inr ⟨index, kept, by rw [Worker.held, status],
            Or.inr (by rw [status]; rfl), (Option.some.inj resumes).symm⟩)
        · cases resumes
      · cases resumes

/-- A live worker about to serve finds its lane and its executor. -/
theorem serving_of_live (sound : Sound scheduler) (stored : scheduler.tasks[task]? = some worker)
    (alive : worker.status ≠ .ended) (kept : worker.cancelRequested = false)
    (idle : worker.held = [])
    (mine : scheduler.queues.get? worker.backend = some index ∨ worker.status.serves = some index) :
    Serving scheduler task worker.backend index where
  worker := ⟨worker, stored, rfl, kept, alive, idle⟩
  queue := mine.elim id ((sound.wiring.live task worker stored alive kept).2 index)

/-- Everything the scheduler keeps: places, wiring and an executor for every queue. -/
structure Accounted (scheduler : Scheduler Result) : Prop where
  sound : Sound scheduler
  known : Known scheduler

theorem accounted_resume (accounted : Accounted scheduler)
    (stored : scheduler.tasks[task]? = some worker)
    (resumes : scheduler.resume task worker callbacks = some next) : Accounted next := by
  obtain ⟨sound, known⟩ := accounted
  obtain ⟨alive, rfl | ⟨rfl, status⟩ | ⟨index, kept, idle, mine, rfl⟩⟩ := resume_cases resumes
  · exact ⟨sound_unwind sound stored alive, known.of_backends (backends_unwind _ _ _)⟩
  · exact ⟨sound.endTask stored alive (by rw [Worker.held, status]),
      known.of_backends (backends_setStatus _ _ _)⟩
  · have serving := serving_of_live sound stored alive kept idle mine
    have executor : worker.backend ∈ scheduler.executors.keys :=
      (known worker.backend).mpr (Dict.mem_keys_of_get? serving.queue)
    exact ⟨sound_workerLoop sound serving executor callbacks,
      known.of_backends (backends_workerLoop _ _ _ _ _)⟩

/-- Every action keeps a sound scheduler sound. -/
theorem accounted_step (accounted : Accounted scheduler) (steps : scheduler.step action = some next) :
    Accounted next := by
  obtain ⟨sound, known⟩ := accounted
  cases action with
  | start =>
    simp only [step] at steps
    split at steps
    · cases steps
    · rename_i fresh
      simp only [Bool.or_eq_true, not_or, Bool.not_eq_true] at fresh
      obtain rfl := Option.some.inj steps
      exact ⟨sound_start sound known fresh.1 fresh.2,
        known.of_backends (backends_spawnWorkers _ _)⟩
  | updateExecutors executors =>
    obtain rfl := Option.some.inj steps
    exact ⟨sound_updateExecutors sound executors, known_updateExecutors known executors⟩
  | stop =>
    obtain rfl := Option.some.inj steps
    exact ⟨sound_stop sound, known⟩
  | stopReturns call =>
    simp only [step] at steps
    split at steps
    · cases steps
    · rename_i pending stored
      split at steps
      · rename_i finished
        obtain rfl := Option.some.inj steps
        rw [Bool.and_eq_true] at finished
        exact ⟨sound_finishStop sound stored finished.2,
          known.of_backends (backends_finishStop _ _ _)⟩
      · cases steps
  | kick =>
    obtain rfl := Option.some.inj steps
    exact ⟨sound.rewake _, known⟩
  | submit backend workloadId =>
    simp only [step] at steps
    split at steps
    · obtain rfl := Option.some.inj steps
      exact ⟨sound, known⟩
    · rename_i submitted accepts
      obtain rfl := Option.some.inj steps
      exact ⟨sound_submit sound accepts, known.of_backends (backends_submit accepts)⟩
  | cancelFuture index =>
    simp only [step] at steps
    split at steps
    · cases steps
    · rename_i job stored
      obtain rfl := Option.some.inj steps
      exact ⟨sound_cancelFuture sound stored, known.of_backends (backends_cancelFuture _ _ _)⟩
  | resume task callbacks =>
    simp only [step] at steps
    split at steps
    · cases steps
    · rename_i worker stored
      exact accounted_resume ⟨sound, known⟩ stored steps
  | complete task outcome callbacks =>
    simp only [step] at steps
    split at steps
    · cases steps
    · rename_i worker stored
      split at steps
      · rename_i index job workloadId executing
        split at steps
        · cases steps
        · rename_i kept
          rw [Bool.not_eq_true] at kept
          obtain rfl := Option.some.inj steps
          have alive : worker.status ≠ .ended := by simp [executing]
          obtain ⟨queue, found⟩ := sound.wiring.workerQueue worker.backend task
            (sound.wiring.live task worker stored alive kept).1
          have executor : worker.backend ∈ scheduler.executors.keys :=
            (known worker.backend).mpr (Dict.mem_keys_of_get? found)
          exact ⟨sound_complete sound stored executing kept executor outcome callbacks,
            known.of_backends (backends_complete _ _ _ _ _ _ _ _)⟩
      · cases steps

/-! ### The initial scheduler -/

theorem get?_queues_create {depth : QueueDepth} :
    (create depth executors : Scheduler Result).queues.get? backend = some index ↔
      executors.keys[index]? = some backend := by
  rw [Dict.get?_eq_some_iff]
  exact List.mk_mem_zipIdx_iff_getElem?

theorem accounted_create (depth : QueueDepth) (executors : Dict String Nat) :
    Accounted (create depth executors : Scheduler Result) := by
  have blank : ∀ (index : Nat) (queue : StrideQueue String Nat),
      (create depth executors : Scheduler Result).lanes[index]? = some queue →
        queue = StrideQueue.empty := by
    intro index queue found
    obtain ⟨_, _, same⟩ := List.mem_map.mp (List.mem_of_getElem? found)
    exact same.symm
  have nowhere : places (create depth executors : Scheduler Result).lanes [] = [] := by
    rw [places, List.flatMap_nil, List.append_nil, List.flatMap_eq_nil_iff]
    intro queue member
    obtain ⟨index, found⟩ := List.mem_iff_getElem?.mp member
    rw [blank index queue found]
    rfl
  refine ⟨⟨?_, ?_⟩, fun backend => ?_⟩
  · exact
      { nodup := by
          show (places (create depth executors : Scheduler Result).lanes []).Nodup
          rw [nowhere]
          exact List.nodup_nil
        queued := fun index queue key job found waits => by
          rw [blank index queue found] at waits
          exact absurd waits List.not_mem_nil
        held := fun task worker index job workloadId found => by cases found
        placed := fun job row found => by cases found
        kept := fun job row found => by cases found
        running := fun workloadId => rfl
        handedOnce := List.nodup_nil
        handedLeft := fun job member => absurd member List.not_mem_nil }
  · exact
      { queueLane := fun backend index found => by
          refine ⟨StrideQueue.empty, ?_, Or.inl StrideQueue.consistent_empty⟩
          show (executors.keys.map fun _ => StrideQueue.empty)[index]? = some StrideQueue.empty
          rw [List.getElem?_map, get?_queues_create.mp found]
          rfl
        queueOwner := fun backend other index found otherFound => by
          have first := get?_queues_create.mp found
          rw [get?_queues_create.mp otherFound] at first
          exact (Option.some.inj first).symm
        deadLane := fun index queue found _ => by
          rw [blank index queue found]
          rfl
        workerQueue := fun backend task found => by cases found
        live := fun task worker found => by cases found
        tracked := fun task worker found => by cases found
        unstarted := fun _ => ⟨rfl, rfl⟩
        stopping := fun impossible => by cases impossible
        calls := fun call member => absurd member List.not_mem_nil }
  · have same : (create depth executors : Scheduler Result).queues.keys = executors.keys :=
      List.zipIdx_map_fst _ _
    rw [same]
    exact Iff.rfl

/-! ### What a step withdraws and hands out -/

/-- The lane whose next job the worker of an action takes, and the callbacks of the pop. -/
def turn (scheduler : Scheduler Result) : Action Result → Option (Nat × PopCallbacks)
  | .resume task callbacks =>
    match scheduler.tasks[task]? with
    | none => none
    | some worker =>
      if worker.cancelRequested then none
      else
        match worker.status with
        | .notStarted =>
          match scheduler.queues.get? worker.backend with
          | none => none
          | some index => some (index, callbacks)
        | .waiting index => some (index, callbacks)
        | _ => none
  | .complete task outcome callbacks =>
    match scheduler.tasks[task]? with
    | none => none
    | some worker =>
      match worker.status with
      | .executing index _ _ =>
        match outcome with
        | .success _ => some (index, callbacks)
        -- a `BaseException` fails everything queued before the loop comes round
        | .raised error => if error.isException then some (index, callbacks) else none
        | .raisedCancelled => none
      | _ => none
  | _ => none

/-- The job at the head of the queue that the worker of an action would serve. -/
def served (scheduler : Scheduler Result) (action : Action Result) : Option Nat :=
  (scheduler.turn action).bind fun turn => scheduler.head turn.1 turn.2

theorem head_eq (lanes : after.lanes = before.lanes) (index : Nat) (callbacks : PopCallbacks) :
    after.head index callbacks = before.head index callbacks := by
  cases callbacks with
  | answer weightOf admits => simp only [head, lane, lanes]
  | raiseCancelled passes => rfl
  | raiseError error passes => rfl

theorem lanes_finishJob (scheduler : Scheduler Result) (task index job : Nat)
    (workloadId : String) (outcome : FutureState Result) :
    (scheduler.finishJob task index job workloadId outcome).lanes = scheduler.lanes := by
  unfold finishJob setStatus
  dsimp only
  split <;> rfl

/-- A drained lane has no head. -/
theorem head_drained (stored : scheduler.lanes[index]? = some queue) (nothing : queue.queued = [])
    (callbacks : PopCallbacks) : scheduler.head index callbacks = none := by
  cases callbacks with
  | answer weightOf admits =>
    simp only [head, lane_eq stored]
    split
    · rfl
    · rename_i key advanced chooses
      have empty : queue.waiting key = [] := by
        refine List.eq_nil_iff_forall_not_mem.mpr fun job waits => ?_
        have member : job ∈ queue.queued := StrideQueue.mem_queued.mpr ⟨key, waits⟩
        rw [nothing] at member
        exact List.not_mem_nil member
      rw [empty]
      rfl
  | raiseCancelled passes => rfl
  | raiseError error passes => rfl

/-- What one step does to the history of withdrawals and of jobs handed out. -/
inductive HistoryStep (scheduler : Scheduler Result) (action : Action Result)
    (next : Scheduler Result) : Prop where
  | carries (carries : Carries scheduler next)
  | withdraws (index : Nat) (job : Job Result) (isCancel : action = .cancelFuture index)
    (stored : scheduler.jobs[index]? = some job) (result : next = scheduler.cancelFuture index job)
  | hands (job : Nat) (middle : Scheduler Result) (carries : Carries scheduler middle)
    (head : scheduler.served action = some job) (jobs : next.jobs = middle.jobs)
    (handed : next.handed = middle.handed ++ [job])

theorem historyStep_of_loop {middle : Scheduler Result} (carries : Carries scheduler middle)
    (same : middle.head index callbacks = scheduler.served action) :
    HistoryStep scheduler action (middle.workerLoop task backend index callbacks) := by
  rcases workerLoop_history middle task backend index callbacks with on | ⟨job, head, jobs, handed⟩
  · exact .carries (carries.trans on)
  · exact .hands job middle carries (same ▸ head) jobs handed

theorem history_resume (stored : scheduler.tasks[task]? = some worker)
    (resumes : scheduler.resume task worker callbacks = some next) :
    HistoryStep scheduler (.resume task callbacks) next := by
  unfold resume at resumes
  split at resumes
  · cases resumes
  · split at resumes
    · cases resumes
      exact .carries (carries_unwind _ _ _)
    · rename_i kept
      split at resumes
      · rename_i status
        split at resumes
        · cases resumes
          exact .carries (carries_setStatus _ _ _)
        · rename_i index mine
          cases resumes
          refine historyStep_of_loop (.refl scheduler) ?_
          simp only [served, turn, stored, status, mine]
          rw [if_neg kept]
          rfl
      · rename_i index status
        split at resumes
        · cases resumes
          refine historyStep_of_loop (.refl scheduler) ?_
          simp only [served, turn, stored, status]
          rw [if_neg kept]
          rfl
        · cases resumes
      · cases resumes

theorem history_complete (sound : Sound scheduler) (stored : scheduler.tasks[task]? = some worker)
    (executing : worker.status = .executing index job workloadId)
    (kept : worker.cancelRequested = false) (outcome : ExecutorOutcome Result)
    (callbacks : PopCallbacks) :
    HistoryStep scheduler (.complete task outcome callbacks)
      (scheduler.complete task worker.backend index job workloadId outcome callbacks) := by
  unfold complete
  cases outcome with
  | success value =>
    have cleared : Carries scheduler (scheduler.clearDegradation worker.backend) := .of_eq rfl rfl
    refine historyStep_of_loop (cleared.trans
      (carries_finishJob _ _ _ _ _ (FutureState.result_ne_pending value))) ?_
    simp only [served, turn, stored, executing]
    exact head_eq (lanes_finishJob _ _ _ _ _ _) index callbacks
  | raisedCancelled =>
    exact .carries ((carries_finishJob _ _ _ _ _ FutureState.cancelled_ne_pending).trans
      (carries_setStatus _ _ _))
  | raised error =>
    dsimp only
    split
    · rename_i caught
      refine historyStep_of_loop
        (carries_finishJob _ _ _ _ _ (FutureState.exception_ne_pending error)) ?_
      simp only [served, turn, stored, executing]
      rw [if_pos caught]
      exact head_eq (lanes_finishJob _ _ _ _ _ _) index callbacks
    · rename_i uncaught
      have fails : FutureState.exception ⟨"RuntimeError", error.text, true⟩ ≠
          (FutureState.pending : FutureState Result) := FutureState.exception_ne_pending _
      have serving := serving_finishJob sound stored executing kept
        (.exception ⟨"RuntimeError", error.text, true⟩)
      obtain ⟨queue, found, consistent⟩ := serving.lane (sound_finishJob sound fails stored executing)
      refine historyStep_of_loop ((carries_finishJob _ _ _ _ _ fails).trans
        (carries_degrade _ _ _ _)) ?_
      simp only [served, turn, stored, executing]
      rw [if_neg uncaught]
      have emptied : ((scheduler.finishJob task index job workloadId
          (.exception ⟨"RuntimeError", error.text, true⟩)).degrade worker.backend index
            error.typeName).lanes[index]? = some (drained queue) := by
        rw [degrade, lane_eq found]
        exact List.getElem?_set_self (List.getElem?_eq_some_iff.mp found).1
      exact head_drained emptied (queued_drained consistent) callbacks

/-- Every step's effect on the history. -/
theorem history_step (sound : Sound scheduler) (steps : scheduler.step action = some next) :
    HistoryStep scheduler action next := by
  cases action with
  | start =>
    simp only [step] at steps
    split at steps
    · cases steps
    · cases steps
      exact .carries (carries_start scheduler)
  | updateExecutors executors =>
    cases steps
    exact .carries (carries_updateExecutors scheduler executors)
  | stop =>
    cases steps
    exact .carries (.of_eq rfl rfl)
  | stopReturns call =>
    simp only [step] at steps
    split at steps
    · cases steps
    · split at steps
      · cases steps
        exact .carries (carries_finishStop _ _ _)
      · cases steps
  | kick =>
    cases steps
    exact .carries (.of_eq rfl rfl)
  | submit backend workloadId =>
    simp only [step] at steps
    split at steps
    · cases steps
      exact .carries (.refl scheduler)
    · rename_i accepts
      cases steps
      exact .carries (carries_submit accepts)
  | cancelFuture index =>
    simp only [step] at steps
    split at steps
    · cases steps
    · rename_i job stored
      cases steps
      exact .withdraws index job rfl stored rfl
  | resume task callbacks =>
    simp only [step] at steps
    split at steps
    · cases steps
    · rename_i worker stored
      exact history_resume stored steps
  | complete task outcome callbacks =>
    simp only [step] at steps
    split at steps
    · cases steps
    · rename_i worker stored
      split at steps
      · rename_i index job workloadId executing
        split at steps
        · cases steps
        · rename_i kept
          rw [Bool.not_eq_true] at kept
          cases steps
          exact history_complete sound stored executing kept outcome callbacks
      · cases steps

/-- Only a submitter's cancellation withdraws a job. -/
theorem kept_step (sound : Sound scheduler) (steps : scheduler.step action = some next)
    (noCancel : ∀ job, action ≠ .cancelFuture job)
    (kept : ∀ row ∈ scheduler.jobs, row.withdrawal = .kept) :
    ∀ row ∈ next.jobs, row.withdrawal = .kept := by
  have carried : ∀ {after : Scheduler Result}, Carries scheduler after →
      ∀ row ∈ after.jobs, row.withdrawal = .kept := by
    intro after carries row member
    obtain ⟨job, found⟩ := List.mem_iff_getElem?.mp member
    rcases carries.jobs job row found with fresh | ⟨old, stored, same, _⟩
    · exact fresh
    · exact same ▸ kept old (List.mem_of_getElem? stored)
  cases history_step sound steps with
  | carries carries => exact carried carries
  | withdraws index job isCancel _ _ => exact absurd isCancel (noCancel index)
  | hands job middle carries _ jobs _ =>
    rw [jobs]
    exact carried carries

/-! ### Where every job is -/

/-- The jobs queued in the lanes of live backends. -/
def queuedLive (scheduler : Scheduler Result) : List Nat :=
  scheduler.queues.values.flatMap fun index => (scheduler.lane index).queued

/-- The jobs workers are executing. -/
def executing (scheduler : Scheduler Result) : List Nat := scheduler.tasks.flatMap Worker.held

/-- Every worker that was asked to cancel has ended. -/
def Unwound (scheduler : Scheduler Result) : Prop :=
  ∀ worker ∈ scheduler.tasks, worker.cancelRequested = true → worker.status = .ended

/-- A lane whose backend was removed. -/
def Removed (scheduler : Scheduler Result) (index : Nat) : Prop :=
  ∀ backend, scheduler.queues.get? backend ≠ some index

/-- Whatever is queued is queued in a live lane. -/
theorem queuedLive_perm (sound : Sound scheduler) :
    scheduler.queuedLive.Perm (scheduler.lanes.flatMap StrideQueue.queued) := by
  have nothing : (StrideQueue.empty : StrideQueue String Nat).queued = [] := rfl
  refine Table.flatMap_select nothing (Dict.nodup_values sound.wiring.queueOwner)
    fun index queue stored absent => ?_
  refine sound.wiring.deadLane index queue stored fun backend mine => ?_
  exact absent (Dict.mem_values_iff.mpr ⟨backend, mine⟩)

theorem places_count (sound : Sound scheduler) (job : Nat) :
    (places scheduler.lanes scheduler.tasks).count job =
      scheduler.queuedLive.count job + scheduler.executing.count job := by
  rw [places, List.count_append, (queuedLive_perm sound).count_eq, executing]

/-- A job whose future its submitter left alone is in exactly one place. -/
theorem one_place (sound : Sound scheduler) (stored : scheduler.jobs[job]? = some row)
    (kept : row.withdrawal = .kept) :
    scheduler.queuedLive.count job + scheduler.executing.count job +
      (if row.future.isDone then 1 else 0) = 1 := by
  rw [← places_count sound]
  by_cases pending : row.future = .pending
  · rw [pending, List.count_eq_one_of_mem sound.ledger.nodup
      (sound.ledger.placed job row stored pending)]
    rfl
  · have absent : job ∉ places scheduler.lanes scheduler.tasks := fun member =>
      pending (sound.ledger.kept job row stored member kept)
    rw [List.count_eq_zero_of_not_mem absent]
    cases future : row.future with
    | pending => exact absurd future pending
    | cancelled => rfl
    | result value => rfl
    | exception error => rfl

/-- A pending job waits in a live lane or is executed by a worker that is not unwinding. -/
theorem Sound.pending_cases (sound : Sound scheduler) (unwound : Unwound scheduler)
    (stored : scheduler.jobs[job]? = some row) (pending : row.future = .pending) :
    ∃ backend, scheduler.queues.get? backend = some row.lane ∧
      ((∃ queue, scheduler.lanes[row.lane]? = some queue ∧ queue.queued ≠ []) ∨
        ∃ (task : Nat) (worker : Worker), scheduler.tasks[task]? = some worker ∧
          worker.status ≠ .ended ∧ worker.cancelRequested = false) := by
  rcases List.mem_append.mp (sound.ledger.placed job row stored pending) with inside | inside
  · obtain ⟨index, queue, key, found, waits⟩ := mem_lanes_iff.mp inside
    obtain ⟨same, lookup, _, home⟩ := sound.ledger.queued index queue key job found waits
    obtain rfl : row = same := Option.some.inj (stored.symm.trans lookup)
    have nonempty : queue.queued ≠ [] :=
      List.ne_nil_of_mem (StrideQueue.mem_queued.mpr ⟨key, waits⟩)
    by_contra dead
    refine nonempty (sound.wiring.deadLane index queue found fun backend mine => ?_)
    exact dead ⟨backend, by rw [home, mine], Or.inl ⟨queue, by rw [home, found], nonempty⟩⟩
  · obtain ⟨task, worker, index, workloadId, found, running⟩ := mem_tasks_iff.mp inside
    obtain ⟨same, lookup, _, home⟩ := sound.ledger.held task worker index job workloadId found running
    obtain rfl : row = same := Option.some.inj (stored.symm.trans lookup)
    have alive : worker.status ≠ .ended := by simp [running]
    have kept : worker.cancelRequested = false := by
      by_contra cancelled
      rw [Bool.not_eq_false] at cancelled
      exact alive (unwound worker (List.mem_of_getElem? found) cancelled)
    refine ⟨worker.backend, ?_, Or.inr ⟨task, worker, found, alive, kept⟩⟩
    rw [home]
    exact (sound.wiring.live task worker found alive kept).2 index (by rw [running]; rfl)

/-- In a run in which no submitter cancels a future, none is withdrawn. -/
theorem kept_run {depth : QueueDepth} {actions : List (Action Result)} {final : Scheduler Result}
    (runs : Machine.run step (create depth executors) actions = some final)
    (noCancel : ∀ job, .cancelFuture job ∉ actions) :
    ∀ row ∈ final.jobs, row.withdrawal = .kept := by
  have throughout : Machine.Throughout step
      (fun _ action => ∀ job, action ≠ .cancelFuture job) (create depth executors) actions :=
    Machine.throughout_of_forall fun action member job same => noCancel job (same ▸ member)
  refine (Machine.invariant_run_throughout
    (fun state => Accounted state ∧ ∀ row ∈ state.jobs, row.withdrawal = .kept)
    (fun state action next invariant allowed steps => ?_)
    ⟨accounted_create depth executors, fun row member => absurd member List.not_mem_nil⟩
    throughout runs).2
  exact ⟨accounted_step invariant.1 steps, kept_step invariant.1.sound steps allowed invariant.2⟩

/-- In every state of every run: a job its submitter did not cancel (every job, when no submitter
cancels) is queued in one live lane, held by one executing worker or done, and in one of these
places only; no job was handed to an
executor twice; the running counts are the executing workers' and positive; and once the cancelled
workers have unwound, no future submitted to a removed backend's lane, and none at all after a
stop returned, is pending. -/
theorem jobs_conserved (depth : QueueDepth) (executors : Dict String Nat)
    (actions : List (Action Result)) (final : Scheduler Result)
    (runs : Machine.run step (create depth executors) actions = some final) :
    (∀ (job : Nat) (row : Job Result), final.jobs[job]? = some row →
      row.withdrawal = .kept ∨ (∀ other, .cancelFuture other ∉ actions) →
        final.queuedLive.count job + final.executing.count job +
          (if row.future.isDone then 1 else 0) = 1) ∧
      final.handed.Nodup ∧
      (∀ workloadId,
        final.running.count workloadId = final.tasks.countP (Worker.executes workloadId)) ∧
      (∀ workloadId count, final.running.counts.get? workloadId = some count → 0 < count) ∧
      (Unwound final →
        (∀ (job : Nat) (row : Job Result), final.jobs[job]? = some row →
          Removed final row.lane → row.future.isDone = true) ∧
        ∀ call ∈ final.stops, call.returned = true →
          ∀ (job : Nat) (row : Job Result), final.jobs[job]? = some row →
            row.future.isDone = true) := by
  obtain ⟨sound, _⟩ := Machine.invariant_run Accounted
    (fun _ _ _ kept steps => accounted_step kept steps) (accounted_create depth executors) runs
  have done : ∀ row : Job Result, row.future ≠ .pending → row.future.isDone = true := by
    intro row settled
    cases future : row.future with
    | pending => exact absurd future settled
    | cancelled => rfl
    | result value => rfl
    | exception error => rfl
  refine ⟨fun job row stored either => one_place sound stored (either.elim id fun noCancel =>
      kept_run runs noCancel row (List.mem_of_getElem? stored)), sound.ledger.handedOnce, sound.ledger.running,
    final.running.positive, fun unwound => ⟨fun job row stored removed => ?_,
      fun call member returned job row stored => ?_⟩⟩
  · refine done row fun pending => ?_
    obtain ⟨backend, mine, _⟩ := sound.pending_cases unwound stored pending
    exact removed backend mine
  · refine done row fun pending => ?_
    obtain ⟨stopped, _, emptied⟩ := sound.wiring.calls call member
    obtain ⟨_, _, ⟨queue, found, nonempty⟩ | ⟨task, worker, found, alive, kept⟩⟩ :=
      sound.pending_cases unwound stored pending
    · exact nonempty (emptied returned row.lane queue found)
    · rw [sound.wiring.stopping stopped task worker found alive] at kept
      cases kept

/-- A backend is removed under an executing worker and added again, and the scheduler stopped. -/
theorem jobs_conserved_removal :
    let one : Dict String Nat := ⟨[("tpu", 0)], by decide⟩
    let callbacks : PopCallbacks := .answer (fun _ => .integer 1) none
    let actions : List (Action Nat) :=
      [.start, .submit "tpu" "alpha", .submit "tpu" "beta", .resume 0 callbacks,
        .updateExecutors Dict.empty, .resume 0 callbacks, .updateExecutors one,
        .submit "tpu" "alpha", .resume 1 callbacks, .complete 1 (.success 7) callbacks, .stop,
        .resume 1 callbacks, .stopReturns 0]
    ∃ final, Machine.run step (create ⟨5, by decide⟩ one) actions = some final ∧
      final.jobs.map Job.future = [.cancelled, .cancelled, .result 7] ∧ final.handed = [0, 2] ∧
        final.handed.Nodup := by
  intro one callbacks actions
  have outcome : (Machine.run step (create ⟨5, by decide⟩ one) actions).map (fun final =>
      (final.jobs.map Job.future, final.handed)) =
        some ([.cancelled, .cancelled, .result 7], [0, 2]) := by decide +kernel
  obtain ⟨final, runs, both⟩ := Option.map_eq_some_iff.mp outcome
  obtain ⟨futures, handed⟩ := Prod.mk.inj both
  exact ⟨final, runs, futures, handed, (jobs_conserved _ one actions final runs).2.1⟩

/-- A backend runs one job at a time: in every state of every run, no two workers that hold a job and were
not asked to cancel are of one backend. -/
theorem one_job_per_backend (depth : QueueDepth) (executors : Dict String Nat)
    (actions : List (Action Result)) (final : Scheduler Result)
    (runs : Machine.run step (create depth executors) actions = some final)
    (first second : Nat) (one other : Worker) (storedFirst : final.tasks[first]? = some one)
    (storedSecond : final.tasks[second]? = some other) (holds : one.held ≠ []) (holdsOther : other.held ≠ [])
    (kept : one.cancelRequested = false) (keptOther : other.cancelRequested = false)
    (same : one.backend = other.backend) : first = second := by
  obtain ⟨sound, _⟩ := Machine.invariant_run Accounted
    (fun _ _ _ kept steps => accounted_step kept steps) (accounted_create depth executors) runs
  have alive : ∀ {worker : Worker}, worker.held ≠ [] → worker.status ≠ .ended := by
    intro worker holds ended
    rw [Worker.held, ended] at holds
    exact holds rfl
  have mine := (sound.wiring.live first one storedFirst (alive holds) kept).1
  have others := (sound.wiring.live second other storedSecond (alive holdsOther) keptOther).1
  rw [same] at mine
  exact Option.some.inj (mine.symm.trans others)

/-- While the worker of a removed backend unwinds, the backend is added again and serves a job. -/
theorem one_job_per_backend_readded :
    let one : Dict String Nat := ⟨[("tpu", 0)], by decide⟩
    let callbacks : PopCallbacks := .answer (fun _ => .integer 1) none
    let actions : List (Action Nat) :=
      [.start, .submit "tpu" "alpha", .resume 0 callbacks, .updateExecutors Dict.empty,
        .updateExecutors one, .submit "tpu" "beta", .resume 1 callbacks]
    ∃ final, Machine.run step (create ⟨5, by decide⟩ one) actions = some final ∧
      ∀ (first second : Nat) (one other : Worker), final.tasks[first]? = some one →
        final.tasks[second]? = some other → one.held ≠ [] → other.held ≠ [] →
        one.cancelRequested = false → other.cancelRequested = false → one.backend = other.backend →
        first = second := by
  intro one callbacks actions
  obtain ⟨final, runs, _⟩ := Machine.exists_run_of_any
    (show (Machine.run step (create ⟨5, by decide⟩ one) actions).any (fun final =>
      decide (final.tasks.map Worker.held = [[0], [1]])) = true by decide +kernel)
  exact ⟨final, runs, one_job_per_backend _ _ _ final runs⟩

end Scheduler

end Omnitensor
