/-
This file keeps the scheduler's wiring: which worker serves which lane.

Every backend has a lane of its own; a lane that lost its backend is empty. A worker
that has neither ended nor been asked to cancel is its backend's worker and serves its
backend's lane, every worker that has not ended is tracked, and once a stop was asked
for, every such worker has been asked to cancel and is awaited by every stop call. A
stop call that returned leaves no worker and no queued job behind.
-/

import Omnitensor.SchedulerLedger

namespace Omnitensor

variable {Result : Type}

/-- The lane a worker's coroutine refers to. -/
def WorkerStatus.serves : WorkerStatus → Option Nat
  | .notStarted => none
  | .waiting lane => some lane
  | .executing lane _ _ => some lane
  | .ended => none

theorem getElem?_cancelTask (tasks : List Worker) (index task : Nat) :
    (cancelTask tasks index)[task]? =
      (tasks[task]?).map fun worker =>
        if task = index then { worker with cancelRequested := true } else worker := by
  unfold cancelTask
  split
  · rename_i missing
    by_cases same : task = index
    · simp [same, missing]
    · simp [same]
  · rename_i worker stored
    rw [Table.getElem?_set stored]
    by_cases same : task = index
    · simp [same, stored]
    · simp [same]

theorem getElem?_cancelTasks (tasks : List Worker) (indices : List Nat) (task : Nat) :
    (indices.foldl cancelTask tasks)[task]? =
      (tasks[task]?).map fun worker =>
        if task ∈ indices then { worker with cancelRequested := true } else worker := by
  induction indices generalizing tasks with
  | nil => simp
  | cons index indices inductionHypothesis =>
    rw [List.foldl_cons, inductionHypothesis, getElem?_cancelTask, Option.map_map]
    congr 1
    funext worker
    by_cases same : task = index <;> by_cases later : task ∈ indices <;> simp [same, later]

namespace Scheduler

variable {scheduler : Scheduler Result}

/-- Which worker serves which lane, and what a stop leaves behind. -/
structure Wiring (scheduler : Scheduler Result) : Prop where
  queueLane : ∀ (backend : String) (index : Nat), scheduler.queues.get? backend = some index →
    ∃ queue, scheduler.lanes[index]? = some queue ∧
      (queue.Consistent ∨ (scheduler.stopped = true ∧ queue.queued = []))
  queueOwner : ∀ (backend other : String) (index : Nat),
    scheduler.queues.get? backend = some index → scheduler.queues.get? other = some index →
      backend = other
  deadLane : ∀ (index : Nat) (queue : StrideQueue String Nat),
    scheduler.lanes[index]? = some queue →
      (∀ backend, scheduler.queues.get? backend ≠ some index) → queue.queued = []
  workerQueue : ∀ (backend : String) (task : Nat), scheduler.workers.get? backend = some task →
    ∃ index, scheduler.queues.get? backend = some index
  live : ∀ (task : Nat) (worker : Worker), scheduler.tasks[task]? = some worker →
    worker.status ≠ .ended → worker.cancelRequested = false →
      scheduler.workers.get? worker.backend = some task ∧
        ∀ lane, worker.status.serves = some lane →
          scheduler.queues.get? worker.backend = some lane
  tracked : ∀ (task : Nat) (worker : Worker), scheduler.tasks[task]? = some worker →
    worker.status ≠ .ended → task ∈ scheduler.workers.values ∨ task ∈ scheduler.retired
  unstarted : scheduler.started = false → scheduler.tasks = [] ∧ scheduler.workers = Dict.empty
  stopping : scheduler.stopped = true → ∀ (task : Nat) (worker : Worker),
    scheduler.tasks[task]? = some worker → worker.status ≠ .ended →
      worker.cancelRequested = true
  calls : ∀ call ∈ scheduler.stops, scheduler.stopped = true ∧
    (∀ (task : Nat) (worker : Worker), scheduler.tasks[task]? = some worker →
      worker.status ≠ .ended → task ∈ call.awaited ∧ call.returned = false) ∧
    (call.returned = true → ∀ (index : Nat) (queue : StrideQueue String Nat),
      scheduler.lanes[index]? = some queue → queue.queued = [])

/-- The wiring does not speak of jobs, counts, wake-ups, failures or executors. -/
theorem Wiring.reframe (wiring : Wiring scheduler) (executors : Dict String Nat)
    (running : Counter String) (wakeups : Dict String Bool) (degraded : Dict String String)
    (jobs : List (Job Result)) (handed : List Nat) :
    Wiring { scheduler with executors, running, wakeups, degraded, jobs, handed } :=
  ⟨wiring.queueLane, wiring.queueOwner, wiring.deadLane, wiring.workerQueue, wiring.live,
    wiring.tracked, wiring.unstarted, wiring.stopping, wiring.calls⟩

variable {task index : Nat} {backend : String} {old new : StrideQueue String Nat}

theorem setStatus_of_getElem? {worker : Worker} (stored : scheduler.tasks[task]? = some worker)
    (status : WorkerStatus) :
    scheduler.setStatus task status =
      { scheduler with tasks := scheduler.tasks.set task { worker with status } } := by
  rw [setStatus, stored]

/-- A worker that has not ended moves on, to its backend's lane if it is still live. -/
theorem Wiring.setTask (wiring : Wiring scheduler) {worker : Worker}
    (stored : scheduler.tasks[task]? = some worker) (running : worker.status ≠ .ended)
    {status : WorkerStatus}
    (serves : worker.cancelRequested = false → ∀ lane, status.serves = some lane →
      scheduler.queues.get? worker.backend = some lane) :
    Wiring { scheduler with tasks := scheduler.tasks.set task { worker with status } } := by
  refine
    { queueLane := wiring.queueLane
      queueOwner := wiring.queueOwner
      deadLane := wiring.deadLane
      workerQueue := wiring.workerQueue
      live := fun other current found alive kept => ?_
      tracked := fun other current found alive => ?_
      unstarted := fun unstarted => ?_
      stopping := fun stopped other current found alive => ?_
      calls := fun call member => ?_ }
  · rw [Table.getElem?_set stored] at found
    split at found
    · rename_i same
      cases found
      exact ⟨same ▸ (wiring.live task worker stored running kept).1, serves kept⟩
    · exact wiring.live other current found alive kept
  · rw [Table.getElem?_set stored] at found
    split at found
    · rename_i same
      exact same ▸ wiring.tracked task worker stored running
    · exact wiring.tracked other current found alive
  · rw [(wiring.unstarted unstarted).1] at stored
    cases stored
  · rw [Table.getElem?_set stored] at found
    split at found
    · cases found
      exact wiring.stopping stopped task worker stored running
    · exact wiring.stopping stopped other current found alive
  · obtain ⟨stopped, awaited, emptied⟩ := wiring.calls call member
    refine ⟨stopped, fun other current found alive => ?_, emptied⟩
    rw [Table.getElem?_set stored] at found
    split at found
    · rename_i same
      exact same ▸ awaited task worker stored running
    · exact awaited other current found alive

/-- A lane's content changes, but a drained lane stays drained. -/
theorem Wiring.setLane (wiring : Wiring scheduler) (stored : scheduler.lanes[index]? = some old)
    (consistent : old.Consistent → new.Consistent) (drained : old.queued = [] → new.queued = []) :
    Wiring (scheduler.setLane index new) := by
  refine
    { queueLane := fun backend lane found => ?_
      queueOwner := wiring.queueOwner
      deadLane := fun lane queue found dead => ?_
      workerQueue := wiring.workerQueue
      live := wiring.live
      tracked := wiring.tracked
      unstarted := wiring.unstarted
      stopping := wiring.stopping
      calls := fun call member => ?_ }
  · obtain ⟨queue, lookup, either⟩ := wiring.queueLane backend lane found
    rw [Scheduler.setLane, Table.getElem?_set stored]
    split
    · rename_i same
      obtain rfl : old = queue := Option.some.inj (stored.symm.trans (same ▸ lookup))
      exact ⟨new, rfl, either.imp consistent fun both => ⟨both.1, drained both.2⟩⟩
    · exact ⟨queue, lookup, either⟩
  · rw [Scheduler.setLane, Table.getElem?_set stored] at found
    split at found
    · rename_i same
      cases found
      exact drained (wiring.deadLane index old stored (same ▸ dead))
    · exact wiring.deadLane lane queue found dead
  · obtain ⟨stopped, awaited, emptied⟩ := wiring.calls call member
    refine ⟨stopped, awaited, fun returned lane queue found => ?_⟩
    rw [Scheduler.setLane, Table.getElem?_set stored] at found
    split at found
    · cases found
      exact drained (emptied returned index old stored)
    · exact emptied returned lane queue found

/-- A backend that has a lane but no worker gets one. -/
theorem Wiring.spawnWorker (wiring : Wiring scheduler)
    (queue : scheduler.queues.get? backend = some index)
    (idle : scheduler.workers.get? backend = none) (started : scheduler.started = true)
    (running : scheduler.stopped = false) : Wiring (scheduler.spawnWorker backend) := by
  refine
    { queueLane := wiring.queueLane
      queueOwner := wiring.queueOwner
      deadLane := wiring.deadLane
      workerQueue := fun other task found => ?_
      live := fun task worker found alive kept => ?_
      tracked := fun task worker found alive => ?_
      unstarted := fun unstarted => ?_
      stopping := fun stopped => ?_
      calls := fun call member => ?_ }
  · rw [Scheduler.spawnWorker, Dict.get?_set] at found
    split at found
    · rename_i same
      exact ⟨index, same ▸ queue⟩
    · exact wiring.workerQueue other task found
  · rw [Scheduler.spawnWorker, Table.getElem?_concat] at found
    rw [Scheduler.spawnWorker, Dict.get?_set]
    split at found
    · rename_i same
      cases found
      exact ⟨by rw [if_pos rfl, same], fun lane impossible => by cases impossible⟩
    · obtain ⟨mine, serves⟩ := wiring.live task worker found alive kept
      refine ⟨?_, serves⟩
      rw [if_neg, mine]
      intro same
      rw [same, idle] at mine
      cases mine
  · rw [Scheduler.spawnWorker, Table.getElem?_concat] at found
    rw [Scheduler.spawnWorker, Dict.mem_values_iff]
    split at found
    · rename_i same
      exact Or.inl ⟨backend, by rw [Dict.get?_set_self, same]⟩
    · refine (wiring.tracked task worker found alive).imp (fun member => ?_) id
      obtain ⟨other, mine⟩ := Dict.mem_values_iff.mp member
      refine ⟨other, ?_⟩
      rw [Dict.get?_set, if_neg, mine]
      intro same
      rw [same, idle] at mine
      cases mine
  · rw [Scheduler.spawnWorker] at unstarted
    exact absurd (started.symm.trans unstarted) (by decide)
  · rw [Scheduler.spawnWorker] at stopped
    exact absurd (running.symm.trans stopped) (by decide)
  · obtain ⟨stopped, _⟩ := wiring.calls call member
    exact absurd (running.symm.trans stopped) (by decide)

/-- A new backend gets an empty lane. -/
theorem Wiring.addLane (wiring : Wiring scheduler) (absent : scheduler.queues.get? backend = none) :
    Wiring
      { scheduler with
        queues := scheduler.queues.set backend scheduler.lanes.length
        lanes := scheduler.lanes ++ [StrideQueue.empty] } := by
  have bound : ∀ other index, scheduler.queues.get? other = some index →
      index ≠ scheduler.lanes.length := by
    intro other index found
    obtain ⟨queue, lookup, _⟩ := wiring.queueLane other index found
    exact Nat.ne_of_lt (List.getElem?_eq_some_iff.mp lookup).1
  have kept : ∀ other index, scheduler.queues.get? other = some index →
      (scheduler.queues.set backend scheduler.lanes.length).get? other = some index := by
    intro other index found
    rw [Dict.get?_set, if_neg, found]
    intro same
    rw [same, absent] at found
    cases found
  refine
    { queueLane := fun other index found => ?_
      queueOwner := fun first second index foundFirst foundSecond => ?_
      deadLane := fun index queue found dead => ?_
      workerQueue := fun other task found => ?_
      live := fun task worker found alive active => ?_
      tracked := wiring.tracked
      unstarted := wiring.unstarted
      stopping := wiring.stopping
      calls := fun call member => ?_ }
  · rw [Table.getElem?_concat]
    rw [Dict.get?_set] at found
    split at found
    · cases found
      exact ⟨_, if_pos rfl, Or.inl StrideQueue.consistent_empty⟩
    · rw [if_neg (bound other index found)]
      exact wiring.queueLane other index found
  · rw [Dict.get?_set] at foundFirst foundSecond
    split at foundFirst <;> split at foundSecond
    · rename_i sameFirst sameSecond
      exact sameFirst.trans sameSecond.symm
    · cases foundFirst
      exact absurd rfl (bound second _ foundSecond)
    · cases foundSecond
      exact absurd rfl (bound first _ foundFirst)
    · exact wiring.queueOwner first second index foundFirst foundSecond
  · rw [Table.getElem?_concat] at found
    split at found
    · cases found
      rfl
    · exact wiring.deadLane index queue found fun other mine => dead other (kept other index mine)
  · obtain ⟨index, mine⟩ := wiring.workerQueue other task found
    exact ⟨index, kept other index mine⟩
  · obtain ⟨mine, serves⟩ := wiring.live task worker found alive active
    exact ⟨mine, fun lane current => kept _ lane (serves lane current)⟩
  · obtain ⟨stopped, awaited, emptied⟩ := wiring.calls call member
    refine ⟨stopped, awaited, fun returned index queue found => ?_⟩
    rw [Table.getElem?_concat] at found
    split at found
    · cases found
      rfl
    · exact emptied returned index queue found

/-- A backend's worker is asked to cancel and retired; the backend has no worker then. -/
theorem Wiring.retireWorker (wiring : Wiring scheduler) (backend : String) :
    Wiring (scheduler.retireWorker backend) := by
  unfold Scheduler.retireWorker
  split
  · exact wiring
  · rename_i retiree found
    refine
      { queueLane := wiring.queueLane
        queueOwner := wiring.queueOwner
        deadLane := wiring.deadLane
        workerQueue := fun other task stored => ?_
        live := fun task worker stored alive kept => ?_
        tracked := fun task worker stored alive => ?_
        unstarted := fun unstarted => ?_
        stopping := fun stopped task worker stored alive => ?_
        calls := fun call member => ?_ }
    · rw [Dict.get?_erase] at stored
      split at stored
      · cases stored
      · exact wiring.workerQueue other task stored
    · rw [getElem?_cancelTask, Option.map_eq_some_iff] at stored
      obtain ⟨before, storedBefore, rfl⟩ := stored
      by_cases same : task = retiree
      · rw [if_pos same] at kept
        cases kept
      · rw [if_neg same] at alive kept ⊢
        obtain ⟨mine, serves⟩ := wiring.live task before storedBefore alive kept
        refine ⟨?_, serves⟩
        rw [Dict.get?_erase, if_neg, mine]
        intro equal
        rw [equal, found] at mine
        exact same (Option.some.inj mine).symm
    · rw [getElem?_cancelTask, Option.map_eq_some_iff] at stored
      obtain ⟨before, storedBefore, rfl⟩ := stored
      by_cases same : task = retiree
      · exact Or.inr (List.mem_append_right _ (List.mem_singleton.mpr same))
      · rw [if_neg same] at alive
        refine (wiring.tracked task before storedBefore alive).imp (fun member => ?_)
          (List.mem_append_left _)
        obtain ⟨other, mine⟩ := Dict.mem_values_iff.mp member
        refine Dict.mem_values_iff.mpr ⟨other, ?_⟩
        rw [Dict.get?_erase, if_neg, mine]
        intro equal
        rw [equal, found] at mine
        exact same (Option.some.inj mine).symm
    · rw [(wiring.unstarted unstarted).2] at found
      cases found
    · rw [getElem?_cancelTask, Option.map_eq_some_iff] at stored
      obtain ⟨before, storedBefore, rfl⟩ := stored
      split
      · rfl
      · rename_i different
        rw [if_neg different] at alive
        exact wiring.stopping stopped task before storedBefore alive
    · obtain ⟨stopped, awaited, emptied⟩ := wiring.calls call member
      refine ⟨stopped, fun task worker stored alive => ?_, emptied⟩
      rw [getElem?_cancelTask, Option.map_eq_some_iff] at stored
      obtain ⟨before, storedBefore, rfl⟩ := stored
      refine awaited task before storedBefore fun ended => alive ?_
      split <;> exact ended

theorem get?_workers_retireWorker (scheduler : Scheduler Result) (backend : String) :
    (scheduler.retireWorker backend).workers.get? backend = none := by
  unfold Scheduler.retireWorker
  split
  · rename_i missing
    exact missing
  · rw [Dict.get?_erase, if_pos rfl]

/-- A backend without a worker loses its lane, which is drained. -/
theorem Wiring.removeLane (wiring : Wiring scheduler) (idle : scheduler.workers.get? backend = none)
    (mine : scheduler.queues.get? backend = some index)
    (stored : scheduler.lanes[index]? = some old) (emptied : new.queued = []) :
    Wiring
      { scheduler with
        queues := scheduler.queues.erase backend
        lanes := scheduler.lanes.set index new } := by
  have different : ∀ other lane, (scheduler.queues.erase backend).get? other = some lane →
      scheduler.queues.get? other = some lane ∧ lane ≠ index := by
    intro other lane found
    rw [Dict.get?_erase] at found
    split at found
    · cases found
    · rename_i distinct
      refine ⟨found, ?_⟩
      rintro rfl
      exact distinct (wiring.queueOwner other backend lane found mine)
  refine
    { queueLane := fun other lane found => ?_
      queueOwner := fun first second lane foundFirst foundSecond =>
        wiring.queueOwner first second lane (different first lane foundFirst).1
          (different second lane foundSecond).1
      deadLane := fun lane queue found dead => ?_
      workerQueue := fun other task found => ?_
      live := fun task worker found alive kept => ?_
      tracked := wiring.tracked
      unstarted := wiring.unstarted
      stopping := wiring.stopping
      calls := fun call member => ?_ }
  · obtain ⟨before, elsewhere⟩ := different other lane found
    rw [Table.getElem?_set stored, if_neg elsewhere]
    exact wiring.queueLane other lane before
  · rw [Table.getElem?_set stored] at found
    split at found
    · cases found
      exact emptied
    · rename_i elsewhere
      refine wiring.deadLane lane queue found fun other before => ?_
      refine dead other ?_
      rw [Dict.get?_erase, if_neg, before]
      intro same
      rw [same, mine] at before
      exact elsewhere (Option.some.inj before).symm
  · obtain ⟨lane, before⟩ := wiring.workerQueue other task found
    refine ⟨lane, ?_⟩
    rw [Dict.get?_erase, if_neg, before]
    intro same
    rw [same, idle] at found
    cases found
  · obtain ⟨active, serves⟩ := wiring.live task worker found alive kept
    refine ⟨active, fun lane current => ?_⟩
    rw [Dict.get?_erase, if_neg, serves lane current]
    intro same
    rw [same, idle] at active
    cases active
  · obtain ⟨stopped, awaited, drained⟩ := wiring.calls call member
    refine ⟨stopped, awaited, fun returned lane queue found => ?_⟩
    rw [Table.getElem?_set stored] at found
    split at found
    · cases found
      exact emptied
    · exact drained returned lane queue found

/-- A live backend's lane gets new content while nothing has stopped. -/
theorem Wiring.fillLane (wiring : Wiring scheduler) (running : scheduler.stopped = false)
    (mine : scheduler.queues.get? backend = some index)
    (stored : scheduler.lanes[index]? = some old) (consistent : new.Consistent) :
    Wiring (scheduler.setLane index new) where
  queueLane other lane found := by
    rw [Scheduler.setLane, Table.getElem?_set stored]
    split
    · exact ⟨new, rfl, Or.inl consistent⟩
    · exact wiring.queueLane other lane found
  queueOwner := wiring.queueOwner
  deadLane lane queue found dead := by
    rw [Scheduler.setLane, Table.getElem?_set stored] at found
    split at found
    · rename_i same
      exact absurd (same ▸ mine) (dead backend)
    · exact wiring.deadLane lane queue found dead
  workerQueue := wiring.workerQueue
  live := wiring.live
  tracked := wiring.tracked
  unstarted := wiring.unstarted
  stopping := wiring.stopping
  calls call member := by
    have stopped := (wiring.calls call member).1
    rw [running] at stopped
    cases stopped

/-- Tasks that have ended need not be tracked. -/
theorem Wiring.reap (wiring : Wiring scheduler) :
    Wiring { scheduler with
      retired := scheduler.retired.filter fun task => !scheduler.taskDone task } where
  queueLane := wiring.queueLane
  queueOwner := wiring.queueOwner
  deadLane := wiring.deadLane
  workerQueue := wiring.workerQueue
  live := wiring.live
  tracked task worker stored alive := by
    refine (wiring.tracked task worker stored alive).imp id fun member => ?_
    refine List.mem_filter.mpr ⟨member, ?_⟩
    rw [taskDone, stored]
    simp [alive]
  unstarted := wiring.unstarted
  stopping := wiring.stopping
  calls := wiring.calls

/-- A stop asks every worker that has not ended to cancel, and awaits it. -/
theorem Wiring.stop (wiring : Wiring scheduler) : Wiring scheduler.stop := by
  have cancelled : ∀ (task : Nat) (worker : Worker), scheduler.stop.tasks[task]? = some worker →
      worker.status ≠ .ended → worker.cancelRequested = true ∧
        task ∈ scheduler.workers.values ++ scheduler.retired ∧
        ∃ before, scheduler.tasks[task]? = some before ∧ before.status ≠ .ended := by
    intro task worker found alive
    rw [Scheduler.stop, getElem?_cancelTasks, Option.map_eq_some_iff] at found
    obtain ⟨before, stored, rfl⟩ := found
    have aliveBefore : before.status ≠ .ended := by
      intro ended
      apply alive
      split <;> exact ended
    have awaited : task ∈ scheduler.workers.values ++ scheduler.retired :=
      List.mem_append.mpr (wiring.tracked task before stored aliveBefore)
    rw [if_pos awaited]
    exact ⟨rfl, awaited, before, stored, aliveBefore⟩
  refine
    { queueLane := fun backend index found => ?_
      queueOwner := wiring.queueOwner
      deadLane := wiring.deadLane
      workerQueue := wiring.workerQueue
      live := fun task worker found alive kept => ?_
      tracked := fun task worker found alive => ?_
      unstarted := fun unstarted => ?_
      stopping := fun _ task worker found alive => (cancelled task worker found alive).1
      calls := fun call member => ?_ }
  · obtain ⟨queue, stored, either⟩ := wiring.queueLane backend index found
    exact ⟨queue, stored, either.imp id fun both => ⟨rfl, both.2⟩⟩
  · rw [(cancelled task worker found alive).1] at kept
    cases kept
  · exact List.mem_append.mp (cancelled task worker found alive).2.1
  · obtain ⟨noTasks, noWorkers⟩ := wiring.unstarted unstarted
    refine ⟨List.eq_nil_iff_forall_not_mem.mpr fun worker member => ?_, noWorkers⟩
    obtain ⟨task, found⟩ := List.mem_iff_getElem?.mp member
    rw [Scheduler.stop, getElem?_cancelTasks, noTasks] at found
    cases found
  · refine ⟨rfl, fun task worker found alive => ?_, fun returned => ?_⟩
    · obtain ⟨_, awaited, before, stored, aliveBefore⟩ := cancelled task worker found alive
      rcases List.mem_append.mp member with old | new
      · exact (wiring.calls call old).2.1 task before stored aliveBefore
      · rw [List.mem_singleton.mp new]
        exact ⟨awaited, rfl⟩
    · rcases List.mem_append.mp member with old | new
      · exact (wiring.calls call old).2.2 returned
      · rw [List.mem_singleton.mp new] at returned
        cases returned

/-- A stop whose gathered workers have ended leaves no worker and, as it empties every live lane,
no queued job. -/
theorem Wiring.finishStop (wiring : Wiring scheduler) {call : Nat} {gathered : StopCall}
    (stored : scheduler.stops[call]? = some gathered) (ended : scheduler.gathered gathered = true)
    {jobs : List (Job Result)} {lanes : List (StrideQueue String Nat)}
    (emptied : ∀ (index : Nat) (queue : StrideQueue String Nat), lanes[index]? = some queue →
      ∃ before, scheduler.lanes[index]? = some before ∧
        (index ∈ scheduler.queues.values → queue.queued = []) ∧
        (index ∉ scheduler.queues.values → queue = before))
    (present : ∀ index : Nat, (scheduler.lanes[index]?).isSome → (lanes[index]?).isSome) :
    Wiring
      { scheduler with
        workers := Dict.empty
        retired := []
        degraded := Dict.empty
        stops := scheduler.stops.set call { gathered with returned := true }
        jobs := jobs
        lanes := lanes } := by
  obtain ⟨stopped, awaited, _⟩ := wiring.calls gathered (List.mem_of_getElem? stored)
  have finished : ∀ (task : Nat) (worker : Worker), scheduler.tasks[task]? = some worker →
      worker.status = .ended := by
    intro task worker found
    by_contra alive
    have member := (awaited task worker found alive).1
    have done := List.all_eq_true.mp ended task member
    rw [taskDone, found] at done
    exact alive (of_decide_eq_true done)
  have nothing : ∀ (index : Nat) (queue : StrideQueue String Nat), lanes[index]? = some queue →
      queue.queued = [] := by
    intro index queue found
    obtain ⟨before, storedBefore, inside, outside⟩ := emptied index queue found
    by_cases member : index ∈ scheduler.queues.values
    · exact inside member
    · rw [outside member]
      refine wiring.deadLane index before storedBefore fun backend mine => ?_
      exact member (Dict.mem_values_iff.mpr ⟨backend, mine⟩)
  exact
    { queueLane := fun backend index found => by
        obtain ⟨before, storedBefore, _⟩ := wiring.queueLane backend index found
        obtain ⟨queue, storedAfter⟩ := Option.isSome_iff_exists.mp
          (present index (Option.isSome_iff_exists.mpr ⟨before, storedBefore⟩))
        exact ⟨queue, storedAfter, Or.inr ⟨stopped, nothing index queue storedAfter⟩⟩
      queueOwner := wiring.queueOwner
      deadLane := fun index queue found _ => nothing index queue found
      workerQueue := fun backend task found => by cases found
      live := fun task worker found alive _ => absurd (finished task worker found) alive
      tracked := fun task worker found alive => absurd (finished task worker found) alive
      unstarted := fun unstarted => ⟨(wiring.unstarted unstarted).1, rfl⟩
      stopping := wiring.stopping
      calls := fun other member =>
        ⟨stopped, fun task worker found alive => absurd (finished task worker found) alive,
          fun _ => nothing⟩ }

end Scheduler

end Omnitensor
