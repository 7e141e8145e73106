/-
This file keeps the scheduler's ledger: where every job is.

A job is placed while it waits in a lane or a worker executes it. The ledger says that
no job has two places, that a pending future's job has a place and that a placed job's
future is pending unless its submitter cancelled it, that the running counts are the
executing workers, and that no job was handed to an executor twice or is still queued
after it was. Lanes, workers and jobs change together, in four ways only: jobs leave
their places and their futures are completed, a worker takes a job out of a lane, a
job is submitted, a submitter cancels a future.
-/

import Omnitensor.Scheduler
import Omnitensor.Table

namespace Omnitensor

variable {Result : Type}

/-! ### Completing futures -/

theorem FutureState.cancelled_ne_pending : (cancelled : FutureState Result) ≠ pending := by
  simp

theorem FutureState.exception_ne_pending (error : PythonError) :
    (exception error : FutureState Result) ≠ pending := by
  simp

theorem FutureState.result_ne_pending (value : Result) : result value ≠ pending := by
  simp

variable {worker : Worker} {outcome : FutureState Result} {job index : Nat}

theorem Job.settle_of_done {job : Job Result} (done : job.future ≠ .pending) :
    job.settle outcome = job := by
  unfold settle
  split
  · rename_i pending
    exact absurd pending done
  · rfl

theorem Job.settle_of_pending {job : Job Result} (pending : job.future = .pending) :
    job.settle outcome = { job with future := outcome } := by
  unfold settle
  rw [pending]

@[simp] theorem Job.workloadId_settle (outcome : FutureState Result) (job : Job Result) :
    (job.settle outcome).workloadId = job.workloadId := by
  unfold settle
  split <;> rfl

@[simp] theorem Job.lane_settle (outcome : FutureState Result) (job : Job Result) :
    (job.settle outcome).lane = job.lane := by
  unfold settle
  split <;> rfl

@[simp] theorem Job.withdrawal_settle (outcome : FutureState Result) (job : Job Result) :
    (job.settle outcome).withdrawal = job.withdrawal := by
  unfold settle
  split <;> rfl

theorem Job.settle_ne_pending (completes : outcome ≠ .pending) (job : Job Result) :
    (job.settle outcome).future ≠ .pending := by
  by_cases pending : job.future = .pending
  · rw [settle_of_pending pending]
    exact completes
  · rw [settle_of_done pending]
    exact pending

theorem Job.settle_settle (outcome : FutureState Result) (job : Job Result) :
    (job.settle outcome).settle outcome = job.settle outcome := by
  by_cases pending : job.future = .pending
  · rw [settle_of_pending pending]
    unfold settle
    split <;> rfl
  · rw [settle_of_done pending, settle_of_done pending]

theorem getElem?_settleJob (outcome : FutureState Result) (jobs : List (Job Result))
    (index job : Nat) :
    (settleJob outcome jobs index)[job]? =
      (jobs[job]?).map fun row => if job = index then row.settle outcome else row := by
  unfold settleJob
  split
  · rename_i missing
    by_cases same : job = index
    · simp [same, missing]
    · simp [same]
  · rename_i row stored
    rw [Table.getElem?_set stored]
    by_cases same : job = index
    · simp [same, stored]
    · simp [same]

/-- The rows after several futures were completed. -/
theorem getElem?_settleJobs (outcome : FutureState Result) (jobs : List (Job Result))
    (indices : List Nat) (job : Nat) :
    (settleJobs outcome jobs indices)[job]? =
      (jobs[job]?).map fun row => if job ∈ indices then row.settle outcome else row := by
  induction indices generalizing jobs with
  | nil => simp [settleJobs]
  | cons index indices inductionHypothesis =>
    have rest : settleJobs outcome jobs (index :: indices) =
        settleJobs outcome (settleJob outcome jobs index) indices := rfl
    rw [rest, inductionHypothesis, getElem?_settleJob, Option.map_map]
    congr 1
    funext row
    by_cases same : job = index <;> by_cases later : job ∈ indices <;>
      simp [same, later, Job.settle_settle]

theorem length_settleJobs (outcome : FutureState Result) (jobs : List (Job Result))
    (indices : List Nat) : (settleJobs outcome jobs indices).length = jobs.length := by
  induction indices generalizing jobs with
  | nil => rfl
  | cons index indices inductionHypothesis =>
    refine (inductionHypothesis _).trans ?_
    unfold settleJob
    split
    · rfl
    · exact List.length_set

/-! ### Workers and lanes -/

theorem Worker.held_eq {workloadId : String}
    (executing : worker.status = .executing index job workloadId) : worker.held = [job] := by
  unfold held
  rw [executing]

theorem Worker.mem_held_iff :
    job ∈ worker.held ↔ ∃ index workloadId, worker.status = .executing index job workloadId := by
  unfold held
  cases worker.status with
  | executing index current workloadId => simp [eq_comm]
  | notStarted => simp
  | waiting index => simp
  | ended => simp

/-- A worker that holds no job executes none. -/
theorem Worker.executes_eq_false (idle : worker.held = []) (workloadId : String) :
    worker.executes workloadId = false := by
  unfold executes
  split
  · rename_i executing
    rw [held_eq executing] at idle
    cases idle
  · rfl

theorem Worker.executes_eq {current : String}
    (executing : worker.status = .executing index job current) (workloadId : String) :
    worker.executes workloadId = decide (current = workloadId) := by
  unfold executes
  rw [executing]

namespace Scheduler

/-- Every place of every job: the lanes it waits in and the workers that execute it. -/
def places (lanes : List (StrideQueue String Nat)) (tasks : List Worker) : List Nat :=
  lanes.flatMap StrideQueue.queued ++ tasks.flatMap Worker.held

variable {job task index : Nat} {outcome : FutureState Result} {old new : Worker}
  {lanesAfter : List (StrideQueue String Nat)} {tasksAfter : List Worker}
  {runningAfter : Counter String}

theorem mem_lanes_iff {lanes : List (StrideQueue String Nat)} :
    job ∈ lanes.flatMap StrideQueue.queued ↔
      ∃ (index : Nat) (queue : StrideQueue String Nat) (key : String),
        lanes[index]? = some queue ∧ job ∈ queue.waiting key := by
  rw [List.mem_flatMap]
  constructor
  · rintro ⟨queue, stored, member⟩
    obtain ⟨index, found⟩ := List.mem_iff_getElem?.mp stored
    obtain ⟨key, waits⟩ := StrideQueue.mem_queued.mp member
    exact ⟨index, queue, key, found, waits⟩
  · rintro ⟨index, queue, key, found, waits⟩
    exact ⟨queue, List.mem_of_getElem? found, StrideQueue.mem_queued.mpr ⟨key, waits⟩⟩

theorem mem_tasks_iff {tasks : List Worker} :
    job ∈ tasks.flatMap Worker.held ↔
      ∃ (task : Nat) (worker : Worker) (index : Nat) (workloadId : String),
        tasks[task]? = some worker ∧ worker.status = .executing index job workloadId := by
  rw [List.mem_flatMap]
  constructor
  · rintro ⟨worker, stored, member⟩
    obtain ⟨task, found⟩ := List.mem_iff_getElem?.mp stored
    obtain ⟨index, workloadId, executing⟩ := Worker.mem_held_iff.mp member
    exact ⟨task, worker, index, workloadId, found, executing⟩
  · rintro ⟨task, worker, index, workloadId, found, executing⟩
    exact ⟨worker, List.mem_of_getElem? found, Worker.mem_held_iff.mpr ⟨index, workloadId, executing⟩⟩

/-- Where every job is. -/
structure Ledger (jobs : List (Job Result)) (lanes : List (StrideQueue String Nat))
    (tasks : List Worker) (running : Counter String) (handed : List Nat) : Prop where
  nodup : (places lanes tasks).Nodup
  queued : ∀ (index : Nat) (queue : StrideQueue String Nat) (key : String) (job : Nat),
    lanes[index]? = some queue → job ∈ queue.waiting key →
      ∃ row, jobs[job]? = some row ∧ row.workloadId = key ∧ row.lane = index
  held : ∀ (task : Nat) (worker : Worker) (index job : Nat) (workloadId : String),
    tasks[task]? = some worker → worker.status = .executing index job workloadId →
      ∃ row, jobs[job]? = some row ∧ row.workloadId = workloadId ∧ row.lane = index
  placed : ∀ (job : Nat) (row : Job Result), jobs[job]? = some row → row.future = .pending →
    job ∈ places lanes tasks
  kept : ∀ (job : Nat) (row : Job Result), jobs[job]? = some row → job ∈ places lanes tasks →
    row.withdrawal = .kept → row.future = .pending
  running : ∀ workloadId, running.count workloadId = tasks.countP (Worker.executes workloadId)
  handedOnce : handed.Nodup
  handedLeft : ∀ job ∈ handed, job < jobs.length ∧ job ∉ lanes.flatMap StrideQueue.queued

variable {jobs : List (Job Result)} {lanes : List (StrideQueue String Nat)}
  {tasks : List Worker} {running : Counter String} {handed : List Nat}

/-- Jobs leave their places and their futures are completed; everything else stays. -/
theorem Ledger.retire (ledger : Ledger jobs lanes tasks running handed)
    (completes : outcome ≠ .pending) (removed : List Nat)
    (lanesKept : ∀ (index : Nat) (queue : StrideQueue String Nat) (key : String) (job : Nat),
      lanesAfter[index]? = some queue → job ∈ queue.waiting key →
        ∃ before, lanes[index]? = some before ∧ job ∈ before.waiting key)
    (tasksKept : ∀ (task : Nat) (worker : Worker) (index job : Nat) (workloadId : String),
      tasksAfter[task]? = some worker → worker.status = .executing index job workloadId →
        ∃ before, tasks[task]? = some before ∧ before.status = .executing index job workloadId)
    (moved : (places lanesAfter tasksAfter ++ removed).Perm (places lanes tasks))
    (counted : ∀ workloadId,
      runningAfter.count workloadId = tasksAfter.countP (Worker.executes workloadId)) :
    Ledger (settleJobs outcome jobs removed) lanesAfter tasksAfter runningAfter handed := by
  have distinct := moved.nodup_iff.mpr ledger.nodup
  have lookup : ∀ job row, jobs[job]? = some row →
      (settleJobs outcome jobs removed)[job]? =
        some (if job ∈ removed then row.settle outcome else row) := by
    intro job row stored
    rw [getElem?_settleJobs, stored]
    rfl
  have remains : ∀ job, job ∈ places lanesAfter tasksAfter →
      job ∈ places lanes tasks ∧ job ∉ removed := by
    intro job member
    refine ⟨moved.mem_iff.mp (List.mem_append_left _ member), fun gone => ?_⟩
    exact (List.nodup_append.mp distinct).2.2 job member job gone rfl
  refine
    { nodup := (List.nodup_append.mp distinct).1
      queued := ?_
      held := ?_
      placed := ?_
      kept := ?_
      running := counted
      handedOnce := ledger.handedOnce
      handedLeft := ?_ }
  · intro index queue key job stored waits
    obtain ⟨before, storedBefore, waitsBefore⟩ := lanesKept index queue key job stored waits
    obtain ⟨row, found, workload, home⟩ :=
      ledger.queued index before key job storedBefore waitsBefore
    refine ⟨_, lookup job row found, ?_, ?_⟩ <;> split <;> simp [workload, home]
  · intro task worker index job workloadId stored executing
    obtain ⟨before, storedBefore, executingBefore⟩ :=
      tasksKept task worker index job workloadId stored executing
    obtain ⟨row, found, workload, home⟩ :=
      ledger.held task before index job workloadId storedBefore executingBefore
    refine ⟨_, lookup job row found, ?_, ?_⟩ <;> split <;> simp [workload, home]
  · intro job row stored pending
    rw [getElem?_settleJobs, Option.map_eq_some_iff] at stored
    obtain ⟨before, found, rfl⟩ := stored
    split at pending
    · exact absurd pending (before.settle_ne_pending completes)
    · rename_i stays
      have member := moved.mem_iff.mpr (ledger.placed job before found pending)
      exact (List.mem_append.mp member).resolve_right stays
  · intro job row stored member kept
    rw [getElem?_settleJobs, Option.map_eq_some_iff] at stored
    obtain ⟨before, found, rfl⟩ := stored
    obtain ⟨memberBefore, stays⟩ := remains job member
    rw [if_neg stays] at kept ⊢
    exact ledger.kept job before found memberBefore kept
  · intro job member
    obtain ⟨bound, left⟩ := ledger.handedLeft job member
    refine ⟨by rwa [length_settleJobs], fun inside => left ?_⟩
    obtain ⟨index, queue, key, stored, waits⟩ := mem_lanes_iff.mp inside
    obtain ⟨before, storedBefore, waitsBefore⟩ := lanesKept index queue key job stored waits
    exact mem_lanes_iff.mpr ⟨index, before, key, storedBefore, waitsBefore⟩

/-- Lanes and workers change, but every job keeps its place. -/
theorem Ledger.rearrange (ledger : Ledger jobs lanes tasks running handed)
    (lanesKept : ∀ (index : Nat) (queue : StrideQueue String Nat) (key : String) (job : Nat),
      lanesAfter[index]? = some queue → job ∈ queue.waiting key →
        ∃ before, lanes[index]? = some before ∧ job ∈ before.waiting key)
    (tasksKept : ∀ (task : Nat) (worker : Worker) (index job : Nat) (workloadId : String),
      tasksAfter[task]? = some worker → worker.status = .executing index job workloadId →
        ∃ before, tasks[task]? = some before ∧ before.status = .executing index job workloadId)
    (same : places lanesAfter tasksAfter = places lanes tasks) (counted : ∀ workloadId,
      runningAfter.count workloadId = tasksAfter.countP (Worker.executes workloadId)) :
    Ledger jobs lanesAfter tasksAfter runningAfter handed := by
  refine ledger.retire FutureState.cancelled_ne_pending [] lanesKept tasksKept ?_ counted
  rw [List.append_nil, same]

/-- A table of workers in which one that holds nothing becomes one that holds nothing. -/
theorem Ledger.setIdle (ledger : Ledger jobs lanes tasks running handed)
    (stored : tasks[task]? = some old) (before : old.held = []) (after : new.held = []) :
    Ledger jobs lanes (tasks.set task new) running handed := by
  have same := Table.flatMap_set_of_eq stored (after.trans before.symm)
  refine ledger.rearrange
    (fun index queue key job found waits => ⟨queue, found, waits⟩) ?_ ?_ ?_
  · intro other worker index job workloadId found executing
    rw [Table.getElem?_set stored] at found
    split at found
    · cases found
      rw [Worker.held_eq executing] at after
      cases after
    · exact ⟨worker, found, executing⟩
  · rw [places, same, places]
  · intro workloadId
    have moved := Table.countP_set stored new (Worker.executes workloadId)
    rw [Worker.executes_eq_false before, Worker.executes_eq_false after] at moved
    rw [ledger.running workloadId]
    simpa using moved.symm

/-- A table of workers in which one is asked to cancel. -/
theorem Ledger.cancelTask (ledger : Ledger jobs lanes tasks running handed) (task : Nat) :
    Ledger jobs lanes (cancelTask tasks task) running handed := by
  unfold Omnitensor.cancelTask
  split
  · exact ledger
  · rename_i worker stored
    have same : (tasks.set task { worker with cancelRequested := true }).flatMap Worker.held =
        tasks.flatMap Worker.held := Table.flatMap_set_of_eq stored rfl
    refine ledger.rearrange
      (fun index queue key job found waits => ⟨queue, found, waits⟩) ?_ ?_ ?_
    · intro other current index job workloadId found executing
      rw [Table.getElem?_set stored] at found
      split at found
      · rename_i equal
        cases found
        exact ⟨worker, equal ▸ stored, executing⟩
      · exact ⟨current, found, executing⟩
    · rw [places, same, places]
    · intro workloadId
      have moved := Table.countP_set stored { worker with cancelRequested := true }
        (Worker.executes workloadId)
      rw [ledger.running workloadId]
      exact (Nat.add_right_cancel moved).symm

theorem Ledger.cancelTasks (ledger : Ledger jobs lanes tasks running handed)
    (awaited : List Nat) :
    Ledger jobs lanes (awaited.foldl Omnitensor.cancelTask tasks) running handed := by
  induction awaited generalizing tasks with
  | nil => exact ledger
  | cons task awaited inductionHypothesis => exact inductionHypothesis (ledger.cancelTask task)

/-- A new worker holds nothing. -/
theorem Ledger.addTask (ledger : Ledger jobs lanes tasks running handed) {worker : Worker}
    (idle : worker.held = []) : Ledger jobs lanes (tasks ++ [worker]) running handed := by
  refine ledger.rearrange
    (fun index queue key job found waits => ⟨queue, found, waits⟩) ?_ ?_ ?_
  · intro task other index job workloadId found executing
    rw [Table.getElem?_concat] at found
    split at found
    · cases found
      rw [Worker.held_eq executing] at idle
      cases idle
    · exact ⟨other, found, executing⟩
  · simp [places, idle]
  · intro workloadId
    rw [ledger.running workloadId, List.countP_append]
    simp [Worker.executes_eq_false idle]

/-- A new lane is empty. -/
theorem Ledger.addLane (ledger : Ledger jobs lanes tasks running handed) :
    Ledger jobs (lanes ++ [StrideQueue.empty]) tasks running handed := by
  refine ledger.rearrange ?_
    (fun task worker index job workloadId found executing => ⟨worker, found, executing⟩) ?_
    ledger.running
  · intro index queue key job found waits
    rw [Table.getElem?_concat] at found
    split at found
    · cases found
      exact absurd waits List.not_mem_nil
    · exact ⟨queue, found, waits⟩
  · have nothing : (StrideQueue.empty : StrideQueue String Nat).queued = [] := rfl
    simp [places, nothing]

/-- A lane's passes may change freely. -/
theorem Ledger.setItems (ledger : Ledger jobs lanes tasks running handed)
    {old new : StrideQueue String Nat} (stored : lanes[index]? = some old)
    (items : new.items = old.items) : Ledger jobs (lanes.set index new) tasks running handed := by
  have queued : new.queued = old.queued := by rw [StrideQueue.queued, items, StrideQueue.queued]
  have same := Table.flatMap_set_of_eq stored queued
  refine ledger.rearrange ?_
    (fun task worker index job workloadId found executing => ⟨worker, found, executing⟩) ?_
    ledger.running
  · intro other queue key job found waits
    rw [Table.getElem?_set stored] at found
    split at found
    · rename_i equal
      cases found
      rw [StrideQueue.waiting, items] at waits
      exact ⟨old, equal ▸ stored, waits⟩
    · exact ⟨queue, found, waits⟩
  · rw [places, same, places]

/-- A lane is emptied and the futures of its jobs are completed. -/
theorem Ledger.drain (ledger : Ledger jobs lanes tasks running handed)
    (completes : outcome ≠ .pending) {old new : StrideQueue String Nat}
    (stored : lanes[index]? = some old) (emptied : new.queued = []) :
    Ledger (settleJobs outcome jobs old.queued) (lanes.set index new) tasks running handed := by
  have moved := Table.flatMap_set stored new StrideQueue.queued
  rw [emptied, List.append_nil] at moved
  refine ledger.retire completes old.queued ?_
    (fun task worker index job workloadId found executing => ⟨worker, found, executing⟩) ?_
    ledger.running
  · intro other queue key job found waits
    rw [Table.getElem?_set stored] at found
    split at found
    · cases found
      have member : job ∈ new.queued := StrideQueue.mem_queued.mpr ⟨key, waits⟩
      rw [emptied] at member
      exact absurd member List.not_mem_nil
    · exact ⟨queue, found, waits⟩
  · rw [places, places, List.append_assoc]
    exact (List.perm_append_comm.append_left _).trans
      ((List.append_assoc _ _ _ ▸ moved.append_right _))

/-- An executing worker lets go of its job, whose future is completed. -/
theorem Ledger.finish (ledger : Ledger jobs lanes tasks running handed)
    (completes : outcome ≠ .pending) {workloadId : String} (stored : tasks[task]? = some old)
    (executing : old.status = .executing index job workloadId) (idle : new.held = []) :
    Ledger (settleJob outcome jobs job) lanes (tasks.set task new) (running.remove workloadId)
      handed := by
  have moved := Table.flatMap_set stored new Worker.held
  rw [idle, List.append_nil, Worker.held_eq executing] at moved
  refine ledger.retire completes [job]
    (fun index queue key job found waits => ⟨queue, found, waits⟩) ?_ ?_ ?_
  · intro other worker lane current workload found running
    rw [Table.getElem?_set stored] at found
    split at found
    · cases found
      rw [Worker.held_eq running] at idle
      cases idle
    · exact ⟨worker, found, running⟩
  · rw [places, places, List.append_assoc]
    exact moved.append_left _
  · intro workload
    have shares := Table.countP_set stored new (Worker.executes workload)
    rw [Worker.executes_eq_false idle, Worker.executes_eq executing] at shares
    rw [Counter.count_remove, ledger.running workload]
    by_cases same : workloadId = workload
    · subst same
      simp only [decide_true, if_true, Bool.false_eq_true, if_false] at shares
      rw [if_pos rfl]
      omega
    · simp only [same, decide_false, Bool.false_eq_true, if_false] at shares
      rw [if_neg (Ne.symm same)]
      omega

/-- An idle worker takes a job out of a lane and hands it to an executor. -/
theorem Ledger.take (ledger : Ledger jobs lanes tasks running handed)
    {queue after : StrideQueue String Nat} {weightOf : String → WeightValue}
    {admits : Option (String → Bool)} {key : String} {rest : List Nat} {row : Job Result}
    (storedLane : lanes[index]? = some queue)
    (spec : StrideQueue.Popped queue weightOf admits key job rest after)
    (storedTask : tasks[task]? = some old) (idle : old.held = [])
    (storedJob : jobs[job]? = some row)
    (executing : new.status = .executing index job row.workloadId) :
    Ledger jobs (lanes.set index after) (tasks.set task new) (running.add row.workloadId)
      (handed ++ [job]) := by
  have distinct : queue.queued.Nodup := by
    have all := (List.nodup_append.mp ledger.nodup).1
    exact (List.nodup_flatMap.mp all).1 queue (List.mem_of_getElem? storedLane)
  have waits : job ∈ queue.waiting key := by
    rw [spec.waiting_before]
    exact List.mem_cons_self
  have lanesMoved : ((lanes.set index after).flatMap StrideQueue.queued ++ [job]).Perm
      (lanes.flatMap StrideQueue.queued) := by
    have moved := Table.flatMap_set storedLane after StrideQueue.queued
    refine List.perm_iff_count.mpr fun value => ?_
    have counts := moved.count_eq value
    have taken := spec.queued.count_eq value
    simp only [List.count_append, List.count_cons, List.count_nil] at counts taken ⊢
    omega
  have tasksMoved : ((tasks.set task new).flatMap Worker.held).Perm
      (tasks.flatMap Worker.held ++ [job]) := by
    have moved := Table.flatMap_set storedTask new Worker.held
    rwa [idle, List.append_nil, Worker.held_eq executing] at moved
  have moved : (places (lanes.set index after) (tasks.set task new)).Perm (places lanes tasks) := by
    refine List.perm_iff_count.mpr fun value => ?_
    have lanesCount := lanesMoved.count_eq value
    have tasksCount := tasksMoved.count_eq value
    simp only [places, List.count_append] at lanesCount tasksCount ⊢
    omega
  have lanesKept : ∀ (other : Nat) (current : StrideQueue String Nat) (owner : String) (value : Nat),
      (lanes.set index after)[other]? = some current → value ∈ current.waiting owner →
        ∃ before, lanes[other]? = some before ∧ value ∈ before.waiting owner := by
    intro other current owner value found waits
    rw [Table.getElem?_set storedLane] at found
    split at found
    · rename_i equal
      cases found
      exact ⟨queue, equal ▸ storedLane, ((spec.mem_waiting_iff distinct).mp waits).1⟩
    · exact ⟨current, found, waits⟩
  have left : job ∉ (lanes.set index after).flatMap StrideQueue.queued := by
    intro member
    have twice := lanesMoved.nodup_iff.mpr (List.nodup_append.mp ledger.nodup).1
    exact (List.nodup_append.mp twice).2.2 job member job List.mem_cons_self rfl
  obtain ⟨found, lookup, workload, home⟩ :=
    ledger.queued index queue key job storedLane waits
  obtain rfl : row = found := Option.some.inj (storedJob.symm.trans lookup)
  refine
    { nodup := moved.nodup_iff.mpr ledger.nodup
      queued := ?_
      held := ?_
      placed := fun other value stored pending =>
        moved.mem_iff.mpr (ledger.placed other value stored pending)
      kept := fun other value stored member =>
        ledger.kept other value stored (moved.mem_iff.mp member)
      running := ?_
      handedOnce := ?_
      handedLeft := ?_ }
  · intro other current owner value stored waits
    obtain ⟨before, storedBefore, waitsBefore⟩ := lanesKept other current owner value stored waits
    exact ledger.queued other before owner value storedBefore waitsBefore
  · intro other worker lane value workloadId stored runs
    rw [Table.getElem?_set storedTask] at stored
    split at stored
    · cases stored
      rw [executing] at runs
      cases runs
      exact ⟨row, storedJob, rfl, home⟩
    · exact ledger.held other worker lane value workloadId stored runs
  · intro workloadId
    have shares := Table.countP_set storedTask new (Worker.executes workloadId)
    rw [Worker.executes_eq_false idle, Worker.executes_eq executing] at shares
    rw [Counter.count_add, ledger.running workloadId]
    by_cases same : row.workloadId = workloadId
    · simp only [same, decide_true, if_true, Bool.false_eq_true, if_false] at shares
      rw [if_pos same.symm]
      omega
    · simp only [same, decide_false, Bool.false_eq_true, if_false] at shares
      rw [if_neg (Ne.symm same)]
      omega
  · refine List.nodup_append.mpr ⟨ledger.handedOnce, List.nodup_singleton job, ?_⟩
    rintro value member _ only rfl
    rw [List.mem_singleton] at only
    subst only
    exact (ledger.handedLeft value member).2
      (mem_lanes_iff.mpr ⟨index, queue, key, storedLane, waits⟩)
  · intro value member
    rcases List.mem_append.mp member with before | only
    · obtain ⟨bound, absent⟩ := ledger.handedLeft value before
      exact ⟨bound, fun inside =>
        absent (lanesMoved.mem_iff.mp (List.mem_append_left _ inside))⟩
    · rw [List.mem_singleton] at only
      subst only
      exact ⟨(List.getElem?_eq_some_iff.mp storedJob).1, left⟩

/-- A row number not in use has no place. -/
theorem Ledger.length_not_mem (ledger : Ledger jobs lanes tasks running handed) :
    jobs.length ∉ places lanes tasks := by
  intro member
  have missing : ∀ row, jobs[jobs.length]? ≠ some row := by
    intro row stored
    exact absurd (List.getElem?_eq_some_iff.mp stored).1 (Nat.lt_irrefl _)
  rcases List.mem_append.mp member with inside | inside
  · obtain ⟨index, queue, key, stored, waits⟩ := mem_lanes_iff.mp inside
    obtain ⟨row, found, _⟩ := ledger.queued index queue key _ stored waits
    exact missing row found
  · obtain ⟨task, worker, index, workloadId, stored, executing⟩ := mem_tasks_iff.mp inside
    obtain ⟨row, found, _⟩ := ledger.held task worker index _ workloadId stored executing
    exact missing row found

/-- A job is submitted to a lane. -/
theorem Ledger.submit (ledger : Ledger jobs lanes tasks running handed)
    {queue : StrideQueue String Nat} (stored : lanes[index]? = some queue)
    (consistent : queue.Consistent) (workloadId : String) :
    Ledger (jobs ++ [⟨workloadId, .pending, index, .kept⟩])
      (lanes.set index (queue.push workloadId jobs.length)) tasks running handed := by
  have fresh := ledger.length_not_mem
  have lanesMoved :
      ((lanes.set index (queue.push workloadId jobs.length)).flatMap StrideQueue.queued).Perm
        (jobs.length :: lanes.flatMap StrideQueue.queued) := by
    have moved := Table.flatMap_set stored (queue.push workloadId jobs.length) StrideQueue.queued
    refine List.perm_iff_count.mpr fun value => ?_
    have counts := moved.count_eq value
    have pushed := (StrideQueue.queued_push queue consistent workloadId jobs.length).count_eq value
    simp only [List.count_append, List.count_cons] at counts pushed ⊢
    omega
  have moved : (places (lanes.set index (queue.push workloadId jobs.length)) tasks).Perm
      (jobs.length :: places lanes tasks) := lanesMoved.append_right _
  have old : ∀ job row, (jobs ++ [⟨workloadId, .pending, index, .kept⟩])[job]? = some row →
      job ≠ jobs.length → jobs[job]? = some row := by
    intro job row found different
    rwa [Table.getElem?_concat, if_neg different] at found
  refine
    { nodup := moved.nodup_iff.mpr (List.nodup_cons.mpr ⟨fresh, ledger.nodup⟩)
      queued := ?_
      held := ?_
      placed := ?_
      kept := ?_
      running := ledger.running
      handedOnce := ledger.handedOnce
      handedLeft := ?_ }
  · have kept : ∀ (other : Nat) (current : StrideQueue String Nat) (key : String) (job : Nat),
        lanes[other]? = some current → job ∈ current.waiting key →
          ∃ row, (jobs ++ [⟨workloadId, .pending, index, .kept⟩])[job]? = some row ∧
            row.workloadId = key ∧ row.lane = other := by
      intro other current key job found waits
      obtain ⟨row, lookup, workload, home⟩ := ledger.queued other current key job found waits
      refine ⟨row, ?_, workload, home⟩
      rw [List.getElem?_append_left (List.getElem?_eq_some_iff.mp lookup).1, lookup]
    intro other current key job found waits
    rw [Table.getElem?_set stored] at found
    split at found
    · rename_i equal
      cases found
      rcases (StrideQueue.mem_waiting_push consistent).mp waits with before | ⟨rfl, rfl⟩
      · exact kept other queue key job (equal ▸ stored) before
      · exact ⟨_, List.getElem?_concat_length, rfl, equal.symm⟩
    · exact kept other current key job found waits
  · intro task worker lane job workload found executing
    obtain ⟨row, lookup, rest⟩ := ledger.held task worker lane job workload found executing
    refine ⟨row, ?_, rest⟩
    rw [List.getElem?_append_left (List.getElem?_eq_some_iff.mp lookup).1, lookup]
  · intro job row found pending
    rw [moved.mem_iff, List.mem_cons]
    by_cases same : job = jobs.length
    · exact Or.inl same
    · exact Or.inr (ledger.placed job row (old job row found same) pending)
  · intro job row found member kept
    by_cases same : job = jobs.length
    · rw [Table.getElem?_concat, if_pos same] at found
      cases found
      rfl
    · refine ledger.kept job row (old job row found same) ?_ kept
      exact (List.mem_cons.mp (moved.mem_iff.mp member)).resolve_left same
  · intro job member
    obtain ⟨bound, absent⟩ := ledger.handedLeft job member
    refine ⟨by rw [List.length_append]; omega, fun inside => ?_⟩
    rcases List.mem_cons.mp (lanesMoved.mem_iff.mp inside) with same | before
    · omega
    · exact absent before

/-- A submitter cancels a pending future; the job keeps its place. -/
theorem Ledger.withdraw (ledger : Ledger jobs lanes tasks running handed) {old new : Job Result}
    (stored : jobs[job]? = some old) (workload : new.workloadId = old.workloadId)
    (home : new.lane = old.lane) (completes : new.future ≠ .pending)
    (withdrawn : new.withdrawal ≠ .kept) :
    Ledger (jobs.set job new) lanes tasks running handed := by
  have kept : ∀ (other : Nat) (row : Job Result), jobs[other]? = some row →
      ∃ after : Job Result, (jobs.set job new)[other]? = some after ∧
        after.workloadId = row.workloadId ∧ after.lane = row.lane := by
    intro other row found
    rw [Table.getElem?_set stored]
    split
    · rename_i same
      obtain rfl : old = row := Option.some.inj (stored.symm.trans (same ▸ found))
      exact ⟨new, rfl, workload, home⟩
    · exact ⟨row, found, rfl, rfl⟩
  refine
    { nodup := ledger.nodup
      queued := ?_
      held := ?_
      placed := ?_
      kept := ?_
      running := ledger.running
      handedOnce := ledger.handedOnce
      handedLeft := ?_ }
  · intro index queue key other found waits
    obtain ⟨row, lookup, sameKey, sameLane⟩ := ledger.queued index queue key other found waits
    obtain ⟨after, lookupAfter, afterKey, afterLane⟩ := kept other row lookup
    exact ⟨after, lookupAfter, afterKey.trans sameKey, afterLane.trans sameLane⟩
  · intro task worker index other workloadId found executing
    obtain ⟨row, lookup, sameKey, sameLane⟩ :=
      ledger.held task worker index other workloadId found executing
    obtain ⟨after, lookupAfter, afterKey, afterLane⟩ := kept other row lookup
    exact ⟨after, lookupAfter, afterKey.trans sameKey, afterLane.trans sameLane⟩
  · intro other row found pending
    rw [Table.getElem?_set stored] at found
    split at found
    · cases found
      exact absurd pending completes
    · exact ledger.placed other row found pending
  · intro other row found member unwithdrawn
    rw [Table.getElem?_set stored] at found
    split at found
    · cases found
      exact absurd unwithdrawn withdrawn
    · exact ledger.kept other row found member unwithdrawn
  · intro other member
    rw [List.length_set]
    exact ledger.handedLeft other member

end Scheduler

end Omnitensor
