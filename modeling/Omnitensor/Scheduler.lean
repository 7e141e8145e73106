/-
This file models the accelerator scheduler: one worker per backend device.

A backend has a lane, the stride queue its jobs wait in, and a worker task that takes
one job after another from it and runs it on the backend's executor. Discovery may
remove a backend, add it again with a new lane, and the host may stop the whole
scheduler; each cancels workers that may be waiting, executing or not yet started.

All code runs on one event loop, so a step is what happens between two suspensions: a
worker's turn ends when it waits for its wake-up, awaits an executor call or ends.
Lanes, jobs and tasks are objects the code refers to from several places; here they
are rows of tables and are referred to by number. A job also records the lane it was
pushed to and whether its submitter cancelled it, and the scheduler the jobs it handed
to executors; the code stores none of the three. Load measurement is left out.
-/

import Omnitensor.Counter
import Omnitensor.Machine
import Omnitensor.StrideQueue

namespace Omnitensor

/-! ### Futures, jobs, workers -/

/-- A raised exception: its type's name, its text, and whether it is an `Exception` or only a
`BaseException`. -/
structure PythonError where
  typeName : String
  text : String
  isException : Bool
  deriving DecidableEq

/-- The future of a job. -/
inductive FutureState (Result : Type) where
  | pending
  | cancelled
  | result (value : Result)
  | exception (error : PythonError)
  deriving DecidableEq

/-- A future is done once it is not pending. -/
def FutureState.isDone {Result : Type} : FutureState Result → Bool
  | .pending => false
  | _ => true

/-- Whether and when the submitter cancelled a job's future. -/
inductive Withdrawal where
  | kept
  | whileQueued
  | whileHeld
  deriving DecidableEq

/-- A submitted job. -/
structure Job (Result : Type) where
  workloadId : String
  future : FutureState Result
  lane : Nat
  withdrawal : Withdrawal
  deriving DecidableEq

/-- Where a worker's coroutine is. -/
inductive WorkerStatus where
  | notStarted
  /-- Suspended on the backend's wake-up, serving a lane. -/
  | waiting (lane : Nat)
  /-- Suspended on the executor call of a job taken from a lane. -/
  | executing (lane job : Nat) (workloadId : String)
  | ended
  deriving DecidableEq

/-- One worker task. -/
structure Worker where
  backend : String
  status : WorkerStatus
  cancelRequested : Bool
  deriving DecidableEq

/-- One call of `stop`: the tasks it gathers, and whether it has returned. -/
structure StopCall where
  awaited : List Nat
  returned : Bool
  deriving DecidableEq

/-- The job a worker holds while its executor runs it. -/
def Worker.held (worker : Worker) : List Nat :=
  match worker.status with
  | .executing _ job _ => [job]
  | _ => []

/-- A worker is executing a job of a workload. -/
def Worker.executes (workloadId : String) (worker : Worker) : Bool :=
  match worker.status with
  | .executing _ _ current => decide (current = workloadId)
  | _ => false

/-- Complete a job's future unless it is done already. -/
def Job.settle {Result : Type} (outcome : FutureState Result) (job : Job Result) : Job Result :=
  match job.future with
  | .pending => { job with future := outcome }
  | _ => job

/-- Complete the future of the job in a row. -/
def settleJob {Result : Type} (outcome : FutureState Result) (jobs : List (Job Result))
    (index : Nat) : List (Job Result) :=
  match jobs[index]? with
  | none => jobs
  | some job => jobs.set index (job.settle outcome)

/-- Complete the futures of several jobs. -/
def settleJobs {Result : Type} (outcome : FutureState Result) (jobs : List (Job Result))
    (indices : List Nat) : List (Job Result) :=
  indices.foldl (settleJob outcome) jobs

/-- Ask a task to cancel. -/
def cancelTask (tasks : List Worker) (index : Nat) : List Worker :=
  match tasks[index]? with
  | none => tasks
  | some worker => tasks.set index { worker with cancelRequested := true }

/-! ### The scheduler -/

/-- How many jobs a backend may queue. -/
abbrev QueueDepth : Type := { depth : Nat // 1 ≤ depth }

/-- The scheduler of all backends. Executors are numbered. -/
structure Scheduler (Result : Type) where
  maxBackendQueueDepth : QueueDepth
  executors : Dict String Nat
  queues : Dict String Nat
  lanes : List (StrideQueue String Nat)
  running : Counter String
  workers : Dict String Nat
  retired : List Nat
  wakeups : Dict String Bool
  degraded : Dict String String
  started : Bool
  stopped : Bool
  jobs : List (Job Result)
  tasks : List Worker
  stops : List StopCall
  handed : List Nat

/-- The callbacks of one pop: they answer, or one raises, with the passes as far as the pop had
moved them. -/
inductive PopCallbacks where
  | answer (weightOf : String → WeightValue) (admits : Option (String → Bool))
  | raiseCancelled (passes : String → ℚ)
  | raiseError (error : PythonError) (passes : String → ℚ)

/-- How an executor call ends. -/
inductive ExecutorOutcome (Result : Type) where
  | success (value : Result)
  | raised (error : PythonError)
  | raisedCancelled

namespace Scheduler

variable {Result : Type}

/-- A lane by its number. -/
def lane (scheduler : Scheduler Result) (index : Nat) : StrideQueue String Nat :=
  (scheduler.lanes[index]?).getD StrideQueue.empty

/-- Give a lane a new content. -/
def setLane (scheduler : Scheduler Result) (index : Nat) (queue : StrideQueue String Nat) :
    Scheduler Result :=
  { scheduler with lanes := scheduler.lanes.set index queue }

/-- Move a worker's coroutine. -/
def setStatus (scheduler : Scheduler Result) (task : Nat) (status : WorkerStatus) :
    Scheduler Result :=
  match scheduler.tasks[task]? with
  | none => scheduler
  | some worker => { scheduler with tasks := scheduler.tasks.set task { worker with status } }

/-- Schedulers are built over the executors of the first discovery pass. -/
def create (maxBackendQueueDepth : QueueDepth) (executors : Dict String Nat) : Scheduler Result where
  maxBackendQueueDepth := maxBackendQueueDepth
  executors := executors
  queues := ⟨executors.keys.zipIdx, by
    rw [List.zipIdx_map_fst]
    exact executors.nodup_keys⟩
  lanes := executors.keys.map fun _ => StrideQueue.empty
  running := Counter.empty
  workers := Dict.empty
  retired := []
  wakeups := executors.mapValues fun _ _ => false
  degraded := Dict.empty
  started := false
  stopped := false
  jobs := []
  tasks := []
  stops := []
  handed := []

/-! ### Starting, discovery, stopping -/

/-- Create a backend's worker task. -/
def spawnWorker (scheduler : Scheduler Result) (backend : String) : Scheduler Result :=
  { scheduler with
    workers := scheduler.workers.set backend scheduler.tasks.length
    tasks := scheduler.tasks ++ [⟨backend, .notStarted, false⟩] }

/-- Create every backend's worker task. -/
def start (scheduler : Scheduler Result) : Scheduler Result :=
  scheduler.executors.keys.foldl spawnWorker { scheduler with started := true }

/-- Cancel the future of every job queued in a lane; the emptied queues stay under their keys. -/
def cancelQueued (scheduler : Scheduler Result) (index : Nat) : Scheduler Result :=
  let queue := scheduler.lane index
  { scheduler with
    jobs := settleJobs .cancelled scheduler.jobs queue.queued
    lanes := scheduler.lanes.set index
      { queue with items := queue.items.mapValues fun _ _ => [] } }

/-- Forget stale failure evidence after recovery or device removal. -/
def clearDegradation (scheduler : Scheduler Result) (backend : String) : Scheduler Result :=
  { scheduler with degraded := scheduler.degraded.erase backend }

/-- Cancel and retire a removed backend's worker. -/
def retireWorker (scheduler : Scheduler Result) (backend : String) : Scheduler Result :=
  match scheduler.workers.get? backend with
  | none => scheduler
  | some worker =>
    { scheduler with
      workers := scheduler.workers.erase backend
      tasks := cancelTask scheduler.tasks worker
      retired := scheduler.retired ++ [worker] }

/-- Forget a removed backend: its worker is cancelled and retired and its jobs are cancelled. -/
def removeBackend (scheduler : Scheduler Result) (backend : String) : Scheduler Result :=
  let retiring := (scheduler.clearDegradation backend).retireWorker backend
  let forgotten :=
    { retiring with
      wakeups := retiring.wakeups.erase backend
      queues := retiring.queues.erase backend }
  match retiring.queues.get? backend with
  | none => forgotten
  | some index => forgotten.cancelQueued index

/-- Give a new backend a lane and, when running, a worker. -/
def addBackend (scheduler : Scheduler Result) (backend : String) : Scheduler Result :=
  if scheduler.queues.contains backend then scheduler
  else
    let added :=
      { scheduler with
        queues := scheduler.queues.set backend scheduler.lanes.length
        lanes := scheduler.lanes ++ [StrideQueue.empty]
        wakeups := scheduler.wakeups.set backend false }
    if added.started && !added.stopped then added.spawnWorker backend else added

/-- Whether a task has ended. -/
def taskDone (scheduler : Scheduler Result) (task : Nat) : Bool :=
  match scheduler.tasks[task]? with
  | none => true
  | some worker => decide (worker.status = .ended)

/-- Swap in the executors from the latest discovery pass. -/
def updateExecutors (scheduler : Scheduler Result) (executors : Dict String Nat) :
    Scheduler Result :=
  let removed := scheduler.executors.keys.filter fun backend => !executors.contains backend
  let swapped :=
    { scheduler with
      executors := executors
      retired := scheduler.retired.filter fun task => !scheduler.taskDone task }
  executors.keys.foldl addBackend (removed.foldl removeBackend swapped)

/-- The first half of `stop`: cancel every worker and gather them. -/
def stop (scheduler : Scheduler Result) : Scheduler Result :=
  let awaited := scheduler.workers.values ++ scheduler.retired
  { scheduler with
    stopped := true
    wakeups := scheduler.wakeups.mapValues fun _ _ => true
    tasks := awaited.foldl cancelTask scheduler.tasks
    stops := scheduler.stops ++ [⟨awaited, false⟩] }

/-- The second half of `stop`, once the gathered workers have ended: cancel what is queued. -/
def finishStop (scheduler : Scheduler Result) (call : Nat) (gathered : StopCall) :
    Scheduler Result :=
  let cleared :=
    { scheduler with
      workers := Dict.empty
      retired := []
      degraded := Dict.empty
      stops := scheduler.stops.set call { gathered with returned := true } }
  cleared.queues.values.foldl cancelQueued cleared

/-- Wake every worker. -/
def kick (scheduler : Scheduler Result) : Scheduler Result :=
  { scheduler with wakeups := scheduler.wakeups.mapValues fun _ _ => true }

/-! ### Submitting -/

/-- Submit a job to a backend: the scheduler with the job in its last row, or the error raised. -/
def submit (scheduler : Scheduler Result) (backend workloadId : String) :
    Except PythonError (Scheduler Result) :=
  if scheduler.stopped then .error ⟨"RuntimeError", "scheduler is stopped", true⟩
  else
    match scheduler.queues.get? backend with
    | none => .error ⟨"KeyError", backend, true⟩
    | some index =>
      let queue := scheduler.lane index
      if scheduler.maxBackendQueueDepth.val ≤ queue.depth then
        .error ⟨"QueueFullError",
          backend ++ " queue is full (" ++ toString scheduler.maxBackendQueueDepth.val ++ " jobs)", true⟩
      else
        .ok
          { scheduler with
            lanes := scheduler.lanes.set index (queue.push workloadId scheduler.jobs.length)
            jobs := scheduler.jobs ++ [⟨workloadId, .pending, index, .kept⟩]
            wakeups := scheduler.wakeups.mapValues fun other woken => woken || other == backend }

/-- The submitter cancels a job's future. -/
def cancelFuture (scheduler : Scheduler Result) (index : Nat) (job : Job Result) :
    Scheduler Result :=
  match job.future with
  | .pending =>
    let held := decide (index ∈ scheduler.tasks.flatMap Worker.held)
    let withdrawn : Job Result :=
      { job with
        future := .cancelled
        withdrawal := if held then .whileHeld else .whileQueued }
    { scheduler with jobs := scheduler.jobs.set index withdrawn }
  | _ => scheduler

/-! ### A worker's turn -/

/-- Every per-profile queue of a lane is popped from its three tables. -/
def drained (queue : StrideQueue String Nat) : StrideQueue String Nat :=
  queue.items.keys.foldl StrideQueue.prune queue

/-- Fail everything queued for a backend that just failed unexpectedly. -/
def degrade (scheduler : Scheduler Result) (backend : String) (index : Nat) (typeName : String) :
    Scheduler Result :=
  let queue := scheduler.lane index
  let error : PythonError := ⟨"RuntimeError", backend ++ " scheduling failed: " ++ typeName, true⟩
  { scheduler with
    degraded := scheduler.degraded.set backend typeName
    jobs := settleJobs (.exception error) scheduler.jobs queue.queued
    lanes := scheduler.lanes.set index (drained queue) }

/-- Nothing to serve: clear the backend's wake-up and wait for it. -/
def await (scheduler : Scheduler Result) (task : Nat) (backend : String) (index : Nat) :
    Scheduler Result :=
  { scheduler with
    wakeups := scheduler.wakeups.mapValues fun other woken => woken && other != backend
  }.setStatus task (.waiting index)

/-- Hand a job just taken from a lane to the backend's executor. -/
def execute (scheduler : Scheduler Result) (task : Nat) (backend : String) (index job : Nat) :
    Scheduler Result :=
  match scheduler.executors.get? backend, scheduler.jobs[job]? with
  | some _, some row =>
    { scheduler with
      running := scheduler.running.add row.workloadId
      handed := scheduler.handed ++ [job]
    }.setStatus task (.executing index job row.workloadId)
  -- no executor: the `KeyError` is raised after the job left its queue, and fails the others
  | _, _ => (scheduler.degrade backend index "KeyError").await task backend index

/-- The passes as a callback that raised left them. -/
def movePasses (queue : StrideQueue String Nat) (passes : String → ℚ) : StrideQueue String Nat :=
  { queue with passes := queue.passes.mapValues fun key _ => passes key }

/-- The worker's loop from its `while` to the next suspension. A drained lane calls no callback, so
after a failure the loop comes round once and waits. -/
def workerLoop (scheduler : Scheduler Result) (task : Nat) (backend : String) (index : Nat)
    (callbacks : PopCallbacks) : Scheduler Result :=
  if scheduler.stopped then scheduler.setStatus task .ended
  else
    match callbacks with
    | .answer weightOf admits =>
      match (scheduler.lane index).pop weightOf admits with
      | none => scheduler.await task backend index
      | some ((_, job), rest) => (scheduler.setLane index rest).execute task backend index job
    | .raiseCancelled passes =>
      if (scheduler.lane index).queued = [] then scheduler.await task backend index
      else
        (scheduler.setLane index (movePasses (scheduler.lane index) passes)).setStatus task .ended
    | .raiseError error passes =>
      if (scheduler.lane index).queued = [] then scheduler.await task backend index
      else
        ((scheduler.setLane index (movePasses (scheduler.lane index) passes)).degrade backend index
          error.typeName).await task backend index

/-- The end of an executor call: settle the job's future and count it as finished. The worker is
back in its loop, which decides where it suspends next. -/
def finishJob (scheduler : Scheduler Result) (task index job : Nat) (workloadId : String)
    (outcome : FutureState Result) : Scheduler Result :=
  { scheduler with
    jobs := settleJob outcome scheduler.jobs job
    running := scheduler.running.remove workloadId
  }.setStatus task (.waiting index)

/-- A turn that a cancellation starts: it is raised where the coroutine is suspended. -/
def unwind (scheduler : Scheduler Result) (task : Nat) (status : WorkerStatus) :
    Scheduler Result :=
  match status with
  | .executing index job workloadId =>
    (scheduler.finishJob task index job workloadId .cancelled).setStatus task .ended
  | _ => scheduler.setStatus task .ended

/-- A turn that the end of an executor call starts. -/
def complete (scheduler : Scheduler Result) (task : Nat) (backend : String) (index job : Nat)
    (workloadId : String) (outcome : ExecutorOutcome Result) (callbacks : PopCallbacks) :
    Scheduler Result :=
  match outcome with
  | .success value =>
    (((scheduler.clearDegradation backend).finishJob task index job workloadId
      (.result value))).workerLoop task backend index callbacks
  | .raisedCancelled =>
    (scheduler.finishJob task index job workloadId .cancelled).setStatus task .ended
  | .raised error =>
    if error.isException then
      (scheduler.finishJob task index job workloadId (.exception error)).workerLoop task backend
        index callbacks
    else
      ((scheduler.finishJob task index job workloadId
        (.exception ⟨"RuntimeError", error.text, true⟩)).degrade backend index
          error.typeName).workerLoop task backend index callbacks

/-! ### Steps -/

/-- What happens to the scheduler: a call by the host or a submitter, or a worker's turn. -/
inductive Action (Result : Type) where
  | start
  | updateExecutors (executors : Dict String Nat)
  | stop
  | stopReturns (call : Nat)
  | kick
  | submit (backend workloadId : String)
  | cancelFuture (job : Nat)
  /-- A worker starts, or resumes because it was woken or cancelled. -/
  | resume (task : Nat) (callbacks : PopCallbacks)
  /-- A worker resumes with the end of its executor call. -/
  | complete (task : Nat) (outcome : ExecutorOutcome Result) (callbacks : PopCallbacks)

/-- A worker's turn other than the end of an executor call, when it is due. -/
def resume (scheduler : Scheduler Result) (task : Nat) (worker : Worker)
    (callbacks : PopCallbacks) : Option (Scheduler Result) :=
  match worker.status with
  | .ended => none
  | status =>
    if worker.cancelRequested then some (scheduler.unwind task status)
    else
      match status with
      | .notStarted =>
        match scheduler.queues.get? worker.backend with
        -- `KeyError` outside the loop ends the task
        | none => some (scheduler.setStatus task .ended)
        | some index => some (scheduler.workerLoop task worker.backend index callbacks)
      | .waiting index =>
        if scheduler.wakeups.get? worker.backend = some true then
          some (scheduler.workerLoop task worker.backend index callbacks)
        else none
      | _ => none

/-- Whether every task a stop call gathers has ended. -/
def gathered (scheduler : Scheduler Result) (call : StopCall) : Bool :=
  call.awaited.all scheduler.taskDone

/-- The scheduler after one action, when the action is possible. The host starts a scheduler once,
before it stops it. -/
def step (scheduler : Scheduler Result) : Action Result → Option (Scheduler Result)
  | .start => if scheduler.started || scheduler.stopped then none else some scheduler.start
  | .updateExecutors executors => some (scheduler.updateExecutors executors)
  | .stop => some scheduler.stop
  | .stopReturns call =>
    match scheduler.stops[call]? with
    | none => none
    | some pending =>
      if !pending.returned && scheduler.gathered pending then
        some (scheduler.finishStop call pending)
      else none
  | .kick => some scheduler.kick
  | .submit backend workloadId =>
    match scheduler.submit backend workloadId with
    | .error _ => some scheduler
    | .ok submitted => some submitted
  | .cancelFuture index =>
    match scheduler.jobs[index]? with
    | none => none
    | some job => some (scheduler.cancelFuture index job)
  | .resume task callbacks =>
    match scheduler.tasks[task]? with
    | none => none
    | some worker => scheduler.resume task worker callbacks
  | .complete task outcome callbacks =>
    match scheduler.tasks[task]? with
    | none => none
    | some worker =>
      match worker.status with
      | .executing index job workloadId =>
        if worker.cancelRequested then none
        else some (scheduler.complete task worker.backend index job workloadId outcome callbacks)
      | _ => none

end Scheduler

end Omnitensor
