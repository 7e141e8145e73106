/-
This file models the plugin admission pool: a bounded number of worker slots.

Every job queues; whenever policy, pressure or the set of running jobs may have
changed, the pool is pumped: while fewer jobs run than the current width allows,
the stride queue chooses a waiter and its future is resolved, which counts the slot
as running before the waiting caller has resumed. A caller that is cancelled while
it waits removes itself from the queue, and returns the slot it was already handed.

A caller is a coroutine that runs from one suspension to the next without
interleaving, so a step of the pool is one such stretch. The row number of a caller
stands for the waiter future it queues. Each caller also counts the slots it was
handed and gave back, which the code does not store.
-/

import Omnitensor.Counter
import Omnitensor.Machine
import Omnitensor.StrideQueue

namespace Omnitensor

/-! ### Limits, policy and pressure -/

/-- The ceiling the pool may be tuned to. -/
def maxConcurrentLimit : Nat := 32

/-- The ceiling on waiting jobs. -/
def maxWaitingLimit : Nat := 1024

/-- The tuned sizes of a pool, each within its limit. -/
structure PoolLimits where
  maxConcurrent : Nat
  maxWaiting : Nat
  one_le_maxConcurrent : 1 ≤ maxConcurrent
  maxConcurrent_le : maxConcurrent ≤ maxConcurrentLimit
  one_le_maxWaiting : 1 ≤ maxWaiting
  maxWaiting_le : maxWaiting ≤ maxWaitingLimit

/-- Check a tuned size, naming it in the error. -/
def bounded (value : Int) (name : String) (limit : Nat) :
    Except String {size : Nat // 1 ≤ size ∧ size ≤ limit} :=
  if within : 1 ≤ value ∧ value ≤ limit then .ok ⟨value.toNat, by omega⟩
  else .error (name ++ " must be an integer between 1 and " ++ toString limit)

/-- The sizes a pool may be built with. -/
def PoolLimits.build (maxConcurrent maxWaiting : Int) : Except String PoolLimits := do
  let slots ← bounded maxConcurrent "max_concurrent" maxConcurrentLimit
  let places ← bounded maxWaiting "max_waiting" maxWaitingLimit
  return ⟨slots, places, slots.property.1, slots.property.2, places.property.1, places.property.2⟩

/-- What one probe of host pressure does. -/
inductive PressureReading where
  | fails
  | reads (saturated : Bool)
  deriving DecidableEq

/-- The callbacks as they answer during one pump. Weight and admission are read from policy,
which only the event loop changes; pressure is the host's and may change at every probe. -/
structure AdmissionPolicy where
  weightOf : String → WeightValue
  admits : Option (String → Bool)
  pressure : Option (Nat → PressureReading)

/-! ### Callers -/

/-- The future a caller waits on. -/
inductive WaiterState where
  | pending
  | cancelled
  | resolved
  deriving DecidableEq

/-- Where a caller's coroutine is. -/
inductive CallerTask where
  /-- The queue was full: the call raised. -/
  | refused
  /-- Suspended on the waiter; a cancellation that came after the waiter was resolved is
  raised when the task resumes. -/
  | suspended (cancelRequested : Bool)
  /-- Inside `start`, holding its slot. -/
  | running
  /-- `start` has returned or raised, and the slot was released. -/
  | finished
  /-- The cancellation was raised out of the call. -/
  | cancelled
  deriving DecidableEq

/-- One call of the pool's `run`. -/
structure Caller where
  profileId : String
  waiter : WaiterState
  task : CallerTask
  /-- How many slots the call was handed. -/
  grants : Nat
  /-- How many slots the call gave back. -/
  releases : Nat
  deriving DecidableEq

namespace Caller

/-- A call that has just created its waiter. -/
def arriving (profileId : String) : Caller := ⟨profileId, .pending, .suspended false, 0, 0⟩

/-- A caller holds a slot that it was handed and has not given back. -/
def holds (caller : Caller) : Bool := decide (caller.releases < caller.grants)

/-- A caller holds a slot of a profile. -/
def holdsFor (profileId : String) (caller : Caller) : Bool :=
  caller.holds && decide (caller.profileId = profileId)

/-- A caller waits for a slot: its future is pending and its coroutine suspended on it. -/
def isWaiting (caller : Caller) : Bool :=
  decide (caller.waiter = .pending) && decide (caller.task = .suspended false)

end Caller

/-! ### The pool -/

/-- A weighted, bounded pool of concurrent plugin-worker jobs. -/
structure PluginAdmission where
  limits : PoolLimits
  queue : StrideQueue String Nat
  running : Counter String
  callers : List Caller
  /-- The width the pump read last, which the code does not keep. -/
  allowed : Nat

namespace PluginAdmission

/-- A pool nobody called yet. -/
def empty (limits : PoolLimits) : PluginAdmission :=
  ⟨limits, StrideQueue.empty, Counter.empty, [], limits.maxConcurrent⟩

/-- How many jobs may run right now: all while the host has room, one while it does not. -/
def width (pool : PluginAdmission) (policy : AdmissionPolicy) (probe : Nat) : Nat :=
  match policy.pressure with
  | none => pool.limits.maxConcurrent
  | some pressure =>
    match pressure probe with
    | .fails => pool.limits.maxConcurrent
    | .reads saturated => if saturated then 1 else pool.limits.maxConcurrent

/-- Hand a slot to a waiter taken from the queue, unless it was cancelled while it queued. -/
def serve (pool : PluginAdmission) (profileId : String) (waiter : Nat) : PluginAdmission :=
  match pool.callers[waiter]? with
  | none => pool
  | some caller =>
    if caller.waiter = .cancelled then pool
    else
      { pool with
        running := pool.running.add profileId
        callers :=
          pool.callers.set waiter { caller with waiter := .resolved, grants := caller.grants + 1 } }

/-- The pump's loop, from the given probe on. -/
def pumpFrom (policy : AdmissionPolicy) : Nat → Nat → PluginAdmission → PluginAdmission
  | 0, _, pool => pool
  | fuel + 1, probe, pool =>
    let read := { pool with allowed := pool.width policy probe }
    if read.running.total < read.allowed then
      match read.queue.pop policy.weightOf policy.admits with
      | none => read
      | some ((profileId, waiter), queue) =>
        pumpFrom policy fuel (probe + 1) (({ read with queue } : PluginAdmission).serve profileId waiter)
    else read

/-- Hand out slots while the width allows it and an admitted profile waits. Every round but the
last takes a waiter out of the queue, so the fuel is never used up. -/
def pump (pool : PluginAdmission) (policy : AdmissionPolicy) : PluginAdmission :=
  pool.pumpFrom policy (pool.queue.depth + 1) 0

/-- Give a slot back and let the next waiter have it; the caller's call ends with it. -/
def release (pool : PluginAdmission) (policy : AdmissionPolicy) (index : Nat) (caller : Caller)
    (ended : CallerTask) : PluginAdmission :=
  pump
    { pool with
      running := pool.running.remove caller.profileId
      callers :=
        pool.callers.set index { caller with task := ended, releases := caller.releases + 1 } }
    policy

/-- A call whose waiter was resolved before it could suspend goes straight on to `start`. -/
def enter (pool : PluginAdmission) (index : Nat) : PluginAdmission :=
  match pool.callers[index]? with
  | none => pool
  | some caller =>
    if caller.waiter = .resolved then
      { pool with callers := pool.callers.set index { caller with task := .running } }
    else pool

/-- Queue the waiter of a new call. -/
def push (pool : PluginAdmission) (profileId : String) : PluginAdmission :=
  { pool with
    queue := pool.queue.push profileId pool.callers.length
    callers := pool.callers ++ [Caller.arriving profileId] }

/-- A call of `run`: queue a waiter, or be refused when too many wait already. -/
def arrive (pool : PluginAdmission) (policy : AdmissionPolicy) (profileId : String) :
    PluginAdmission :=
  if pool.limits.maxWaiting ≤ pool.queue.depth then
    -- `JobDispatchError`, code "plugin-queue-full": raised before the waiter is queued
    { pool with callers := pool.callers ++ [{ Caller.arriving profileId with task := .refused }] }
  else ((pool.push profileId).pump policy).enter pool.callers.length

/-- Cancel a waiting call: a pending waiter is cancelled with it, otherwise the cancellation is
raised when the call resumes. -/
def cancel (pool : PluginAdmission) (index : Nat) (caller : Caller) : PluginAdmission :=
  let cancelled :=
    if caller.waiter = .pending then { caller with waiter := .cancelled }
    else { caller with task := .suspended true }
  { pool with callers := pool.callers.set index cancelled }

/-- A suspended call resumes: into `start`, or out through the cancellation, which leaves the
queue and gives back a slot that was handed over meanwhile. -/
def resume (pool : PluginAdmission) (policy : AdmissionPolicy) (index : Nat) (caller : Caller) :
    PluginAdmission :=
  if caller.waiter = .resolved ∧ caller.task = .suspended false then
    { pool with callers := pool.callers.set index { caller with task := .running } }
  else
    let left := { pool with queue := (pool.queue.discard caller.profileId index).2 }
    if caller.waiter = .resolved then left.release policy index caller .cancelled
    else { left with callers := left.callers.set index { caller with task := .cancelled } }

/-! ### Steps -/

/-- What happens to the pool: a call, a cancellation, the event loop resuming a call whose
waiter is done, the end of a call's `start`, or a policy change. -/
inductive Action where
  | arrive (policy : AdmissionPolicy) (profileId : String)
  | cancel (index : Nat)
  | resume (policy : AdmissionPolicy) (index : Nat)
  | finish (policy : AdmissionPolicy) (index : Nat)
  | kick (policy : AdmissionPolicy)

/-- The pool after one action, when the action is possible. -/
def step (pool : PluginAdmission) : Action → Option PluginAdmission
  | .arrive policy profileId => some (pool.arrive policy profileId)
  | .cancel index =>
    match pool.callers[index]? with
    | some caller =>
      match caller.task with
      | .suspended _ => some (pool.cancel index caller)
      | _ => none
    | none => none
  | .resume policy index =>
    match pool.callers[index]? with
    | some caller =>
      match caller.task with
      | .suspended _ =>
        if caller.waiter = .pending then none else some (pool.resume policy index caller)
      | _ => none
    | none => none
  | .finish policy index =>
    match pool.callers[index]? with
    | some caller =>
      match caller.task with
      | .running => some (pool.release policy index caller .finished)
      | _ => none
    | none => none
  | .kick policy => some (pool.pump policy)

/-- The policy an action pumps the pool under, when it pumps it. -/
def pumpedUnder (pool : PluginAdmission) : Action → Option AdmissionPolicy
  | .arrive policy _ => if pool.limits.maxWaiting ≤ pool.queue.depth then none else some policy
  | .cancel _ => none
  | .resume policy index =>
    match pool.callers[index]? with
    | some caller =>
      if caller.waiter = .resolved ∧ caller.task = .suspended true then some policy else none
    | none => none
  | .finish policy _ => some policy
  | .kick policy => some policy

end PluginAdmission

end Omnitensor
