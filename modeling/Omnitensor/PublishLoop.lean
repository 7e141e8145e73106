/-
This file models the loop that publishes the runtime snapshot, and everything that runs beside it.

A tick runs what the service owes it, looks at the devices, and either builds a snapshot and writes
it when it says something new or a heartbeat is due, or retracts the one on disk. Between two ticks
the loop waits for a deadline, a wake or the end. Every action goes up to a place where the loop
lets others run: requests come from any thread, their callbacks run on the loop, devices and the
scheduler change, and time passes. Beside the loop and the disk, a state counts the requests that
returned since the last look, and remembers what the last tick ended with.
-/

import Omnitensor.Dict
import Omnitensor.Machine

namespace Omnitensor

/-- What a call can raise: the first two are an outage of one output, the last ends the loop. -/
inductive PublishFailure where
  | osError
  | valueError
  | other
  deriving DecidableEq

/-- Where the loop lets others run. -/
inductive PublishPhase (View Reading : Type) where
  /-- It is bound, and its run has not begun. -/
  | bound
  | beforeTick
  /-- The builder has the view off the loop. -/
  | building (view : View)
  | publishing (view : View) (reading : Reading) (changed : Bool)
  /-- The publisher has returned, and the loop has not resumed. -/
  | recording (view : View) (reading : Reading) (changed : Bool)
  | retracting
  /-- The retraction has returned, and the loop has not resumed. -/
  | forgetting
  | waiting (deadline : Nat)
  /-- The wait is over, and what it waited for is being cancelled. -/
  | waking
  | stopped
  | raised
  deriving DecidableEq

namespace PublishPhase

variable {View Reading : Type}

/-- No tick has looked and not ended. -/
def between : PublishPhase View Reading → Bool
  | .building _ | .publishing .. | .recording .. | .retracting | .forgetting => false
  | _ => true

/-- The loop has resumed after every write. -/
def settled : PublishPhase View Reading → Bool
  | .recording .. | .forgetting => false
  | _ => true

/-- Whether the loop looks again before it waits, if it ever waits. -/
def looksFirst : PublishPhase View Reading → Bool
  | .bound | .beforeTick | .waking | .stopped | .raised => true
  | _ => false

end PublishPhase

/-- What a tick that ended without error found: a view and what its builder read, or no device. -/
inductive TickOutcome (View Reading : Type) where
  | present (view : View) (reading : Reading)
  | absent
  deriving DecidableEq

structure PublishIntervals where
  interval : Nat
  idleInterval : Nat
  heartbeatInterval : Nat

/-- A loop that publishes snapshots, with the file it writes and the clock it reads. -/
structure SnapshotPublishLoop (View Reading Value : Type) where
  phase : PublishPhase View Reading
  idle : Bool
  retracted : Bool
  lastPublished : Option (Dict String Value)
  nextHeartbeat : Nat
  wake : Bool
  stopping : Bool
  clock : Nat
  devicesPresent : Bool
  view : View
  disk : Option (Dict String Value)
  /-- Requests that found the wake clear and have not scheduled its setting. -/
  scheduling : Nat
  /-- Settings of the wake the loop has not run. -/
  scheduled : Nat
  /-- Requests that returned since the loop last looked. -/
  returned : Nat
  /-- What the last tick ended with, unless it ended in an error or has not ended. -/
  ended : Option (TickOutcome View Reading)
  deriving DecidableEq

/-- What the loop, the event loop it runs in and its callers do, one at a time. -/
inductive PublishAction (View Reading : Type) where
  /-- `request_publish` tests the wake. -/
  | request
  /-- It schedules the setting of the wake, unless the event loop is closed. -/
  | schedule (closed : Bool)
  | callback
  | run
  | beforeTick (failure : Option PublishFailure)
  | build (result : Except PublishFailure Reading)
  | publish (failure : Option PublishFailure)
  | record
  | retract (failure : Option PublishFailure)
  | forget
  | timeout
  | woken
  | resume
  | devices (present : Bool)
  | change (view : View)
  | elapse (duration : Nat)
  | stop

/-- What runs before a tick does not raise. -/
def PublishAction.HookReturns {View Reading : Type} (action : PublishAction View Reading) : Prop :=
  ∀ failure, action ≠ .beforeTick (some failure)

/-- The action is the return of a request: at once where the wake is set. -/
def PublishAction.Returns {View Reading : Type} (wake : Bool) : PublishAction View Reading → Prop
  | .request => wake = true
  | .schedule _ => True
  | _ => False

namespace SnapshotPublishLoop

variable {View Reading Value : Type}

/-! ### Documents -/

/-- The snapshot's content, apart from when it was built. -/
def contentOf (snapshot : Dict String Value) : Dict String Value :=
  snapshot.filter fun key _ => key != "generatedAt"

/-- Equality of dictionaries, in any order of their keys. -/
def equalDicts [BEq Value] (first second : Dict String Value) : Bool :=
  first.size == second.size &&
    first.entries.all fun entry => (second.get? entry.1).any fun value => entry.2 == value

/-- The state before a run, over whatever an earlier process left on disk. -/
def fresh (disk : Option (Dict String Value)) (devicesPresent : Bool) (view : View) :
    SnapshotPublishLoop View Reading Value where
  phase := .bound
  idle := false
  retracted := false
  lastPublished := none
  nextHeartbeat := 0
  wake := false
  stopping := false
  clock := 0
  devicesPresent := devicesPresent
  view := view
  disk := disk
  scheduling := 0
  scheduled := 0
  returned := 0
  ended := none

section

variable (state : SnapshotPublishLoop View Reading Value)

/-- Whether this document says anything the last published one did not. -/
def changed [BEq Value] (snapshot : Dict String Value) : Bool :=
  match state.lastPublished with
  | none => true
  | some last => !equalDicts (contentOf snapshot) (contentOf last)

def heartbeatDue : Bool := decide (state.nextHeartbeat ≤ state.clock)

/-- The loop waits, and nothing has woken it or is about to. -/
def Asleep : Prop :=
  (∃ deadline, state.phase = .waiting deadline) ∧ state.wake = false ∧ state.scheduled = 0

variable (intervals : PublishIntervals)

def recordPublished (snapshot : Dict String Value) : SnapshotPublishLoop View Reading Value :=
  { state with
    lastPublished := some snapshot
    nextHeartbeat := state.clock + intervals.heartbeatInterval }

/-! ### Ticks -/

/-- The beginning of a wait. -/
def awaitNext : SnapshotPublishLoop View Reading Value :=
  { state with
    phase := .waiting (state.clock +
      if state.idle then intervals.idleInterval else intervals.interval) }

/-- The test at the head of the loop. -/
def loopHead : SnapshotPublishLoop View Reading Value :=
  { state with phase := if state.stopping then .stopped else .beforeTick }

/-- The end of a tick without error. -/
def finish (outcome : TickOutcome View Reading) : SnapshotPublishLoop View Reading Value :=
  awaitNext { state with ended := some outcome } intervals

/-- The end of a tick in an error. -/
def failTick : PublishFailure → SnapshotPublishLoop View Reading Value
  | .osError | .valueError => awaitNext { state with idle := false, ended := none } intervals
  | .other => { state with phase := .raised, ended := none }

/-- A tick looks: at the devices, and at the scheduler where there are any. -/
def look : SnapshotPublishLoop View Reading Value :=
  if state.devicesPresent then
    { state with phase := .building state.view, retracted := false, returned := 0, ended := none }
  else if state.retracted then
    finish { state with returned := 0 } intervals .absent
  else { state with phase := .retracting, returned := 0, ended := none }

variable [BEq Value] (build : View → Reading → Dict String Value)

/-- The loop has the snapshot: it is published if it is news or a heartbeat is due. -/
def weigh (view : View) (reading : Reading) : SnapshotPublishLoop View Reading Value :=
  let changed := state.changed (build view reading)
  if changed || state.heartbeatDue then { state with phase := .publishing view reading changed }
  else finish { state with idle := !changed } intervals (.present view reading)

/-- The loop has resumed after a publication. -/
def publishedTick (view : View) (reading : Reading) (changed : Bool) :
    SnapshotPublishLoop View Reading Value :=
  finish { state.recordPublished intervals (build view reading) with idle := !changed } intervals
    (.present view reading)

/-- The loop has resumed after a retraction. -/
def retractedTick : SnapshotPublishLoop View Reading Value :=
  finish { state with retracted := true, lastPublished := none, nextHeartbeat := 0 } intervals
    .absent

end

variable (intervals : PublishIntervals) [BEq Value] (build : View → Reading → Dict String Value)

/-- One action, where it is possible. -/
def step (state : SnapshotPublishLoop View Reading Value) (action : PublishAction View Reading) :
    Option (SnapshotPublishLoop View Reading Value) :=
  match action, state.phase with
  | .request, _ =>
    if state.wake then some { state with returned := state.returned + 1 }
    else some { state with scheduling := state.scheduling + 1 }
  | .schedule false, _ =>
    if state.scheduling = 0 then none
    else some { state with
      scheduling := state.scheduling - 1
      scheduled := state.scheduled + 1
      returned := state.returned + 1 }
  | .schedule true, .stopped | .schedule true, .raised =>
    if state.scheduling = 0 then none
    else some { state with
      scheduling := state.scheduling - 1
      returned := state.returned + 1 }
  | .callback, _ =>
    if state.scheduled = 0 then none
    else some { state with scheduled := state.scheduled - 1, wake := true }
  | .run, .bound => some state.loopHead
  | .beforeTick none, .beforeTick => some (state.look intervals)
  | .beforeTick (some failure), .beforeTick => some (state.failTick intervals failure)
  | .build (.ok reading), .building view => some (state.weigh intervals build view reading)
  | .build (.error failure), .building _ => some (state.failTick intervals failure)
  | .publish none, .publishing view reading changed => some { state with
      phase := .recording view reading changed
      disk := some (build view reading) }
  | .publish (some failure), .publishing .. => some (state.failTick intervals failure)
  | .record, .recording view reading changed =>
    some (state.publishedTick intervals build view reading changed)
  | .retract none, .retracting => some { state with phase := .forgetting, disk := none }
  | .retract (some failure), .retracting => some (state.failTick intervals failure)
  | .forget, .forgetting => some (state.retractedTick intervals)
  | .timeout, .waiting deadline =>
    if deadline ≤ state.clock then some { state with phase := .waking } else none
  | .woken, .waiting _ =>
    if state.wake || state.stopping then some { state with phase := .waking } else none
  | .resume, .waking => some (loopHead { state with wake := false })
  | .devices present, _ => some { state with devicesPresent := present }
  | .change view, _ => some { state with view := view }
  | .elapse duration, _ => some { state with clock := state.clock + duration }
  | .stop, _ => some { state with stopping := true }
  | _, _ => none

/-! ### What a reader is promised -/

/-- The disk says what a tick found, or the same in other words. -/
def Tells : TickOutcome View Reading → Option (Dict String Value) → Prop
  | .present view reading, disk => ∃ document, disk = some document ∧
      (document = build view reading ∨
        equalDicts (contentOf (build view reading)) (contentOf document) = true)
  | .absent, disk => disk = none

/-- Whatever tick ended without error last, the disk says what it found. -/
def Truthful (state : SnapshotPublishLoop View Reading Value) : Prop :=
  ∀ outcome, state.ended = some outcome → Tells build outcome state.disk

end SnapshotPublishLoop

end Omnitensor
