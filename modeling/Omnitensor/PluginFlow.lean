/-
This file models the flow control of one plugin.

A submission that is accepted leads: it runs attempts of its operation, one after the other, until
one of them ends before the deadline. A submission of a key that is in flight joins the one that
leads, and waits for the future that this settles; a key that was answered is answered again from
what is retained. Any number of submissions may wait at a time; each goes on in turn, and whoever
waits for one may interrupt it.

What an operation does is a parameter: it takes steps of its own until it has ended, also after it
was cancelled. Deadlines pass whenever they do. An operation whose call raises is one that has ended
when it starts. Time is what the clock reads when a submission looks at it.
-/

import Omnitensor.Dict
import Omnitensor.Table
import Omnitensor.Machine

namespace Omnitensor

/-! ### Operations -/

/-- Why a submission was not accepted. -/
inductive FlowRefusal where
  | backpressure
  | deadline
  | retriesExhausted
  | invalidKey
  | primaryCancelled
  deriving DecidableEq

def FlowRefusal.word : FlowRefusal → String
  | backpressure => "plugin-backpressure"
  | deadline => "deadline-exceeded"
  | retriesExhausted => "retries-exhausted"
  | invalidKey => "idempotency-key-invalid"
  | primaryCancelled => "primary-cancelled"

/-- What an operation or a submission raises. -/
inductive FlowError (Failure : Type) where
  | refused (refusal : FlowRefusal) (detail : String)
  | cancelled
  | timeout
  | raised (failure : Failure)
  deriving DecidableEq

/-- What a submission can run: states, how it goes on and takes a cancellation, and how it has ended.
One that has ended stays so. -/
structure Operation (State Event Value Failure : Type) where
  step : State → Event → Option State
  cancel : State → State
  outcome : State → Option (Except (FlowError Failure) Value)
  outcome_step : ∀ {state next : State} {event : Event} {ended : Except (FlowError Failure) Value},
    outcome state = some ended → step state event = some next → outcome next = some ended
  outcome_cancel : ∀ {state : State} {ended : Except (FlowError Failure) Value},
    outcome state = some ended → outcome (cancel state) = some ended

/-- One state of an operation is reached from another. -/
inductive Operation.Descends {State Event Value Failure : Type}
    (operation : Operation State Event Value Failure) (state : State) : State → Prop
  | refl : operation.Descends state state
  | step {middle next : State} {event : Event} (before : operation.Descends state middle)
      (steps : operation.step middle event = some next) : operation.Descends state next
  | cancel {middle : State} (before : operation.Descends state middle) :
      operation.Descends state (operation.cancel middle)

theorem Operation.Descends.outcome {State Event Value Failure : Type}
    {operation : Operation State Event Value Failure} {state next : State}
    {ended : Except (FlowError Failure) Value} (descends : operation.Descends state next)
    (ends : operation.outcome state = some ended) : operation.outcome next = some ended := by
  induction descends with
  | refl => exact ends
  | step _ steps inductionHypothesis => exact operation.outcome_step inductionHypothesis steps
  | cancel _ inductionHypothesis => exact operation.outcome_cancel inductionHypothesis

theorem Operation.Descends.outcome_eq_none {State Event Value Failure : Type}
    {operation : Operation State Event Value Failure} {state next : State}
    (descends : operation.Descends state next) (runs : operation.outcome next = none) :
    operation.outcome state = none := by
  by_contra some
  obtain ⟨ended, ends⟩ := Option.ne_none_iff_exists'.mp some
  cases (descends.outcome ends).symm.trans runs

theorem Operation.Descends.trans {State Event Value Failure : Type}
    {operation : Operation State Event Value Failure} {state middle next : State}
    (first : operation.Descends state middle) (second : operation.Descends middle next) :
    operation.Descends state next := by
  induction second with
  | refl => exact first
  | step _ steps inductionHypothesis => exact .step inductionHypothesis steps
  | cancel _ inductionHypothesis => exact .cancel inductionHypothesis

/-- The bounds of a controller. -/
structure FlowSettings where
  pluginId : String
  maxInFlight : Nat
  /-- The deadline, as it is written in a refusal. -/
  deadlineSeconds : String
  maxRetries : Nat
  resultRetention : Nat
  resultTtlSeconds : Rat
  maxInFlight_pos : 0 < maxInFlight
  resultRetention_pos : 0 < resultRetention

def maxIdempotencyKeyChars : Nat := 120

/-! ### States -/

/-- What a submission is to its key. -/
inductive FlowPart where
  | leads
  | joins (primary : Nat)
  | replays
  | refused
  deriving DecidableEq

/-- Where a submission is. -/
inductive FlowPhase (Value Failure : Type) where
  /-- It waits for an attempt, the so-manieth of its operation. -/
  | waiting (attempt number : Nat)
  /-- It has cancelled the attempt, and waits for it to end. -/
  | stopping (attempt number : Nat)
  /-- It waits for the future of the submission that it joined. -/
  | joined
  | ended (outcome : Except (FlowError Failure) Value)
  deriving DecidableEq

/-- A submission, from its first step. -/
structure FlowSubmission (State Value Failure : Type) where
  key : String
  /-- What an attempt of its operation starts as. -/
  initial : State
  part : FlowPart
  /-- Whether something was reported since this was last asked, if it can be. -/
  heartbeat : Option Bool
  interrupted : Bool
  future : Option (Except (FlowError Failure) Value)
  phase : FlowPhase Value Failure

/-- An attempt of an operation, for a submission. -/
structure FlowAttempt (State : Type) where
  caller : Nat
  state : State

/-- A controller with all the submissions that it ever had, and their attempts. -/
structure PluginFlowController (State Value Failure : Type) where
  submissions : List (FlowSubmission State Value Failure)
  attempts : List (FlowAttempt State)
  /-- The keys in flight, with the submissions that lead. -/
  inFlight : Dict String Nat
  /-- The results that are retained, with when they were, from the one used least recently. -/
  completed : Dict String (Rat × Value)
  accepted : Nat
  coalesced : Nat
  replayed : Nat
  dropped : Nat
  retried : Nat
  failed : Nat

/-- What can happen next. -/
inductive FlowAction (State Event : Type) where
  | submit (key : String) (initial : State) (heartbeat : Bool) (now : Rat)
  | interrupt (index : Nat)
  | beat (index : Nat)
  | advance (attempt : Nat) (event : Event)
  /-- A submission goes on, after what it waits for has ended, its deadline has passed or it was
  interrupted. -/
  | resume (index : Nat) (now : Rat)

namespace PluginFlowController

variable {State Event Value Failure : Type}

def empty : PluginFlowController State Value Failure where
  submissions := []
  attempts := []
  inFlight := Dict.empty
  completed := Dict.empty
  accepted := 0
  coalesced := 0
  replayed := 0
  dropped := 0
  retried := 0
  failed := 0

/-! ### Submitting -/

/-- What a coalesced caller should see when the primary submission ends. -/
def coalescedFailure (settings : FlowSettings) : FlowError Failure → FlowError Failure
  | .cancelled => .refused .primaryCancelled
      (settings.pluginId ++ " cancelled the submission this call was waiting on")
  | error => error

/-- What is retained of a key, if it is not too old, and what is retained after it was looked for. -/
def retained (settings : FlowSettings) (completed : Dict String (Rat × Value)) (key : String)
    (now : Rat) : Option Value × Dict String (Rat × Value) :=
  match completed.get? key with
  | none => (none, completed)
  | some (storedAt, result) =>
    if settings.resultTtlSeconds < now - storedAt then (none, completed.erase key)
    else (some result, (completed.erase key).set key (storedAt, result))

/-- Without the first entries of a dictionary, so that no more than so many are left. -/
def popOldest (bound : Nat) (completed : Dict String (Rat × Value)) : Dict String (Rat × Value) where
  entries := completed.entries.drop (completed.size - bound)
  nodup := completed.nodup.sublist ((List.drop_sublist _ _).map Prod.fst)

/-- What is retained after a result. -/
def retain (settings : FlowSettings) (completed : Dict String (Rat × Value)) (key : String)
    (result : Value) (now : Rat) : Dict String (Rat × Value) :=
  popOldest settings.resultRetention ((completed.erase key).set key (now, result))

/-- The controller with one more submission. -/
def add (flow : PluginFlowController State Value Failure) (key : String) (initial : State)
    (heartbeat : Bool) (part : FlowPart) (phase : FlowPhase Value Failure) :
    PluginFlowController State Value Failure :=
  { flow with submissions := flow.submissions ++ [{
      key, initial, part, heartbeat := if heartbeat then some false else none, interrupted := false,
      future := none, phase }] }

/-- The controller with an attempt that starts. -/
def begin (flow : PluginFlowController State Value Failure) (caller : Nat) (initial : State) :
    PluginFlowController State Value Failure :=
  { flow with attempts := flow.attempts ++ [{ caller, state := initial }] }

/-- A submission, until it first waits. -/
def submit (settings : FlowSettings) (key : String) (initial : State) (heartbeat : Bool) (now : Rat)
    (flow : PluginFlowController State Value Failure) : PluginFlowController State Value Failure :=
  if key.length < 1 ∨ maxIdempotencyKeyChars < key.length then
    flow.add key initial heartbeat .refused (.ended (.error (.refused .invalidKey
      ("idempotency key must contain 1-" ++ toString maxIdempotencyKeyChars ++ " characters"))))
  else
    let (found, completed) := retained settings flow.completed key now
    let flow := { flow with completed := completed }
    match found with
    | some result =>
      { flow with replayed := flow.replayed + 1 }.add key initial heartbeat .replays
        (.ended (.ok result))
    | none =>
      match flow.inFlight.get? key with
      | some primary =>
        { flow with coalesced := flow.coalesced + 1 }.add key initial heartbeat (.joins primary)
          .joined
      | none =>
        if settings.maxInFlight ≤ flow.inFlight.size then
          { flow with dropped := flow.dropped + 1 }.add key initial heartbeat .refused
            (.ended (.error (.refused .backpressure (settings.pluginId ++ " already has " ++
              toString settings.maxInFlight ++ " operations in flight"))))
        else
          let index := flow.submissions.length
          let started := { flow with
            inFlight := flow.inFlight.set key index
            accepted := flow.accepted + 1 }.begin index initial
          started.add key initial heartbeat .leads (.waiting flow.attempts.length 1)

/-! ### Going on -/

def setSubmission (flow : PluginFlowController State Value Failure) (index : Nat)
    (submission : FlowSubmission State Value Failure) : PluginFlowController State Value Failure :=
  { flow with submissions := flow.submissions.set index submission }

/-- Tell an attempt that it is cancelled. -/
def cancelAttempt (operation : Operation State Event Value Failure) (attempt : Nat)
    (flow : PluginFlowController State Value Failure) : PluginFlowController State Value Failure :=
  { flow with attempts := flow.attempts.modify attempt fun attempt =>
      { attempt with state := operation.cancel attempt.state } }

/-- A submission that leads ends: it settles its future and retains its result, and its key is no
longer in flight. -/
def conclude (settings : FlowSettings) (index : Nat)
    (submission : FlowSubmission State Value Failure) (outcome : Except (FlowError Failure) Value)
    (now : Rat) (flow : PluginFlowController State Value Failure) :
    PluginFlowController State Value Failure :=
  let shared := outcome.mapError (coalescedFailure settings)
  let flow := flow.setSubmission index
    { submission with future := some (submission.future.getD shared), phase := .ended outcome }
  let flow :=
    match outcome with
    | .ok result =>
      { flow with completed := retain settings flow.completed submission.key result now }
    | .error _ => flow
  { flow with inFlight := flow.inFlight.erase submission.key }

section

variable (settings : FlowSettings) (index : Nat) (submission : FlowSubmission State Value Failure)
  (outcome : Except (FlowError Failure) Value) (now : Rat)
  (flow : PluginFlowController State Value Failure)

theorem submissions_conclude : (flow.conclude settings index submission outcome now).submissions =
    flow.submissions.set index { submission with
      future := some (submission.future.getD (outcome.mapError (coalescedFailure settings)))
      phase := .ended outcome } := by
  cases outcome <;> rfl

theorem attempts_conclude : (flow.conclude settings index submission outcome now).attempts =
    flow.attempts := by
  cases outcome <;> rfl

theorem inFlight_conclude : (flow.conclude settings index submission outcome now).inFlight =
    flow.inFlight.erase submission.key := by
  cases outcome <;> rfl

end

/-- After an attempt was silent: another one, or none if there were enough. -/
def retry (settings : FlowSettings) (index : Nat) (submission : FlowSubmission State Value Failure)
    (number : Nat) (now : Rat) (flow : PluginFlowController State Value Failure) :
    PluginFlowController State Value Failure :=
  if settings.maxRetries + 1 ≤ number then
    { flow with failed := flow.failed + 1 }.conclude settings index submission
      (.error (.refused .retriesExhausted (settings.pluginId ++ " reported nothing for " ++
        settings.deadlineSeconds ++ "s on " ++ toString (settings.maxRetries + 1) ++ " attempts")))
      now
  else
    let started := { flow with retried := flow.retried + 1 }.begin index submission.initial
    started.setSubmission index
      { submission with phase := .waiting flow.attempts.length (number + 1) }

/-- A submission goes on, if it can. -/
def resume (operation : Operation State Event Value Failure) (settings : FlowSettings) (index : Nat)
    (now : Rat) (flow : PluginFlowController State Value Failure) :
    Option (PluginFlowController State Value Failure) := do
  let submission ← flow.submissions[index]?
  match submission.phase with
  | .waiting attempt number =>
    let running ← flow.attempts[attempt]?
    match operation.outcome running.state, submission.interrupted with
    | some _, true => return flow.conclude settings index submission (.error .cancelled) now
    | none, true =>
      return (flow.cancelAttempt operation attempt).setSubmission index
        { submission with phase := .stopping attempt number }
    | some (.error .timeout), false => return flow.retry settings index submission number now
    | some outcome, false => return flow.conclude settings index submission outcome now
    | none, false =>
      if submission.heartbeat = some true then
        return flow.setSubmission index { submission with heartbeat := some false }
      else
        return (flow.cancelAttempt operation attempt).setSubmission index
          { submission with phase := .stopping attempt number }
  | .stopping attempt number =>
    let running ← flow.attempts[attempt]?
    match operation.outcome running.state, submission.interrupted with
    | none, _ => none
    | some _, true => return flow.conclude settings index submission (.error .cancelled) now
    | some _, false => return flow.retry settings index submission number now
  | .joined =>
    match submission.part, submission.interrupted with
    | .joins _, true =>
      return flow.setSubmission index { submission with phase := .ended (.error .cancelled) }
    | .joins primary, false =>
      let primary ← flow.submissions[primary]?
      let outcome ← primary.future
      return flow.setSubmission index { submission with phase := .ended outcome }
    | _, _ => none
  | .ended _ => none

/-- Whoever waits for a submission gives it up. One that waits for its attempt to end passes it on. -/
def interrupt (operation : Operation State Event Value Failure) (index : Nat)
    (flow : PluginFlowController State Value Failure) :
    Option (PluginFlowController State Value Failure) := do
  let submission ← flow.submissions[index]?
  let interrupted := flow.setSubmission index { submission with interrupted := true }
  match submission.phase with
  | .waiting _ _ | .joined => return interrupted
  | .stopping attempt _ => return interrupted.cancelAttempt operation attempt
  | .ended _ => none

/-- One action of a controller, if it can be taken. -/
def step (operation : Operation State Event Value Failure) (settings : FlowSettings)
    (flow : PluginFlowController State Value Failure) :
    FlowAction State Event → Option (PluginFlowController State Value Failure)
  | .submit key initial heartbeat now => some (flow.submit settings key initial heartbeat now)
  | .interrupt index => flow.interrupt operation index
  | .beat index => do
    let submission ← flow.submissions[index]?
    return flow.setSubmission index
      { submission with heartbeat := submission.heartbeat.map fun _ => true }
  | .advance attempt event => do
    let running ← flow.attempts[attempt]?
    let next ← operation.step running.state event
    return { flow with attempts := flow.attempts.set attempt { running with state := next } }
  | .resume index now => flow.resume operation settings index now

end PluginFlowController

end Omnitensor
