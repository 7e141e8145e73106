/-
This file models the runner of one plugin's jobs.

A call asks the policy gate, registers the job with a token that cancels it, and submits the attempts
of its stages under an idempotency key; when the submission ends, it takes the job out of the
register and returns a result, or raises. Any number of calls run at a time on one controller. A
call that joins the flight of another one, or is answered from what is retained, runs no stage of
its own, and its token is watched by none.

Beside the state stand two things that the runner does not keep: whether a cancellation came before
the delivery of the flight started, and the history of the flights and of the side effects that
deliveries had.
-/

import Omnitensor.PipelineStages
import Omnitensor.PluginFlowBooks

namespace Omnitensor

namespace Pipeline

/-! ### States -/

/-- The bounds of a runner. -/
structure RunnerSettings where
  flow : FlowSettings
  maxTrackedJobs : Nat

/-- What a call returns or raises. -/
abbrev RunOutcome (Output : Type) : Type :=
  Except (FlowError String) (Option (PluginResult Output))

/-- A call of `run`. -/
structure RunCall (Output : Type) where
  jobId : String
  key : String
  /-- Why the job was cancelled, if it was. -/
  token : Option String
  /-- It was cancelled before its delivery started. -/
  early : Bool
  submission : Option Nat
  ended : Option (RunOutcome Output)
  deriving DecidableEq

/-- What happens to a key. -/
inductive FlightNote where
  | accepted (key : String)
  | delivered (key : String)
  deriving DecidableEq

/-- A runner with all the calls it ever had. -/
structure PipelineRunner (Output : Type) where
  flow : PluginFlowController (StageRun Output) (Option (PluginResult Output)) String
  calls : List (RunCall Output)
  /-- The jobs that are registered, with their calls. -/
  tokens : Dict String Nat
  /-- What happened, newest first. -/
  history : List FlightNote

/-- What can happen next. -/
inductive RunnerAction (Output : Type) where
  | run (jobId idempotencyKey : String) (refusal : Option String) (now : Rat) (nowMs : Nat)
  | interrupt (index : Nat)
  | beat (index : Nat)
  /-- A call goes on. -/
  | resume (index : Nat) (now : Rat) (nowMs : Nat)
  /-- An attempt goes on, with what the gate answers. -/
  | advance (attempt : Nat) (refusals : PipelineStage → Option String) (nowMs : Nat)
  | deliver (attempt : Nat)
  | finish (attempt : Nat) (outcome : Except StageError (StageOutput Output))
  | cancel (jobId detail : String)

namespace PipelineRunner

variable {Output : Type}

def empty : PipelineRunner Output := ⟨PluginFlowController.empty, [], Dict.empty, []⟩

/-! ### Calls -/

/-- Policy is a refusal, not a fault, wherever it is noticed. -/
def refused (jobId detail : String) (nowMs : Nat) : RunOutcome Output :=
  match PipelineStateMachine.new jobId with
  | .error invalid => .error (.raised invalid)
  | .ok machine => .ok (machine.cancel detail nowMs).terminalResult

def failed (jobId code detail : String) (nowMs : Nat) : RunOutcome Output :=
  match PipelineStateMachine.new jobId with
  | .error invalid => .error (.raised invalid)
  | .ok machine => .ok (machine.fail (code ++ ": " ++ detail) nowMs).terminalResult

/-- What a call makes of how its submission ended. -/
def endOf (jobId : String) (nowMs : Nat) : RunOutcome Output → RunOutcome Output
  | .ok result => .ok result
  | .error (.refused refusal detail) => failed jobId refusal.word detail nowMs
  | .error error => .error error

/-- Why a job cannot be registered, if it cannot. -/
def trackError (settings : RunnerSettings) (tokens : Dict String Nat) (jobId : String) :
    Option String :=
  if jobId = "" then some "ValueError: job_id must be a non-empty string"
  else if tokens.contains jobId then some ("ValueError: job is already tracked: " ++ jobId)
  else if settings.maxTrackedJobs ≤ tokens.size then
    some ("ValueError: at most " ++ toString settings.maxTrackedJobs ++ " jobs may be tracked")
  else none

/-- Whether a submission has ended. -/
def outcomeOf (flow : PluginFlowController (StageRun Output) (Option (PluginResult Output)) String)
    (submission : Nat) : Option (RunOutcome Output) := do
  let submission ← flow.submissions[submission]?
  match submission.phase with
  | .ended outcome => some outcome
  | _ => none

/-- A call ends as soon as its submission has, and its job is registered no longer. -/
def settle (index : Nat) (nowMs : Nat) (runner : PipelineRunner Output) : PipelineRunner Output :=
  match runner.calls[index]? with
  | none => runner
  | some call =>
    match call.submission.bind (outcomeOf runner.flow) with
    | none => runner
    | some outcome =>
      let ended := { call with ended := some (endOf call.jobId nowMs outcome) }
      { runner with
        calls := runner.calls.set index ended
        tokens := runner.tokens.erase call.jobId }

def add (call : RunCall Output) (runner : PipelineRunner Output) : PipelineRunner Output :=
  { runner with calls := runner.calls ++ [call] }

/-- A call, until it first waits. -/
def run (settings : RunnerSettings) (jobId idempotencyKey : String) (refusal : Option String)
    (now : Rat) (nowMs : Nat) (runner : PipelineRunner Output) : PipelineRunner Output :=
  let key := if idempotencyKey = "" then jobId else idempotencyKey
  let index := runner.calls.length
  let call : RunCall Output := ⟨jobId, key, none, false, none, none⟩
  match refusal, trackError settings runner.tokens jobId with
  | some detail, _ =>
    runner.add { call with ended := some (refused jobId detail nowMs) }
  | none, some invalid =>
    runner.add { call with ended := some (.error (.raised invalid)) }
  | none, none =>
    let submission := runner.flow.submissions.length
    let flow := runner.flow.submit settings.flow key (StageRun.new jobId index) true now
    let leads := (flow.submissions[submission]?).any fun added => decide (added.part = .leads)
    let added := runner.add { call with submission := some submission }
    let submitted : PipelineRunner Output := { added with
      flow
      tokens := runner.tokens.set jobId index
      history := if leads then .accepted key :: runner.history else runner.history }
    submitted.settle index nowMs

/-! ### Cancelling -/

/-- The submission that leads the flight of another one. -/
def flightOf (flow : PluginFlowController (StageRun Output) (Option (PluginResult Output)) String)
    (submission : Nat) : Nat :=
  match (flow.submissions[submission]?).map FlowSubmission.part with
  | some (.joins primary) => primary
  | _ => submission

/-- An attempt has entered the delivery. -/
def delivering (attempt : FlowAttempt (StageRun Output)) : Bool :=
  attempt.state.task.any fun task => decide (task.stage = .deliver)

/-- The delivery of the flight of a submission has started. -/
def deliveryStarted
    (flow : PluginFlowController (StageRun Output) (Option (PluginResult Output)) String)
    (submission : Nat) : Bool :=
  flow.attempts.any fun attempt =>
    decide (attempt.caller = flightOf flow submission) && delivering attempt

/-- Withdraw a running job on behalf of its caller. -/
def cancel (jobId detail : String) (runner : PipelineRunner Output) : PipelineRunner Output :=
  match runner.tokens.get? jobId with
  | none => runner
  | some index =>
    match runner.calls[index]? with
    | none => runner
    | some call =>
      if call.token.isSome then runner
      else
        let started := call.submission.any (deliveryStarted runner.flow)
        let detail := if detail = "" then "caller-cancelled" else detail
        let cancelled := { call with token := some detail, early := !started }
        { runner with calls := runner.calls.set index cancelled }

/-! ### Steps -/

/-- The controller takes a step of an attempt. -/
def onAttempt (settings : RunnerSettings) (attempt : Nat) (event : StageEvent Output)
    (runner : PipelineRunner Output) : Option (PipelineRunner Output) := do
  let flow ← runner.flow.step (stages Output) settings.flow (.advance attempt event)
  return { runner with flow }

/-- One action of a runner, if it can be taken. -/
def step (settings : RunnerSettings) (runner : PipelineRunner Output) :
    RunnerAction Output → Option (PipelineRunner Output)
  | .run jobId idempotencyKey refusal now nowMs =>
    some (runner.run settings jobId idempotencyKey refusal now nowMs)
  | .interrupt index => do
    let call ← runner.calls[index]?
    let submission ← call.submission
    let flow ← runner.flow.step (stages Output) settings.flow (.interrupt submission)
    return { runner with flow }
  | .beat index => do
    let call ← runner.calls[index]?
    let submission ← call.submission
    let flow ← runner.flow.step (stages Output) settings.flow (.beat submission)
    return { runner with flow }
  | .resume index now nowMs => do
    let call ← runner.calls[index]?
    let submission ← call.submission
    let flow ← runner.flow.step (stages Output) settings.flow (.resume submission now)
    return { runner with flow }.settle index nowMs
  | .advance attempt refusals nowMs => do
    let running ← runner.flow.attempts[attempt]?
    let call ← runner.calls[running.state.call]?
    runner.onAttempt settings attempt (.resume refusals call.token nowMs)
  | .deliver attempt => do
    let running ← runner.flow.attempts[attempt]?
    let key ← runner.flow.keyOf running
    let next ← runner.onAttempt settings attempt .deliver
    return { next with history := .delivered key :: next.history }
  | .finish attempt outcome => runner.onAttempt settings attempt (.finish outcome)
  | .cancel jobId detail => some (runner.cancel jobId detail)

end PipelineRunner

end Pipeline

end Omnitensor
