/-
This file models one attempt of a job: its stages in their order, each entered after the policy gate
and the cancellation token were asked, and each guarded by the token while it runs.

A stage is a task of its own. What it does is not modelled: it ends with whatever it ends with, and
the delivery stage may perform its side effect before. The guard waits for the task or for the token;
before it lets go, it stops watching the token and waits for a task that it has to cancel. A
cancellation of the attempt reaches it at whatever it waits for: where that is the end of the
watching, the task is left to itself.

The log of an attempt is kept beside it: which checks a stage passed, and which stage has run.
-/

import Omnitensor.PluginFlow

namespace Omnitensor

namespace Pipeline

/-! ### Stages and results -/

/-- Ordered stages; terminal status lives in the single plugin result. -/
inductive PipelineStage where
  | queued
  | collect
  | preprocess
  | resolve
  | infer
  | postprocess
  | deliver
  | terminal
  deriving DecidableEq

def PipelineStage.word : PipelineStage → String
  | queued => "queued"
  | collect => "collect"
  | preprocess => "preprocess"
  | resolve => "resolve"
  | infer => "infer"
  | postprocess => "postprocess"
  | deliver => "deliver"
  | terminal => "terminal"

/-- The stage order the state machine enforces. -/
def stageOrder : List PipelineStage :=
  [.collect, .preprocess, .resolve, .infer, .postprocess, .deliver]

/-- What a stage returns, by its type; only what is delivered is looked into. -/
inductive StageOutput (Output : Type) where
  | collected
  | preprocessed
  | resolved
  | inferred
  | postprocessed
  | delivered (output : Output) (detail : String)
  deriving DecidableEq

def StageOutput.typeName {Output : Type} : StageOutput Output → String
  | collected => "CollectedOutput"
  | preprocessed => "PreprocessedOutput"
  | resolved => "ResolvedOutput"
  | inferred => "InferenceOutput"
  | postprocessed => "PostprocessedOutput"
  | delivered _ _ => "DeliveredOutput"

inductive PluginResultStatus where
  | succeeded
  | cancelled
  | failed
  deriving DecidableEq

/-- One terminal result of a job. A job that delivered nothing has no output. -/
structure PluginResult (Output : Type) where
  jobId : String
  status : PluginResultStatus
  output : Option Output
  detail : String
  completedAtMs : Nat
  deriving DecidableEq

/-! ### The state machine -/

/-- Stable state-transition rejection. -/
structure PipelineTransitionError where
  code : String
  detail : String

def PipelineTransitionError.text (error : PipelineTransitionError) : String :=
  error.code ++ ": " ++ error.detail

def maxJobIdChars : Nat := 128

/-- Ordered stage outputs, and exactly one terminal result. -/
structure PipelineStateMachine (Output : Type) where
  jobId : String
  stage : PipelineStage
  revision : Nat
  lastOutput : Option (StageOutput Output)
  terminalResult : Option (PluginResult Output)

namespace PipelineStateMachine

variable {Output : Type}

/-- A machine for a job, or why there is none. -/
def new (jobId : String) : Except String (PipelineStateMachine Output) :=
  if jobId = "" ∨ maxJobIdChars < jobId.length then
    .error ("ValueError: job_id must contain 1-" ++ toString maxJobIdChars ++ " characters")
  else .ok ⟨jobId, .queued, 0, none, none⟩

/-- Move a new job to collection; repeated starts are rejected. -/
def start (machine : PipelineStateMachine Output) :
    Except PipelineTransitionError (PipelineStateMachine Output) :=
  if machine.stage ≠ .queued then
    .error ⟨"already-started", "job is already at " ++ machine.stage.word⟩
  else .ok { machine with stage := .collect, revision := machine.revision + 1 }

/-- The type that a stage requires, and the stage after it. -/
def transition : PipelineStage → Option (String × PipelineStage)
  | .queued => none
  | .collect => some ("CollectedOutput", .preprocess)
  | .preprocess => some ("PreprocessedOutput", .resolve)
  | .resolve => some ("ResolvedOutput", .infer)
  | .infer => some ("InferenceOutput", .postprocess)
  | .postprocess => some ("PostprocessedOutput", .deliver)
  | .deliver => some ("DeliveredOutput", .terminal)
  | .terminal => none

/-- Publish a result, unless there is one. -/
def finish (machine : PipelineStateMachine Output) (status : PluginResultStatus)
    (output : Option Output) (detail : String) (completedAtMs : Nat) :
    PipelineStateMachine Output :=
  if machine.terminalResult.isSome then machine
  else { machine with
    terminalResult := some ⟨machine.jobId, status, output, detail, completedAtMs⟩
    stage := .terminal
    revision := machine.revision + 1 }

/-- Publish one failed result. -/
def fail (machine : PipelineStateMachine Output) (detail : String) (completedAtMs : Nat) :
    PipelineStateMachine Output :=
  machine.finish .failed none detail completedAtMs

/-- Publish one cancelled result. -/
def cancel (machine : PipelineStateMachine Output) (detail : String) (completedAtMs : Nat) :
    PipelineStateMachine Output :=
  machine.finish .cancelled none detail completedAtMs

/-- Accept only the output type belonging to the current stage. -/
def advance (machine : PipelineStateMachine Output) (output : StageOutput Output)
    (completedAtMs : Nat) : Except PipelineTransitionError (PipelineStateMachine Output) :=
  match transition machine.stage with
  | none => .error ⟨"stage-not-runnable", "cannot advance from " ++ machine.stage.word⟩
  | some (expectedType, nextStage) =>
    if output.typeName ≠ expectedType then
      .error ⟨"stage-output-mismatch", machine.stage.word ++ " requires " ++ expectedType ++
        "; received " ++ output.typeName⟩
    else
      let machine := { machine with lastOutput := some output }
      match nextStage, output with
      | .terminal, .delivered output detail =>
        .ok (machine.finish .succeeded (some output) detail completedAtMs)
      | nextStage, _ => .ok { machine with stage := nextStage, revision := machine.revision + 1 }

end PipelineStateMachine

/-! ### Attempts -/

/-- What a stage raises. -/
inductive StageError where
  | jobCancelled (detail : String)
  | policyRefused (detail : String)
  | exception (name message : String)
  | cancelled
  deriving DecidableEq

/-- The task of a stage. -/
structure StageTask (Output : Type) where
  stage : PipelineStage
  outcome : Option (Except StageError (StageOutput Output))
  /-- The side effect of the delivery was performed. -/
  delivered : Bool

/-- Where the guard of a stage is. -/
inductive StageGuard (Output : Type) where
  /-- It waits for the task or the token. -/
  | waiting
  /-- The token was cancelled: it waits for the task that it cancelled. -/
  | cancelling
  /-- It waits for the end of the watching, and then leaves so. -/
  | unwatching (exit : Except StageError (StageOutput Output))
  /-- It waits for the task that it cancelled because of what it leaves with. -/
  | abandoning (exit : Except StageError (StageOutput Output))

/-- Where an attempt is. -/
inductive StagePhase (Output : Type) where
  | created
  /-- It guards a stage, and there are these after it. -/
  | guarding (machine : PipelineStateMachine Output) (rest : List PipelineStage)
    (guard : StageGuard Output)
  | done (outcome : Except (FlowError String) (Option (PluginResult Output)))

/-- What is noted of a stage. -/
inductive StageNote where
  | admitted (stage : PipelineStage)
  | uncancelled (stage : PipelineStage)
  | ran (stage : PipelineStage)
  deriving DecidableEq

/-- An attempt of a job. -/
structure StageRun (Output : Type) where
  jobId : String
  /-- The call whose token it watches. -/
  call : Nat
  phase : StagePhase Output
  task : Option (StageTask Output)
  cancelRequested : Bool
  log : List StageNote

/-- What can happen to an attempt: it goes on, with what the gate answers for each stage and what the
token says; its stage delivers; its stage ends. -/
inductive StageEvent (Output : Type) where
  | resume (refusals : PipelineStage → Option String) (token : Option String) (nowMs : Nat)
  | deliver
  | finish (outcome : Except StageError (StageOutput Output))

namespace StageRun

variable {Output : Type}

/-- A run that has not been scheduled. -/
def new (jobId : String) (call : Nat) : StageRun Output :=
  ⟨jobId, call, .created, none, false, []⟩

def note (run : StageRun Output) (entry : StageNote) : StageRun Output :=
  { run with log := run.log ++ [entry] }

/-- The attempt returns what its machine has published. -/
def returned (run : StageRun Output) (machine : PipelineStateMachine Output) : StageRun Output :=
  { run with phase := .done (.ok machine.terminalResult) }

/-- Enter the first of these stages, if the gate and the token let it. -/
def enter (refusals : PipelineStage → Option String) (token : Option String) (nowMs : Nat)
    (machine : PipelineStateMachine Output) (stages : List PipelineStage) (run : StageRun Output) :
    StageRun Output :=
  match stages with
  | [] => run.returned machine
  | stage :: rest =>
    match refusals stage, token with
    | some detail, _ => run.returned (machine.cancel detail nowMs)
    | none, some detail =>
      (run.note (.admitted stage)).returned (machine.cancel detail nowMs)
    | none, none =>
      { (run.note (.admitted stage)).note (.uncancelled stage) with
        phase := .guarding machine rest .waiting
        task := some ⟨stage, none, false⟩ }

/-- The guard of a stage lets go: the attempt ends, or enters the next stage. -/
def leave (refusals : PipelineStage → Option String) (token : Option String) (nowMs : Nat)
    (machine : PipelineStateMachine Output) (rest : List PipelineStage)
    (exit : Except StageError (StageOutput Output)) (run : StageRun Output) : StageRun Output :=
  match exit with
  | .error .cancelled => { run with phase := .done (.error .cancelled) }
  | .error (.jobCancelled detail) => run.returned (machine.cancel detail nowMs)
  | .error (.policyRefused detail) => run.returned (machine.cancel detail nowMs)
  | .error (.exception name message) =>
    run.returned (machine.fail (name ++ ": " ++ message) nowMs)
  | .ok output =>
    match machine.advance output nowMs with
    | .error error =>
      run.returned (machine.fail ("PipelineTransitionError: " ++ error.text) nowMs)
    | .ok next =>
      (run.note (.ran machine.stage)).enter refusals token nowMs next rest

/-- The first step of an attempt. -/
def begin (refusals : PipelineStage → Option String) (token : Option String) (nowMs : Nat)
    (run : StageRun Output) : StageRun Output :=
  match PipelineStateMachine.new run.jobId with
  | .error invalid => { run with phase := .done (.error (.raised invalid)) }
  | .ok machine =>
    match machine.start with
    | .error error =>
      run.returned (machine.fail ("PipelineTransitionError: " ++ error.text) nowMs)
    | .ok machine => run.enter refusals token nowMs machine stageOrder

/-- An attempt goes on, if it can. A cancellation that was requested reaches it first. -/
def resume (refusals : PipelineStage → Option String) (token : Option String) (nowMs : Nat)
    (run : StageRun Output) : Option (StageRun Output) :=
  match run.phase with
  | .created =>
    if run.cancelRequested then some { run with phase := .done (.error .cancelled) }
    else some (run.begin refusals token nowMs)
  | .done _ => none
  | .guarding machine rest guard => do
    let task ← run.task
    let move := fun guard : StageGuard Output =>
      { run with cancelRequested := false, phase := .guarding machine rest guard }
    match guard, run.cancelRequested, task.outcome with
    | .waiting, true, _ => some (move (.unwatching (.error .cancelled)))
    | .waiting, false, some outcome => some (move (.unwatching outcome))
    | .waiting, false, none => token.map fun _ => move .cancelling
    | .cancelling, _, none => none
    | .cancelling, true, some _ => some (move (.unwatching (.error .cancelled)))
    | .cancelling, false, some _ =>
      some (move (.unwatching (.error (.jobCancelled (token.getD "")))))
    | .unwatching _, true, _ => some { run with phase := .done (.error .cancelled) }
    | .unwatching exit, false, some _ => some (run.leave refusals token nowMs machine rest exit)
    | .unwatching exit, false, none => some (move (.abandoning exit))
    | .abandoning _, _, none => none
    | .abandoning _, true, some _ => some { run with phase := .done (.error .cancelled) }
    | .abandoning exit, false, some _ => some (run.leave refusals token nowMs machine rest exit)

/-- The task of a stage goes on, as long as it has not ended. -/
def onTask (run : StageRun Output) (change : StageTask Output → Option (StageTask Output)) :
    Option (StageRun Output) := do
  let task ← run.task
  if task.outcome.isSome then none
  else
    let next ← change task
    return { run with task := some next }

/-- One event of a run, if it can happen. -/
def step (run : StageRun Output) : StageEvent Output → Option (StageRun Output)
  | .resume refusals token nowMs => run.resume refusals token nowMs
  | .deliver => run.onTask fun task =>
      if task.stage = .deliver ∧ task.delivered = false then some { task with delivered := true }
      else none
  | .finish outcome => run.onTask fun task => some { task with outcome := some outcome }

/-- How an attempt has ended, if it has. -/
def outcome (run : StageRun Output) :
    Option (Except (FlowError String) (Option (PluginResult Output))) :=
  match run.phase with
  | .done outcome => some outcome
  | _ => none

variable {run next : StageRun Output}
  {ended : Except (FlowError String) (Option (PluginResult Output))}

theorem phase_of_outcome (ends : run.outcome = some ended) : run.phase = .done ended := by
  rw [outcome] at ends
  split at ends
  · rename_i phase
    rw [phase, Option.some.inj ends]
  · cases ends

theorem onTask_cases {change : StageTask Output → Option (StageTask Output)}
    (changes : run.onTask change = some next) :
    ∃ task changed, run.task = some task ∧ task.outcome = none ∧ change task = some changed ∧
      next = { run with task := some changed } := by
  obtain ⟨task, stored, changes⟩ := Option.bind_eq_some_iff.mp changes
  split at changes
  · cases changes
  · rename_i open_
    obtain ⟨changed, same, changes⟩ := Option.bind_eq_some_iff.mp changes
    exact ⟨task, changed, stored, by simpa using open_, same, (Option.some.inj changes).symm⟩

/-- An attempt that has ended stays so. -/
theorem outcome_step {event : StageEvent Output} (ends : run.outcome = some ended)
    (steps : run.step event = some next) : next.outcome = some ended := by
  have phase := phase_of_outcome ends
  cases event with
  | resume refusals token nowMs =>
    simp only [step, resume, phase] at steps
    cases steps
  | deliver =>
    obtain ⟨_, _, _, _, _, rfl⟩ := onTask_cases steps
    exact ends
  | finish outcome =>
    obtain ⟨_, _, _, _, _, rfl⟩ := onTask_cases steps
    exact ends

end StageRun

/-- The attempts of a job as what a controller runs. -/
def stages (Output : Type) :
    Operation (StageRun Output) (StageEvent Output) (Option (PluginResult Output)) String where
  step := StageRun.step
  cancel run := { run with cancelRequested := true }
  outcome := StageRun.outcome
  outcome_step := StageRun.outcome_step
  outcome_cancel := id

end Pipeline

end Omnitensor
