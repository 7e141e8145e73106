/-
This file models the job submission service: admission, execution, cancellation and results.

A submission that is accepted mints an id, starts a task and enters it in the active table; the
task's completion callback files its outcome and takes the entry out. A submission whose
acceptance cannot be told to the caller is abandoned: its entry is taken out at once
and its task cancelled, but the task still completes later. All of it runs on one event loop, so an
operation is one step; what may happen between the steps is that tasks end, dispatchers
report progress, and callbacks run.

Host code answers each call it gets, or raises. What it answers is part of the step.
Whatever the payload and the workload mean is the dispatcher's and the observer's business.
-/

import Omnitensor.JobResultStore
import Omnitensor.Machine

namespace Omnitensor

/-! ### Tasks -/

/-- What a task returns: an object, or another value, which is filed inside one. -/
inductive TaskValue where
  | object (document : String)
  | other (document : String)
  deriving DecidableEq

/-- How a task ended. The text of an exception is what `str` gives, unless it raises; one that is
stable is shown without its class name. -/
inductive TaskOutcome where
  | succeeded (value : TaskValue)
  | cancelled
  | failed (stable : Bool) (className : String) (text : Option String)
  deriving DecidableEq

/-- A task, and what the closure of its callback and the caller know of it. -/
structure JobTask where
  jobId : String
  /-- Who submitted the job. The service looks the owner up in the active table instead. -/
  owner : String
  cancelRequested : Bool
  outcome : Option TaskOutcome
  /-- The completion callback has run. -/
  reported : Bool
  deriving DecidableEq

/-- An entry of the active table. -/
structure ActiveJob where
  workloadId : String
  task : Nat
  owner : String
  deriving DecidableEq

/-- The owner of callers without an identity, and the default one. -/
def anonymousOwner : String := "anonymous"

/-- The state of the service, with every task it ever started. -/
structure JobSubmissionService where
  maxActiveJobs : Nat
  accepting : Bool
  active : Dict String ActiveJob
  results : Option JobResultStore
  tasks : List JobTask
  deriving DecidableEq

/-! ### Replies -/

/-- The reply to a submission or a cancellation. -/
structure JobAcknowledgement where
  requestId : String
  jobId : Option String
  status : String
  code : String
  message : String
  timestamp : Int
  deriving DecidableEq

/-- The reply to a result request. -/
structure JobResultReply where
  requestId : String
  jobId : String
  state : String
  code : String
  message : String
  timestamp : Int
  progress : Option (Rat × String)
  output : Option JobOutput
  deriving DecidableEq

/-- What a host call that decides something answers. -/
inductive HostVerdict where
  | accepts
  | refuses (code message : String)
  | raises
  deriving DecidableEq

/-- A text that is refused before anything is looked up. -/
structure RequestError where
  requestId : String
  code : String
  message : String
  deriving DecidableEq

namespace JobSubmissionService

/-! ### Progress -/

/-- Progress outside [0, 1], or that is no finite number, is brought inside. -/
def clamped : Option Rat → Rat
  | none => 0
  | some fraction => min (max fraction 0) 1

/-- Record where a running job has got to, against its owner. A store that refuses is ignored. -/
def noteProgress (service : JobSubmissionService) (now : Rat) (timestamp : Int) (jobId stage : String)
    (fraction : Option Rat) (detail : String) : JobSubmissionService :=
  match service.active.get? jobId, service.results with
  | some active, some store =>
    match store.recordProgress now jobId active.owner
        ⟨stage, clamped fraction, detail, timestamp⟩ with
    | some recorded => { service with results := some recorded }
    | none => service
  | _, _ => service

/-! ### Submission -/

/-- A submission with what host code answers to it. -/
structure Submission where
  /-- The text, when it is refused as such. -/
  malformed : Option RequestError
  requestId : String
  workloadId : String
  owner : String
  authorized : HostVerdict
  /-- Without an admission check everything is admitted. -/
  admission : HostVerdict
  /-- The id the factory mints, unless it raises. -/
  mintedId : Option String
  dispatch : HostVerdict
  /-- The observer raises when it is told of the start. -/
  startRaises : Bool
  /-- The clock raises when the first progress is recorded. -/
  progressRaises : Bool
  /-- The reply cannot be made: the clock raises or the reply breaks its contract. -/
  replyRaises : Bool
  timestamp : Int
  now : Rat
  deriving DecidableEq

/-- A letter, a digit, a dot, an underscore or a hyphen. -/
def identifierChar (char : Char) : Bool :=
  ('0' ≤ char && char ≤ '9') || ('a' ≤ char && char ≤ 'z') || ('A' ≤ char && char ≤ 'Z') ||
    char == '.' || char == '_' || char == '-'

/-- An identifier of the wire contracts. -/
def validIdentifier (text : String) : Bool :=
  decide (1 ≤ text.length) && decide (text.length ≤ 120) && text.toList.all identifierChar

/-- How beginning a job ends: refused, failed or begun under an id. -/
inductive Begun where
  | refused (code message : String)
  | raised
  | begun (jobId : String)

/-- Mint an id, start the operation and register it, then notify. -/
def beginJob (service : JobSubmissionService) (submission : Submission) :
    JobSubmissionService × Begun :=
  match submission.mintedId with
  | none => (service, .raised)
  | some jobId =>
    if !validIdentifier jobId || service.active.contains jobId then (service, .raised)
    else
      match submission.dispatch with
      | .refuses code message => (service, .refused code message)
      | .raises => (service, .raised)
      | .accepts =>
        let registered :=
          { service with
            active := service.active.set jobId
              ⟨submission.workloadId, service.tasks.length, submission.owner⟩
            tasks := service.tasks ++ [⟨jobId, submission.owner, false, none, false⟩] }
        -- An observer that raises keeps the first progress from being recorded.
        if submission.startRaises || submission.progressRaises then (registered, .begun jobId)
        else
          (registered.noteProgress submission.now submission.timestamp jobId "queued" (some 0)
            "Job accepted and queued", .begun jobId)

/-- Ask a task to stop. -/
def cancelTask (tasks : List JobTask) (task : Nat) : List JobTask :=
  tasks.modify task fun row => { row with cancelRequested := true }

/-- Stop and deregister a job whose caller is being told it was rejected. -/
def abandonJob (service : JobSubmissionService) (jobId : String) : JobSubmissionService :=
  match service.active.get? jobId with
  | none => service
  | some active =>
    { service with
      active := service.active.erase jobId
      tasks := cancelTask service.tasks active.task }

/-- The acknowledgement of a submission. -/
def submissionReply (submission : Submission) (jobId : Option String)
    (status code message : String) : JobAcknowledgement :=
  ⟨submission.requestId, jobId, status, code, message, submission.timestamp⟩

/-- The reply to a submission whose handling raised. -/
def submissionFailed (submission : Submission) : JobAcknowledgement :=
  submissionReply submission none "rejected" "internal-error"
    "Internal error while submitting the job"

/-- A rejection made while the submission is handled, which may itself raise. -/
def submissionRejected (submission : Submission) (code message : String) : JobAcknowledgement :=
  if submission.replyRaises then submissionFailed submission
  else submissionReply submission none "rejected" code message

/-- Admit a submission and begin its job. -/
def submit (service : JobSubmissionService) (submission : Submission) :
    JobSubmissionService × JobAcknowledgement :=
  match submission.malformed with
  | some error =>
    (service, ⟨error.requestId, none, "rejected", error.code, error.message, submission.timestamp⟩)
  | none =>
    if !service.accepting then
      (service, submissionRejected submission "service-stopping"
        "The runtime is shutting down; the job was not started")
    else
      match submission.authorized with
      | .raises => (service, submissionFailed submission)
      | .refuses _ _ =>
        (service, submissionRejected submission "not-authorized"
          "Job submission is not authorized for this workload")
      | .accepts =>
        if service.maxActiveJobs ≤ service.active.size then
          (service, submissionRejected submission "capacity-exceeded"
            "Active job capacity is exhausted")
        else
          match submission.admission with
          | .raises => (service, submissionFailed submission)
          | .refuses code message =>
            (service, submissionReply submission none "rejected" code message)
          | .accepts =>
            match service.beginJob submission with
            | (began, .raised) => (began, submissionFailed submission)
            | (began, .refused code message) =>
              (began, submissionReply submission none "rejected" code message)
            | (began, .begun jobId) =>
              if submission.replyRaises then
                (began.abandonJob jobId, submissionFailed submission)
              else
                (began, submissionReply submission (some jobId) "accepted" "job-accepted"
                  "Job accepted")

/-! ### Cancellation -/

/-- A cancellation with what host code answers to it. -/
structure Cancellation where
  malformed : Option RequestError
  requestId : String
  jobId : String
  owner : String
  authorized : HostVerdict
  timestamp : Int
  deriving DecidableEq

/-- What a cancellation answers at once: a reply, or that it waits for a task. -/
inductive CancelReply where
  | acknowledged (acknowledgement : JobAcknowledgement)
  | waiting (task : Nat)
  deriving DecidableEq

/-- The acknowledgement of a cancellation. -/
def cancellationReply (cancellation : Cancellation) (status code message : String) :
    JobAcknowledgement :=
  ⟨cancellation.requestId, some cancellation.jobId, status, code, message, cancellation.timestamp⟩

/-- Ask a job of the caller to stop. A job of someone else is answered as one that never
existed. -/
def cancel (service : JobSubmissionService) (cancellation : Cancellation) :
    JobSubmissionService × CancelReply :=
  match cancellation.malformed with
  | some error =>
    (service, .acknowledged
      ⟨error.requestId, none, "rejected", error.code, error.message, cancellation.timestamp⟩)
  | none =>
    let notFound := CancelReply.acknowledged
      (cancellationReply cancellation "not-found" "job-not-found" "Active job was not found")
    match service.active.get? cancellation.jobId with
    | none => (service, notFound)
    | some active =>
      if active.owner ≠ cancellation.owner then (service, notFound)
      else
        match cancellation.authorized with
        | .raises =>
          (service, .acknowledged ⟨cancellation.requestId, none, "rejected", "internal-error",
            "Internal error while cancelling the job", cancellation.timestamp⟩)
        | .refuses _ _ =>
          (service, .acknowledged (cancellationReply cancellation "rejected" "not-authorized"
            "Job cancellation is not authorized for this workload"))
        | .accepts =>
          ({ service with tasks := cancelTask service.tasks active.task }, .waiting active.task)

/-! ### Completion -/

/-- What host code does while a completion is reported. -/
structure CompletionHost where
  /-- The observer raises when it is told of the end. -/
  finishRaises : Bool
  /-- The clock raises. -/
  clockRaises : Bool
  /-- The result store raises. -/
  storeRaises : Bool
  timestamp : Int
  now : Rat
  deriving DecidableEq

/-- How a job actually ended; describing an exception may raise. -/
def terminalStatus : TaskOutcome → Option (ResultStatus × String)
  | .cancelled => some (.cancelled, "Job cancelled")
  | .failed stable className text =>
    text.map fun text => (.failed, if stable then text else className ++ ": " ++ text)
  | .succeeded _ => some (.succeeded, "Job completed")

/-- The output that is filed: an object, and nothing for a job that did not succeed. -/
def resultOutput : TaskOutcome → JobOutput
  | .succeeded (.object document) => .object document
  | .succeeded (.other document) => .value document
  | _ => .empty

/-- Remember how a job ended. Nothing is returned when host code raises. -/
def recordOutcome (results : Option JobResultStore) (host : CompletionHost)
    (jobId owner : String) (outcome : TaskOutcome) : Option (Option JobResultStore) :=
  match terminalStatus outcome with
  | none => none
  | some (status, detail) =>
    if host.finishRaises then none
    else
      match results with
      | none => some none
      | some store =>
        if host.clockRaises || host.storeRaises then none
        else
          (store.recordResult host.now jobId owner
            ⟨status, resultOutput outcome, detail, host.timestamp⟩).map some

/-- The completion callback of a task. When recording the outcome raises, nothing after it is
done. -/
def jobCompleted (service : JobSubmissionService) (host : CompletionHost) (task : Nat)
    (jobId : String) (outcome : TaskOutcome) : JobSubmissionService :=
  let active := service.active.get? jobId
  let owner :=
    match active with
    | some active => active.owner
    | none => anonymousOwner
  match recordOutcome service.results host jobId owner outcome with
  | none => service
  | some results =>
    match active with
    | some active =>
      if active.task = task then
        { service with results := results, active := service.active.erase jobId }
      else { service with results := results }
    | none => { service with results := results }

/-! ### Results -/

/-- A result request. -/
structure ResultRequest where
  malformed : Option RequestError
  requestId : String
  jobId : String
  owner : String
  timestamp : Int
  now : Rat
  deriving DecidableEq

/-- The reply that carries no record. -/
def resultReply (requestId jobId state code message : String) (timestamp : Int) : JobResultReply :=
  ⟨requestId, jobId, state, code, message, timestamp, none, none⟩

/-- A status as the contract writes it. -/
def statusText : ResultStatus → String
  | .succeeded => "succeeded"
  | .cancelled => "cancelled"
  | .failed => "failed"

/-- Project a stored record into the published result contract. -/
def recordReply (requestId : String) (record : JobRecord) (timestamp : Int) : JobResultReply :=
  match record.result with
  | none =>
    match record.progress with
    | none =>
      ⟨requestId, record.jobId, "running", "job-running", "Job is still running", timestamp, none,
        none⟩
    | some progress =>
      ⟨requestId, record.jobId, "running", "job-running", progress.detail, timestamp,
        some (progress.fraction, progress.detail), none⟩
  | some result =>
    ⟨requestId, record.jobId, statusText result.status, "job-" ++ statusText result.status,
      if result.detail = "" then "Job finished" else result.detail, timestamp, none,
      some result.output⟩

/-- What is known of a job of the caller: its record, or that it runs. -/
def lookup (service : JobSubmissionService) (now : Rat) (jobId owner : String) :
    JobSubmissionService × Option JobRecord :=
  if jobId = "" then (service, none)
  else
    let (results, found) :=
      match service.results with
      | none => (none, none)
      | some store =>
        let (expired, found) := store.get now jobId owner
        (some expired, found)
    let looked := { service with results := results }
    match found with
    | some record => (looked, some record)
    | none =>
      match service.active.get? jobId with
      | none => (looked, none)
      | some active =>
        if active.owner ≠ owner then (looked, none) else (looked, some ⟨jobId, none, none, 0⟩)

/-- Report what is known about one job, to the caller that owns it. A reply the contract does not
accept is replaced where a record is at fault, and otherwise raises. -/
def jobResult (publishable : JobResultReply → Bool) (service : JobSubmissionService)
    (request : ResultRequest) : JobSubmissionService × Option JobResultReply :=
  let published := fun reply => if publishable reply then some reply else none
  match request.malformed with
  | some error =>
    (service, published (resultReply error.requestId "unknown" "unknown" error.code error.message
      request.timestamp))
  | none =>
    match service.lookup request.now request.jobId request.owner with
    | (looked, none) =>
      (looked, published (resultReply request.requestId request.jobId "unknown" "job-not-found"
        "No such job for this caller" request.timestamp))
    | (looked, some record) =>
      let reply := recordReply request.requestId record request.timestamp
      if publishable reply then (looked, some reply)
      else
        (looked, published (resultReply request.requestId request.jobId "failed"
          "job-result-invalid" "Stored job result is invalid" request.timestamp))

/-! ### The service -/

/-- The service before its first call. -/
def initial (maxActiveJobs : Nat) (results : Option JobResultStore) : JobSubmissionService where
  maxActiveJobs := maxActiveJobs
  accepting := true
  active := Dict.empty
  results := results
  tasks := []

/-- Something that happens to the service. -/
inductive Action where
  | submit (submission : Submission)
  | cancel (cancellation : Cancellation)
  | result (publishable : JobResultReply → Bool) (request : ResultRequest)
  /-- A dispatcher reports progress. -/
  | progress (now : Rat) (timestamp : Int) (jobId stage : String) (fraction : Option Rat)
      (detail : String)
  /-- A task ends. -/
  | settle (task : Nat) (outcome : TaskOutcome)
  /-- The completion callback of a task runs. -/
  | completed (task : Nat) (host : CompletionHost)
  | start
  | stop

/-- One step of the service. -/
def step (service : JobSubmissionService) : Action → Option JobSubmissionService
  | .submit submission => some (service.submit submission).1
  | .cancel cancellation => some (service.cancel cancellation).1
  | .result publishable request => some (service.jobResult publishable request).1
  | .progress now timestamp jobId stage fraction detail =>
    some (service.noteProgress now timestamp jobId stage fraction detail)
  | .settle task outcome =>
    match service.tasks[task]? with
    | some row =>
      if row.outcome = none then
        some { service with tasks := service.tasks.set task { row with outcome := some outcome } }
      else none
    | none => none
  | .completed task host =>
    match service.tasks[task]? with
    | some row =>
      match row.outcome, row.reported with
      | some outcome, false =>
        let reported :=
          { service with tasks := service.tasks.set task { row with reported := true } }
        some (reported.jobCompleted host task row.jobId outcome)
      | _, _ => none
    | none => none
  | .start => some { service with accepting := true }
  | .stop =>
    some { service with
      accepting := false
      tasks := (service.active.values.map ActiveJob.task).foldl cancelTask service.tasks }

end JobSubmissionService

end Omnitensor
