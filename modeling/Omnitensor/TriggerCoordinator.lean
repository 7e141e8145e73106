/-
This file models the coordinator that queues triggers and hands them to the collectors of their plugins.

A trigger that is submitted waits once under its key, in a queue of bounded length. A collection takes
the oldest trigger off the queue, hands it to its collector and waits; meanwhile anything else may
happen, another collection included. A periodic registration is submitted by the first tick that finds
it due. A payload does not change once it is made.
-/

import Omnitensor.Machine
import Omnitensor.PythonJson

namespace Omnitensor

/-- Whether a code point may stand between the hyphens of a plugin id. -/
def pluginIdPoint (point : CodePoint) : Bool :=
  point.char?.any fun char => ('a' ≤ char && char ≤ 'z') || ('0' ≤ char && char ≤ '9')

/-- Words of lower-case letters and digits between hyphens. -/
def pluginIdMatches (text : PyString) : Bool :=
  (text.splitOn (.scalar '-')).all fun word => !word.isEmpty && word.all pluginIdPoint

namespace Triggers

open PyString (ofString)

/-! ### Triggers -/

inductive TriggerKind where
  | manual
  | event
  | periodic
  deriving DecidableEq

inductive TriggerDisposition where
  | accepted
  | coalesced
  | queueFull
  deriving DecidableEq

inductive CollectionStatus where
  | succeeded
  | timedOut
  | failed
  deriving DecidableEq

/-- What is raised: a refusal of the boundary, a value, a key, or the end of the interpreter's stack. -/
inductive TriggerError where
  | validation (code : String) (detail : PyString)
  | value (detail : PyString)
  | key (detail : PyString)
  | recursion
  deriving DecidableEq

variable {Real Collector : Type}

/-- One manual, event, or periodic collection request. -/
structure Trigger (Real : Type) where
  pluginId : PyString
  triggerId : PyString
  kind : TriggerKind
  payload : PyValue Real
  createdAtMs : Int

/-- What a trigger is queued under. -/
abbrev TriggerKey : Type := PyString × TriggerKind × PyString

def key (trigger : Trigger Real) : TriggerKey := (trigger.pluginId, trigger.kind, trigger.triggerId)

structure TriggerReceipt (Real : Type) where
  trigger : Trigger Real
  disposition : TriggerDisposition
  pendingCount : Nat

/-- A plugin's registration for a trigger every so often. -/
structure PeriodicRegistration (Real : Type) where
  pluginId : PyString
  intervalMs : Int
  nextDueMs : Int
  payload : PyValue Real
  sequence : Nat := 0

/-- The bounds a coordinator is made with, how deep a value may nest, and how a text is quoted. -/
structure TriggerSettings where
  maxTriggerBytes : Nat
  maxPending : Nat
  stack : Nat
  repr : PyString → PyString
  bytesPositive : 1 ≤ maxTriggerBytes
  pendingPositive : 1 ≤ maxPending

structure TriggerCoordinator (Real Collector : Type) where
  collectors : Dict PyString Collector
  pending : List (Trigger Real)
  pendingKeys : Finset TriggerKey
  periodic : Dict PyString (PeriodicRegistration Real)

/-- A coordinator before its first trigger. -/
def TriggerCoordinator.empty : TriggerCoordinator Real Collector := ⟨Dict.empty, [], ∅, Dict.empty⟩

/-! ### Checks -/

def maxPluginIdChars : Nat := 80

def maxCorrelationChars : Nat := 128

def validPluginId (value : PyString) : Bool :=
  decide (1 ≤ value.length) && decide (value.length ≤ maxPluginIdChars) && pluginIdMatches value

def validatePluginId (settings : TriggerSettings) (pluginId : PyString) : Except TriggerError Unit :=
  if validPluginId pluginId then .ok ()
  else
    let detail := ofString "invalid plugin id: " ++ settings.repr pluginId
    .error (.validation "invalid-plugin-id" detail)

def validateCorrelationId (triggerId : PyString) : Except TriggerError Unit :=
  if triggerId.isEmpty || maxCorrelationChars < triggerId.length then
    .error (.validation "invalid-trigger-id"
      (ofString s!"trigger id must contain 1-{maxCorrelationChars} characters"))
  else .ok ()

def validateNonNegativeInteger (value : Int) (name : String) : Except TriggerError Unit :=
  if value < 0 then .error (.value (ofString s!"{name} must be a non-negative integer")) else .ok ()

def validateInterval (intervalMs : Int) : Except TriggerError Unit :=
  if intervalMs < 1 then .error (.value (ofString "interval_ms must be a positive integer")) else .ok ()

def validatePayload [FloatText Real] (settings : TriggerSettings) :
    PyValue Real → Except TriggerError Unit
  | .dict members =>
    match (PyValue.dict members).dumps settings.stack with
    | .error .recursion => .error .recursion
    | .error _ => .error (.validation "invalid-payload" (ofString "payload must contain JSON values"))
    | .ok text =>
      match text.encodeUtf8 with
      | none => .error (.validation "invalid-payload" (ofString "payload must contain JSON values"))
      | some encoded =>
        if settings.maxTriggerBytes < encoded.length then
          .error (.validation "payload-too-large" (ofString
            s!"payload is {encoded.length} bytes; limit is {settings.maxTriggerBytes}"))
        else .ok ()
  | _ => .error (.validation "invalid-payload" (ofString "payload must be a JSON object"))

def requireCollector (settings : TriggerSettings) (pluginId : PyString)
    (coordinator : TriggerCoordinator Real Collector) : Except TriggerError Collector := do
  validatePluginId settings pluginId
  match coordinator.collectors.get? pluginId with
  | some collector => .ok collector
  | none => .error (.key (ofString "collector not registered: " ++ pluginId))

/-! ### Registrations -/

def registerCollector (settings : TriggerSettings) (pluginId : PyString) (collector : Collector)
    (coordinator : TriggerCoordinator Real Collector) :
    Except TriggerError (TriggerCoordinator Real Collector) := do
  validatePluginId settings pluginId
  if (coordinator.collectors.get? pluginId).isSome then
    .error (.value (ofString "collector already registered: " ++ pluginId))
  else .ok { coordinator with collectors := coordinator.collectors.set pluginId collector }

variable [FloatText Real]

def registerPeriodic (settings : TriggerSettings) (pluginId : PyString) (intervalMs firstDueMs : Int)
    (payload : PyValue Real) (coordinator : TriggerCoordinator Real Collector) :
    Except TriggerError (TriggerCoordinator Real Collector) := do
  let _ ← requireCollector settings pluginId coordinator
  validateNonNegativeInteger firstDueMs "first_due_ms"
  validateInterval intervalMs
  validatePayload settings payload
  if (coordinator.periodic.get? pluginId).isSome then
    .error (.value (ofString "periodic trigger already registered: " ++ pluginId))
  else
    let registration : PeriodicRegistration Real := ⟨pluginId, intervalMs, firstDueMs, payload, 0⟩
    .ok { coordinator with periodic := coordinator.periodic.set pluginId registration }

/-! ### Submissions -/

/-- Submit a trigger after enforcing all boundary limits. -/
def submit (settings : TriggerSettings) (trigger : Trigger Real)
    (coordinator : TriggerCoordinator Real Collector) :
    Except TriggerError (TriggerReceipt Real × TriggerCoordinator Real Collector) := do
  let _ ← requireCollector settings trigger.pluginId coordinator
  validateCorrelationId trigger.triggerId
  validateNonNegativeInteger trigger.createdAtMs "created_at_ms"
  validatePayload settings trigger.payload
  if key trigger ∈ coordinator.pendingKeys then
    .ok (⟨trigger, .coalesced, coordinator.pending.length⟩, coordinator)
  else if settings.maxPending ≤ coordinator.pending.length then
    .ok (⟨trigger, .queueFull, coordinator.pending.length⟩, coordinator)
  else
    let queued := { coordinator with
      pending := coordinator.pending ++ [trigger]
      pendingKeys := insert (key trigger) coordinator.pendingKeys }
    .ok (⟨trigger, .accepted, queued.pending.length⟩, queued)

/-- A receipt, and the triggers that were pending when it was given. -/
structure Answer (Real : Type) where
  receipt : TriggerReceipt Real
  pending : List (Trigger Real)

/-- The trigger of a registration, numbered by its sequence. -/
def periodicTrigger (nowMs : Int) (registration : PeriodicRegistration Real) : Trigger Real :=
  ⟨registration.pluginId, ofString s!"periodic-{registration.sequence}", .periodic,
    registration.payload, nowMs⟩

/-- What a tick leaves behind: the coordinator, its answers, and what it raises. -/
structure Ticked (Real Collector : Type) where
  coordinator : TriggerCoordinator Real Collector
  answers : List (Answer Real)
  raised : Option TriggerError

def TriggerCoordinator.setPeriodic (coordinator : TriggerCoordinator Real Collector)
    (registration : PeriodicRegistration Real) : TriggerCoordinator Real Collector :=
  { coordinator with periodic := coordinator.periodic.set registration.pluginId registration }

/-- Submit the overdue of some registrations, up to the first that is refused. -/
def tickEach (settings : TriggerSettings) (nowMs : Int) :
    List (PeriodicRegistration Real) → TriggerCoordinator Real Collector → Ticked Real Collector
  | [], coordinator => ⟨coordinator, [], none⟩
  | registration :: registrations, coordinator =>
    if nowMs < registration.nextDueMs then tickEach settings nowMs registrations coordinator
    else
      let counted := { registration with sequence := registration.sequence + 1 }
      let started := coordinator.setPeriodic counted
      match submit settings (periodicTrigger nowMs counted) started with
      | .error error => ⟨started, [], some error⟩
      | .ok (receipt, submitted) =>
        let rest := tickEach settings nowMs registrations
          (submitted.setPeriodic { counted with nextDueMs := nowMs + registration.intervalMs })
        { rest with answers := ⟨receipt, started.pending⟩ :: rest.answers }

/-- Submit at most one trigger per overdue periodic source. -/
def tick (settings : TriggerSettings) (nowMs : Int) (coordinator : TriggerCoordinator Real Collector) :
    Ticked Real Collector :=
  match validateNonNegativeInteger nowMs "now_ms" with
  | .error error => ⟨coordinator, [], some error⟩
  | .ok () =>
    let registrations := coordinator.periodic.values.insertionSort
      fun first second => first.pluginId ≤ second.pluginId
    tickEach settings nowMs registrations coordinator

/-! ### Collections -/

/-- Take the oldest trigger off the queue, for its collector. -/
def takeNext (coordinator : TriggerCoordinator Real Collector) :
    Except TriggerError (Option (Collector × Trigger Real)) × TriggerCoordinator Real Collector :=
  match coordinator.pending with
  | [] => (.ok none, coordinator)
  | trigger :: pending =>
    let taken := { coordinator with pending }
    if key trigger ∈ coordinator.pendingKeys then
      let removed := { taken with pendingKeys := coordinator.pendingKeys.erase (key trigger) }
      match removed.collectors.get? trigger.pluginId with
      | some collector => (.ok (some (collector, trigger)), removed)
      | none => (.error (.key trigger.pluginId), removed)
    else (.error (.key trigger.triggerId), taken)

/-- What a collector comes to: an output, some other value, no answer in time, an exception of some
type, or a cancellation of whoever waits for it. -/
inductive CollectorResult (Real : Type) where
  | output (payload : PyValue Real)
  | invalid
  | timedOut
  | failed (errorType : String)
  | cancelled

structure CollectionOutcome (Real : Type) where
  trigger : Trigger Real
  status : CollectionStatus
  output : Option (PyValue Real)
  detail : PyString

/-- What a collection comes to: an outcome, nothing if it is cancelled, or an exception. -/
def outcome (settings : TriggerSettings) (trigger : Trigger Real) :
    CollectorResult Real → Except TriggerError (Option (CollectionOutcome Real))
  | .timedOut => .ok (some ⟨trigger, .timedOut, none, ofString "collection timed out"⟩)
  | .failed errorType =>
    .ok (some ⟨trigger, .failed, none, ofString s!"collection failed: {errorType}"⟩)
  | .cancelled => .ok none
  | .invalid => .ok (some ⟨trigger, .failed, none, ofString "collector returned an invalid output"⟩)
  | .output payload =>
    match validatePayload settings payload with
    | .ok () => .ok (some ⟨trigger, .succeeded, some payload, []⟩)
    | .error (.validation _ detail) => .ok (some ⟨trigger, .failed, none, detail⟩)
    | .error error => .error error

/-! ### The system -/

/-- A trigger handed to its collector, and what came of it. -/
structure Collection (Real Collector : Type) where
  collector : Collector
  trigger : Trigger Real
  outcome : Option (Except TriggerError (Option (CollectionOutcome Real)))

/-- A coordinator with every answer it gave and every collection it began, in order. -/
structure TriggerSystem (Real Collector : Type) where
  coordinator : TriggerCoordinator Real Collector
  answers : List (Answer Real)
  collections : List (Collection Real Collector)

def TriggerSystem.empty : TriggerSystem Real Collector := ⟨.empty, [], []⟩

/-- What a coordinator is asked, and what its collectors answer. -/
inductive TriggerAction (Real Collector : Type) where
  | registerCollector (pluginId : PyString) (collector : Collector)
  | registerPeriodic (pluginId : PyString) (intervalMs firstDueMs : Int) (payload : PyValue Real)
  | submit (trigger : Trigger Real)
  | tick (nowMs : Int)
  | collectNext
  | collected (index : Nat) (result : CollectorResult Real)

/-- What one call does, or one collector that is done. A call that raises changes nothing unless it
is a tick or a collection. -/
def step (settings : TriggerSettings) (system : TriggerSystem Real Collector) :
    TriggerAction Real Collector → Option (TriggerSystem Real Collector)
  | .registerCollector pluginId collector =>
    match registerCollector settings pluginId collector system.coordinator with
    | .ok coordinator => some { system with coordinator }
    | .error _ => some system
  | .registerPeriodic pluginId intervalMs firstDueMs payload =>
    match registerPeriodic settings pluginId intervalMs firstDueMs payload system.coordinator with
    | .ok coordinator => some { system with coordinator }
    | .error _ => some system
  | .submit trigger =>
    match submit settings trigger system.coordinator with
    | .ok (receipt, coordinator) => some { system with
        coordinator
        answers := system.answers ++ [⟨receipt, system.coordinator.pending⟩] }
    | .error _ => some system
  | .tick nowMs =>
    let ticked := tick settings nowMs system.coordinator
    some { system with
      coordinator := ticked.coordinator
      answers := system.answers ++ ticked.answers }
  | .collectNext =>
    match takeNext system.coordinator with
    | (.ok (some (collector, trigger)), coordinator) => some { system with
        coordinator
        collections := system.collections ++ [⟨collector, trigger, none⟩] }
    | (_, coordinator) => some { system with coordinator }
  | .collected index result =>
    match system.collections[index]? with
    | some ⟨collector, trigger, none⟩ => some { system with
        collections := system.collections.set index
          ⟨collector, trigger, some (outcome settings trigger result)⟩ }
    | _ => none

/-- The triggers whose submission was accepted, in order. -/
def acceptedOf (answers : List (Answer Real)) : List (Trigger Real) :=
  (answers.filter fun answer => answer.receipt.disposition == .accepted).map
    fun answer => answer.receipt.trigger

/-- The triggers that were answered with an acceptance. -/
def TriggerSystem.accepted (system : TriggerSystem Real Collector) : List (Trigger Real) :=
  acceptedOf system.answers

/-- The triggers that were handed to a collector, in order. -/
def TriggerSystem.handed (system : TriggerSystem Real Collector) : List (Trigger Real) :=
  system.collections.map Collection.trigger

end Triggers

end Omnitensor
