/-
This file models the control service: concurrent calls over one served policy.

A call that changes policy takes the service's lock, makes a candidate of the policy it finds,
hands the candidate to the worker pool to be saved, and publishes it when it resumes.
The lock is held across these suspensions, so a call goes through them in events of its
own between which events of other calls occur: calls that arrive, that are refused before
they need the lock, or that wait for it. The host's functions answer anew at each event,
and any of them may raise.
-/

import Omnitensor.Machine
import Omnitensor.PolicyStore

namespace Omnitensor

/-! ### Requests and replies -/

/-- A call: a command's text, by what becomes of it before the lock is needed, or an adoption. -/
inductive Request where
  /-- The text is not JSON. -/
  | notJson
  /-- The text is JSON but not an object. -/
  | notObject
  /-- The object does not match the schema; its id may be a string. -/
  | violation (id : Option String)
  /-- Reading or checking the text raises. -/
  | unreadable
  | command (id : String) (expectedRevision : JsonInteger) (command : Command)
  | adoption (profileIds : List String) (default : Option ProfilePolicy)
  deriving DecidableEq

/-- Whether a command was applied. -/
inductive Status where
  | applied
  | rejected
  deriving DecidableEq

/-- The policy as an acknowledgement carries it. -/
structure Portfolio where
  paused : Bool
  profiles : Dict String ProfilePolicy
  deviceChoices : Dict String String
  modelChoices : Dict String String
  deriving DecidableEq

/-- The answer to a command. -/
structure Acknowledgement where
  commandId : String
  status : Status
  revision : Nat
  message : String
  portfolio : Portfolio
  deriving DecidableEq

/-- What a call returns. -/
inductive Reply where
  | acknowledgement (acknowledgement : Acknowledgement)
  | adopted (profileIds : List String)
  deriving DecidableEq

/-- The portfolio of a policy, each table sorted. -/
def PolicyState.portfolio (state : PolicyState) : Portfolio where
  paused := state.paused
  profiles := PolicyStore.sortedItems state.profiles
  deviceChoices := PolicyStore.sortedItems state.deviceChoices
  modelChoices := PolicyStore.sortedItems state.modelChoices

/-- A letter, a digit, a dot, an underscore or a hyphen. -/
def Pattern.commandIdChar (char : Char) : Bool :=
  Pattern.alphanumeric char || ('A' ≤ char && char ≤ 'Z') || char == '.' || char == '_' ||
    char == '-'

/-- `[A-Za-z0-9._-]{1,120}`. -/
def Pattern.commandId (text : String) : Bool :=
  Pattern.leading Pattern.commandIdChar Pattern.commandIdChar 119 text.toList

/-- The id of a command when an acknowledgement can carry it. -/
def sanitizedCommandId : Option String → String
  | some id => if Pattern.commandId id then id else "invalid"
  | none => "invalid"

namespace ControlService

/-- The acknowledgement of a command, over the policy served when it is made. -/
def acknowledgement (served : PolicyState) (commandId : String) (status : Status)
    (message : String) : Reply :=
  .acknowledgement
    { commandId := commandId
      status := status
      revision := served.revision
      message := message
      portfolio := served.portfolio }

/-- The reply that rejects a command. -/
def rejection (served : PolicyState) (commandId message : String) : Reply :=
  acknowledgement served commandId .rejected message

/-- The reply to an applied command. -/
def application (served : PolicyState) (id : String) : Reply :=
  acknowledgement served (sanitizedCommandId (some id)) .applied "Policy applied"

/-! ### Configurations -/

/-- What the injected settings say of a workload's configuration. -/
inductive SettingsAnswer where
  | unavailable
  | unusable (detail : String)
  | undeclared
  | refused (detail : String)
  | failed
  | stored
  deriving DecidableEq

/-- Validate and persist one workload's configuration, or say why not. -/
def storeConfiguration (environment : ControlEnvironment) (served : PolicyState)
    (profileId : String) (answer : SettingsAnswer) : Option String :=
  if answer = .unavailable then some "Workload configuration is not available on this runtime"
  else if !served.knownProfile environment profileId then some (unknownProfile profileId)
  else
    match answer with
    | .unusable detail =>
      some ("This workload's configuration contract is unusable: " ++ detail)
    | .undeclared => some ("This workload declares no configuration: " ++ profileId)
    | .refused detail => some ("Configuration was refused: " ++ detail)
    | .failed => some persistFailureMessage
    | _ => none

/-! ### Calls -/

/-- Where a call stands. From `storing` to `written` it holds the lock. -/
inductive Phase where
  /-- The call is about to take the lock. -/
  | waiting
  /-- The configuration is being stored off the loop. -/
  | storing
  /-- The candidate is being saved off the loop. -/
  | saving (candidate : PolicyState)
  /-- The save is over and the call has not resumed. -/
  | written (candidate : PolicyState) (succeeds : Bool)
  | completed (reply : Reply)
  deriving DecidableEq

/-- A call in one of these phases holds the lock. -/
def Phase.holdsLock : Phase → Bool
  | .storing | .saving _ | .written _ _ => true
  | .waiting | .completed _ => false

/-- A call of the control service, with how far it came. -/
structure Call where
  request : Request
  phase : Phase
  deriving DecidableEq

/-- Something that happens to one call. -/
inductive Event where
  /-- The call takes the lock and runs up to its first suspension. -/
  | locked (environment : ControlEnvironment)
  /-- A host function raises while the call holds the lock. -/
  | raised
  /-- The settings store answers. -/
  | stored (environment : ControlEnvironment) (answer : SettingsAnswer)
  /-- A save ends, with an `OSError` or without. -/
  | written (succeeds : Bool)
  /-- The call resumes after a save. -/
  | resumed

/-- The reply to a text that is refused before the lock is needed. -/
def textRefusal (served : PolicyState) : Request → Option Reply
  | .notJson => some (rejection served "invalid" "Command is not valid JSON")
  | .notObject => some (rejection served "invalid" "Command is not an object")
  | .violation id =>
    some (rejection served (sanitizedCommandId id) "Command does not match the version 2 contract")
  | .unreadable => some (rejection served "invalid" internalErrorMessage)
  | .command _ _ _ | .adoption _ _ => none

/-- Execute a command on a copy and hand the candidate over to be saved. -/
def executed (environment : ControlEnvironment) (served : PolicyState) (id : String)
    (command : Command) : Phase :=
  match served.candidate environment command with
  | .error message => .completed (rejection served (sanitizedCommandId (some id)) message)
  | .ok candidate => .saving candidate

/-- What a call does once it has the lock. -/
def begun (environment : ControlEnvironment) (served : PolicyState) : Request → Option Phase
  | .command id expectedRevision command =>
    if expectedRevision.value ≠ served.revision then
      some (.completed (rejection served (sanitizedCommandId (some id)) revisionMismatchMessage))
    else if command.isConfiguration then some .storing
    else some (executed environment served id command)
  | .adoption profileIds default =>
    match served.adoptProfiles profileIds default with
    | none => some (.completed (.adopted []))
    | some candidate => some (.saving candidate)
  | _ => none

/-- What a call does once its configuration is stored or refused. -/
def configured (environment : ControlEnvironment) (served : PolicyState) (answer : SettingsAnswer) :
    Request → Option Phase
  | .command id _ (.setProfileConfiguration profileId) =>
    match storeConfiguration environment served profileId answer with
    | some message =>
      some (.completed (rejection served (sanitizedCommandId (some id)) message))
    | none => some (executed environment served id (.setProfileConfiguration profileId))
  | _ => none

/-- What a call publishes and replies once its save is over. An adoption names the profiles that
had no policy before it. -/
def resumed (served candidate : PolicyState) (succeeds : Bool) :
    Request → Option (PolicyState × Reply)
  | .command id _ command =>
    match PolicyState.commit served candidate command succeeds with
    | (published, none) => some (published, application published id)
    | (published, some message) =>
      some (published, rejection published (sanitizedCommandId (some id)) message)
  | .adoption profileIds _ =>
    if succeeds then some (candidate, .adopted (served.adoptable profileIds))
    else some (served, .adopted [])
  | _ => none

/-- The reply to a call in which a host function raised; only commands call any. -/
def raisedReply (served : PolicyState) : Request → Option Reply
  | .command _ _ _ => some (rejection served "invalid" internalErrorMessage)
  | _ => none

/-- The policy served, the last document saved since the start, and where a call stands, after
an event of the call. -/
def advance (served : PolicyState) (saved : Option PolicyState) (call : Call) :
    Event → Option (PolicyState × Option PolicyState × Phase)
  | .locked environment =>
    match call.phase with
    | .waiting => (begun environment served call.request).map fun phase => (served, saved, phase)
    | _ => none
  | .raised =>
    match call.phase with
    | .waiting | .storing =>
      (raisedReply served call.request).map fun reply => (served, saved, .completed reply)
    | _ => none
  | .stored environment answer =>
    match call.phase with
    | .storing =>
      (configured environment served answer call.request).map fun phase => (served, saved, phase)
    | _ => none
  | .written succeeds =>
    match call.phase with
    | .saving candidate =>
      some (served, if succeeds then some candidate else saved, .written candidate succeeds)
    | _ => none
  | .resumed =>
    match call.phase with
    | .written candidate succeeds =>
      (resumed served candidate succeeds call.request).map fun (published, reply) =>
        (published, saved, .completed reply)
    | _ => none

end ControlService

/-! ### The service -/

/-- The state of the service. -/
structure ControlService where
  served : PolicyState
  /-- The policy in the file, when this process has saved one. -/
  saved : Option PolicyState
  /-- The call that holds the lock. -/
  holder : Option Nat
  calls : List ControlService.Call
  deriving DecidableEq

namespace ControlService

/-- The service over the policy it loaded. -/
def start (loaded : PolicyState) : ControlService where
  served := loaded
  saved := none
  holder := none
  calls := []

/-- A call arrives, or something happens to one. -/
inductive Action where
  | call (request : Request)
  | event (index : Nat) (event : Event)

/-- The call an action is about. -/
def Action.caller (service : ControlService) : Action → Nat
  | .call _ => service.calls.length
  | .event index _ => index

/-- One step of the service. A waiting call does nothing while another holds the lock. -/
def step (service : ControlService) : Action → Option ControlService
  | .call request =>
    let phase :=
      match textRefusal service.served request with
      | some reply => .completed reply
      | none => .waiting
    some { service with calls := service.calls ++ [{ request := request, phase := phase }] }
  | .event index event =>
    match service.calls[index]? with
    | none => none
    | some call =>
      if call.phase = .waiting ∧ service.holder ≠ none then none
      else
        match advance service.served service.saved call event with
        | none => none
        | some (served, saved, phase) =>
          some
            { served := served
              saved := saved
              holder := if phase.holdsLock then some index else none
              calls := service.calls.set index { call with phase := phase } }

end ControlService

end Omnitensor
