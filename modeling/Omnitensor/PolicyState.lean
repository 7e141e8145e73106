/-
This file models the runtime policy and the commands that change it.

A command is executed on a copy of the served policy. The copy is changed in place, so a
refused command may leave it half changed; the caller then discards it, and otherwise
spends one revision on it. A batch checks every change against the policy it starts
from and then applies them one after another with code of its own, while a single
command checks and applies at once.

Commands have the types the contract's schema admits: a device or model choice is a
string or null, a weight is a JSON integer, written `2` or `2.0`.
-/

import Omnitensor.Dict

namespace Omnitensor

/-! ### Policy -/

/-- The least and the greatest weight of a profile. -/
def minWeight : Int := 1

@[inherit_doc minWeight]
def maxWeight : Int := 5

/-- How many profiles may have a device choice. -/
def maxDeviceChoices : Nat := 128

/-- How many profiles may have a model choice. -/
def maxModelChoices : Nat := 128

/-- A JSON number that the schema counts as an integer: `2`, or the float `2.0`. -/
inductive JsonInteger where
  | integer (value : Int)
  | float (value : Int)
  deriving DecidableEq

/-- The number itself. -/
def JsonInteger.value : JsonInteger → Int
  | .integer value => value
  | .float value => value

/-- What a profile may do. A manifest's default weight may be a float. -/
structure ProfilePolicy where
  enabled : Bool
  weight : JsonInteger
  deriving DecidableEq

/-- The policy of the runtime. -/
structure PolicyState where
  paused : Bool
  profiles : Dict String ProfilePolicy
  deviceChoices : Dict String String
  modelChoices : Dict String String
  revision : Nat
  deriving DecidableEq

/-! ### Commands -/

/-- One change of a batch: the fields it carries. -/
structure ProfileChange where
  profileId : String
  enabled : Option Bool
  weight : Option JsonInteger
  deviceId : Option (Option String)
  modelId : Option (Option String)
  deriving DecidableEq

/-- A command's operation with the value it carries. The configuration a
`set-profile-configuration` carries goes to the settings store. -/
inductive Command where
  | setProfileEnabled (profileId : String) (value : Bool)
  | setProfileWeight (profileId : String) (value : JsonInteger)
  | setProfileDevice (profileId : String) (value : Option String)
  | setProfileModel (profileId : String) (value : Option String)
  | setProfileConfiguration (profileId : String)
  | setPaused (value : Bool)
  | applyProfiles (changes : List ProfileChange)
  deriving DecidableEq

/-- A command stores a workload's configuration besides changing policy. -/
def Command.isConfiguration : Command → Bool
  | .setProfileConfiguration _ => true
  | _ => false

/-- What the runtime knows while a command is executed: the workloads that exist, the published
GPU ids and the models each profile declares. -/
structure ControlEnvironment where
  profileExists : Option (String → Bool)
  gpuDeviceIds : List String
  profileModels : String → List String

/-- A policy changed in place, with the refusal if there was one. -/
abbrev Outcome : Type := PolicyState × Option String

/-- Go on with the next change unless the last was refused. -/
def Outcome.andThen (outcome : Outcome) (next : PolicyState → Outcome) : Outcome :=
  match outcome with
  | (state, some message) => (state, some message)
  | (state, none) => next state

/-! ### Refusals -/

/-- The text of an internal error, which an exception raised while a command is executed becomes. -/
def internalErrorMessage : String := "Internal error while applying the command"

def revisionMismatchMessage : String := "Runtime policy revision changed; refresh and retry"

def persistFailureMessage : String := "Could not persist the policy; nothing was applied"

def unknownProfile (profileId : String) : String := "Unknown workload profile: " ++ profileId

def weightRefusal : String :=
  "Weight must be between " ++ toString minWeight ++ " and " ++ toString maxWeight

namespace PolicyState

/-- A profile a choice may be made about. -/
def knownProfile (environment : ControlEnvironment) (state : PolicyState) (profileId : String) :
    Bool :=
  state.profiles.contains profileId || state.deviceChoices.contains profileId ||
    state.modelChoices.contains profileId ||
    match environment.profileExists with
    | none => false
    | some profileExists => profileExists profileId

/-- Why a device cannot be chosen. -/
def deviceChoiceError (environment : ControlEnvironment) : Option String → Option String
  | none => none
  | some deviceId =>
    if deviceId ∈ environment.gpuDeviceIds then none
    else some ("GPU device is unavailable: " ++ deviceId)

/-- Why a model cannot be chosen for a profile. -/
def modelChoiceError (environment : ControlEnvironment) (profileId : String) :
    Option String → Option String
  | none => none
  | some modelId =>
    if modelId ∈ environment.profileModels profileId then none
    else some ("Model is not declared by this workload: " ++ modelId)

/-! ### Changes -/

/-- Choose a value for a profile in a table of limited size, or go back to none. -/
def updateChoices (choices : Dict String String) (limit : Nat) (error : Option String)
    (full : String) (profileId : String) (value : Option String) :
    Except String (Dict String String) :=
  match error with
  | some error => .error error
  | none =>
    match value with
    | none => .ok (choices.erase profileId)
    | some chosen =>
      if !choices.contains profileId && decide (limit ≤ choices.size) then .error full
      else .ok (choices.set profileId chosen)

/-- Choose a device for a profile, or go back to none. -/
def setProfileDevice (environment : ControlEnvironment) (state : PolicyState) (profileId : String)
    (deviceId : Option String) : Outcome :=
  match updateChoices state.deviceChoices maxDeviceChoices (deviceChoiceError environment deviceId)
      ("GPU device choices are limited to " ++ toString maxDeviceChoices ++ " profiles")
      profileId deviceId with
  | .error error => (state, some error)
  | .ok choices => ({ state with deviceChoices := choices }, none)

/-- Choose a model for a profile, or go back to the default. -/
def setProfileModel (environment : ControlEnvironment) (state : PolicyState) (profileId : String)
    (modelId : Option String) : Outcome :=
  match updateChoices state.modelChoices maxModelChoices
      (modelChoiceError environment profileId modelId)
      ("Model choices are limited to " ++ toString maxModelChoices ++ " profiles")
      profileId modelId with
  | .error error => (state, some error)
  | .ok choices => ({ state with modelChoices := choices }, none)

/-- Change the policy of a profile that has one; what is said of one that has none. -/
def setPolicy (state : PolicyState) (profileId : String) (change : ProfilePolicy → ProfilePolicy)
    (missing : String) : Outcome :=
  match state.profiles.get? profileId with
  | none => (state, some missing)
  | some policy => ({ state with profiles := state.profiles.set profileId (change policy) }, none)

/-- The weight the policy stores: the integer of the number. -/
def integralWeight (value : JsonInteger) : JsonInteger := .integer value.value

/-! ### Batches -/

/-- Why a change of a batch cannot be made, judged by the policy the batch starts from. -/
def batchError (environment : ControlEnvironment) (state : PolicyState) (change : ProfileChange) :
    Option String :=
  if !knownProfile environment state change.profileId then
    some (unknownProfile change.profileId)
  else if change.enabled.isNone && change.weight.isNone && change.deviceId.isNone &&
      change.modelId.isNone then
    some ("Change for " ++ change.profileId ++
      " sets none of enabled, weight, deviceId or modelId")
  else if (change.enabled.isSome || change.weight.isSome) &&
      !state.profiles.contains change.profileId then
    some ("Profile policy unavailable: " ++ change.profileId)
  else
    match change.deviceId.bind (deviceChoiceError environment) with
    | some error => some error
    | none => change.modelId.bind (modelChoiceError environment change.profileId)

/-- Make one change of a batch, field by field. A change of the policy of a profile that has none
fails an assertion, which ends in the internal error. -/
def applyBatchChange (environment : ControlEnvironment) (state : PolicyState)
    (change : ProfileChange) : Outcome :=
  let enabled : Outcome :=
    match change.enabled with
    | none => (state, none)
    | some value =>
      state.setPolicy change.profileId (fun policy => { policy with enabled := value })
        internalErrorMessage
  let weighted := enabled.andThen fun state =>
    match change.weight with
    | none => (state, none)
    | some value =>
      state.setPolicy change.profileId (fun policy => { policy with weight := integralWeight value })
        internalErrorMessage
  let placed := weighted.andThen fun state =>
    match change.deviceId with
    | none => (state, none)
    | some deviceId => setProfileDevice environment state change.profileId deviceId
  placed.andThen fun state =>
    match change.modelId with
    | none => (state, none)
    | some modelId => setProfileModel environment state change.profileId modelId

/-- Make the changes of a batch one after another. -/
def applyBatchChanges (environment : ControlEnvironment) :
    PolicyState → List ProfileChange → Outcome
  | state, [] => (state, none)
  | state, change :: changes =>
    (applyBatchChange environment state change).andThen fun changed =>
      applyBatchChanges environment changed changes

/-- Check every change of a batch, then make them. -/
def applyBatch (environment : ControlEnvironment) (state : PolicyState)
    (changes : List ProfileChange) : Outcome :=
  match changes.findSome? (batchError environment state) with
  | some error => (state, some error)
  | none => applyBatchChanges environment state changes

/-! ### Executing a command -/

/-- Execute a command on a copy of the policy. -/
def execute (environment : ControlEnvironment) (state : PolicyState) : Command → Outcome
  | .applyProfiles changes => applyBatch environment state changes
  | .setPaused value => ({ state with paused := value }, none)
  | .setProfileConfiguration _ => (state, none)
  | .setProfileDevice profileId value =>
    if !knownProfile environment state profileId then (state, some (unknownProfile profileId))
    else setProfileDevice environment state profileId value
  | .setProfileModel profileId value =>
    if !knownProfile environment state profileId then (state, some (unknownProfile profileId))
    else setProfileModel environment state profileId value
  | .setProfileEnabled profileId value =>
    state.setPolicy profileId (fun policy => { policy with enabled := value })
      (unknownProfile profileId)
  | .setProfileWeight profileId value =>
    match state.profiles.get? profileId with
    | none => (state, some (unknownProfile profileId))
    | some policy =>
      if minWeight ≤ value.value ∧ value.value ≤ maxWeight then
        ({ state with
            profiles := state.profiles.set profileId { policy with weight := integralWeight value } },
          none)
      else (state, some weightRefusal)

/-- The candidate a command leads to: the changed copy with one revision spent. -/
def candidate (environment : ControlEnvironment) (state : PolicyState) (command : Command) :
    Except String PolicyState :=
  match execute environment state command with
  | (_, some message) => .error message
  | (changed, none) => .ok { changed with revision := changed.revision + 1 }

/-- What a finished save leaves served, and the rejection. A configuration is already stored, so
losing the revision that announces it rejects nothing. -/
def commit (served changed : PolicyState) (command : Command) (saves : Bool) :
    PolicyState × Option String :=
  if saves then (changed, none)
  else if command.isConfiguration then (served, none)
  else (served, some persistFailureMessage)

/-- The refusals that come before a candidate is made: a stale revision, or a configuration the
settings store refused. -/
def refusal (served : PolicyState) (expectedRevision : JsonInteger) (command : Command)
    (storeConfiguration : Option String) : Option String :=
  if expectedRevision.value ≠ served.revision then some revisionMismatchMessage
  else if command.isConfiguration then storeConfiguration
  else none

/-- What applying a command under the lock leaves served, and the rejection, given what storing
its configuration says and whether the save succeeds. -/
def applyLocked (environment : ControlEnvironment) (served : PolicyState)
    (expectedRevision : JsonInteger) (command : Command) (storeConfiguration : Option String)
    (saves : Bool) : PolicyState × Option String :=
  match refusal served expectedRevision command storeConfiguration with
  | some message => (served, some message)
  | none =>
    match candidate environment served command with
    | .error message => (served, some message)
    | .ok changed => commit served changed command saves

/-! ### Adoption -/

/-- The policy an adopted profile starts with when the caller names none. -/
def defaultAdoption : ProfilePolicy := { enabled := true, weight := .integer minWeight }

/-- The ids of a collection in order, each once. -/
def sortedSet (ids : List String) : List String := ids.dedup.mergeSort fun first second =>
  decide (first ≤ second)

/-- The ids that have no policy yet. -/
def adoptable (state : PolicyState) (profileIds : List String) : List String :=
  (sortedSet profileIds).filter fun profileId => !state.profiles.contains profileId

/-- Give every profile that has none a policy, for one revision; there may be nothing to do. -/
def adoptProfiles (state : PolicyState) (profileIds : List String)
    (default : Option ProfilePolicy) : Option PolicyState :=
  match adoptable state profileIds with
  | [] => none
  | adopted =>
    some { state with
      profiles := adopted.foldl
        (fun profiles profileId => profiles.set profileId (default.getD defaultAdoption))
        state.profiles
      revision := state.revision + 1 }

/-! ### Changes -/

/-- What changes the served policy: a command, or an adoption. -/
inductive Change where
  | command (environment : ControlEnvironment) (command : Command)
  | adoption (profileIds : List String) (default : Option ProfilePolicy)

/-- The policy after a change that succeeds. -/
def applyChange (state : PolicyState) : Change → Option PolicyState
  | .command environment command => (candidate environment state command).toOption
  | .adoption profileIds default => adoptProfiles state profileIds default

end PolicyState

end Omnitensor
