/-
This file takes commands apart into edits.

An edit changes one field of one profile, or the pause flag. A batch makes the edits of
its changes in order, and a single command makes the one edit it names, so a fact about
every command is a fact about each edit. No edit looks at the revision, and no edit gives
a profile a policy or takes one away.
-/

import Omnitensor.PolicySchema

namespace Omnitensor

/-! ### Outcomes -/

namespace Outcome

@[simp] theorem andThen_accepted (state : PolicyState) (next : PolicyState → Outcome) :
    Outcome.andThen (state, none) next = next state := rfl

@[simp] theorem andThen_pure (outcome : Outcome) :
    (outcome.andThen fun state => (state, none)) = outcome := by
  obtain ⟨state, _ | message⟩ := outcome <;> rfl

theorem andThen_assoc (outcome : Outcome) (first second : PolicyState → Outcome) :
    (outcome.andThen first).andThen second =
      outcome.andThen fun state => (first state).andThen second := by
  obtain ⟨state, _ | message⟩ := outcome <;> rfl

/-- Both halves of an accepted sequence were accepted. -/
theorem andThen_eq_accepted {outcome : Outcome} {next : PolicyState → Outcome}
    {final : PolicyState} (accepted : outcome.andThen next = (final, none)) :
    ∃ middle, outcome = (middle, none) ∧ next middle = (final, none) := by
  obtain ⟨state, _ | message⟩ := outcome
  · exact ⟨state, rfl, accepted⟩
  · cases congrArg Prod.snd accepted

end Outcome

/-! ### Edits -/

/-- One field of one profile, or the pause flag, with its new value. -/
inductive Edit where
  | enabled (profileId : String) (value : Bool)
  | weight (profileId : String) (value : JsonInteger)
  | device (profileId : String) (value : Option String)
  | model (profileId : String) (value : Option String)
  | paused (value : Bool)

/-- The command that makes this one edit. -/
def Edit.single : Edit → Command
  | .enabled profileId value => .setProfileEnabled profileId value
  | .weight profileId value => .setProfileWeight profileId value
  | .device profileId value => .setProfileDevice profileId value
  | .model profileId value => .setProfileModel profileId value
  | .paused value => .setPaused value

/-- The edits of a change, one for each field it carries, in the order they are made. -/
def ProfileChange.edits (change : ProfileChange) : List Edit :=
  (change.enabled.map (Edit.enabled change.profileId)).toList ++
    ((change.weight.map (Edit.weight change.profileId)).toList ++
      ((change.deviceId.map (Edit.device change.profileId)).toList ++
        (change.modelId.map (Edit.model change.profileId)).toList))

/-- The edits of a command. -/
def Command.edits : Command → List Edit
  | .setProfileEnabled profileId value => [.enabled profileId value]
  | .setProfileWeight profileId value => [.weight profileId value]
  | .setProfileDevice profileId value => [.device profileId value]
  | .setProfileModel profileId value => [.model profileId value]
  | .setProfileConfiguration _ => []
  | .setPaused value => [.paused value]
  | .applyProfiles changes => changes.flatMap ProfileChange.edits

/-- The model an edit chooses. -/
def Edit.chosenModel : Edit → Option String
  | .model _ value => value
  | _ => none

/-- The models a command chooses. -/
def Command.chosenModels (command : Command) : List String :=
  command.edits.filterMap Edit.chosenModel

/-- Every edit of a valid change would be a valid command. -/
theorem ProfileChange.schemaValid_single {change : ProfileChange}
    (valid : change.schemaValid = true) {edit : Edit} (member : edit ∈ change.edits) :
    edit.single.schemaValid = true := by
  obtain ⟨profileId, enabled, weight, deviceId, modelId⟩ := change
  simp only [schemaValid, Bool.and_eq_true] at valid
  simp only [edits, List.mem_append, Option.mem_toList, Option.map_eq_some_iff] at member
  rcases member with ⟨value, rfl, rfl⟩ | ⟨value, rfl, rfl⟩ | ⟨value, rfl, rfl⟩ | ⟨value, rfl, rfl⟩
  · exact valid.1.1.1
  · exact Bool.and_eq_true_iff.mpr ⟨valid.1.1.1, valid.1.1.2⟩
  · exact Bool.and_eq_true_iff.mpr ⟨valid.1.1.1, valid.1.2⟩
  · exact Bool.and_eq_true_iff.mpr ⟨valid.1.1.1, valid.2⟩

/-- Every edit of a valid command would be a valid command. -/
theorem Command.schemaValid_single {command : Command} (valid : command.schemaValid = true)
    {edit : Edit} (member : edit ∈ command.edits) : edit.single.schemaValid = true := by
  cases command with
  | applyProfiles changes =>
    obtain ⟨change, inside, part⟩ := List.mem_flatMap.mp member
    simp only [schemaValid, Bool.and_eq_true, List.all_eq_true] at valid
    exact ProfileChange.schemaValid_single (valid.2 change inside) part
  | setProfileConfiguration profileId => exact absurd member List.not_mem_nil
  | setProfileEnabled profileId value => exact List.mem_singleton.mp member ▸ valid
  | setProfileWeight profileId value => exact List.mem_singleton.mp member ▸ valid
  | setProfileDevice profileId value => exact List.mem_singleton.mp member ▸ valid
  | setProfileModel profileId value => exact List.mem_singleton.mp member ▸ valid
  | setPaused value => exact List.mem_singleton.mp member ▸ valid

namespace PolicyState

/-- Make one edit, with no check but those of the choice itself. -/
def edit (environment : ControlEnvironment) (state : PolicyState) : Edit → Outcome
  | .enabled profileId value =>
    state.setPolicy profileId (fun policy => { policy with enabled := value }) internalErrorMessage
  | .weight profileId value =>
    state.setPolicy profileId (fun policy => { policy with weight := integralWeight value })
      internalErrorMessage
  | .device profileId value => setProfileDevice environment state profileId value
  | .model profileId value => setProfileModel environment state profileId value
  | .paused value => ({ state with paused := value }, none)

/-- Make edits one after another, up to the first refusal. -/
def editAll (environment : ControlEnvironment) : PolicyState → List Edit → Outcome
  | state, [] => (state, none)
  | state, first :: rest =>
    (edit environment state first).andThen fun changed => editAll environment changed rest

theorem editAll_append (environment : ControlEnvironment) (state : PolicyState)
    (first second : List Edit) :
    editAll environment state (first ++ second) =
      (editAll environment state first).andThen fun changed =>
        editAll environment changed second := by
  induction first generalizing state with
  | nil => rfl
  | cons head tail inductionHypothesis =>
    rw [List.cons_append, editAll, editAll, Outcome.andThen_assoc]
    congr 1
    funext changed
    exact inductionHypothesis changed

@[simp] theorem editAll_singleton (environment : ControlEnvironment) (state : PolicyState)
    (only : Edit) : editAll environment state [only] = edit environment state only :=
  Outcome.andThen_pure _

/-- The edit of a field that may be absent. -/
theorem editAll_toList (environment : ControlEnvironment) (state : PolicyState) {Value : Type}
    (field : Option Value) (make : Value → Edit) :
    editAll environment state (field.map make).toList =
      match field with
      | none => (state, none)
      | some value => edit environment state (make value) := by
  cases field with
  | none => rfl
  | some value => exact editAll_singleton environment state (make value)

/-! ### What an edit does -/

variable {state changed : PolicyState} {environment : ControlEnvironment} {profileId full : String}
  {command : Command} {choices updated : Dict String String} {error value : Option String}

theorem setPolicy_eq_accepted {missing : String} {change : ProfilePolicy → ProfilePolicy}
    (made : state.setPolicy profileId change missing = (changed, none)) :
    ∃ policy, state.profiles.get? profileId = some policy ∧
      changed = { state with profiles := state.profiles.set profileId (change policy) } := by
  unfold setPolicy at made
  split at made
  · cases made
  · rename_i policy found
    exact ⟨policy, found, (Prod.mk.inj made).1.symm⟩

/-- What a table of choices becomes. -/
theorem updateChoices_eq_ok {limit : Nat}
    (made : updateChoices choices limit error full profileId value = .ok updated) :
    error = none ∧
      ((value = none ∧ updated = choices.erase profileId) ∨
        ∃ chosen, value = some chosen ∧ (profileId ∈ choices.keys ∨ choices.size < limit) ∧
          updated = choices.set profileId chosen) := by
  unfold updateChoices at made
  split at made
  · cases made
  · refine ⟨rfl, ?_⟩
    split at made
    · cases made
      exact Or.inl ⟨rfl, rfl⟩
    · rename_i chosen
      split at made
      · cases made
      · rename_i room
        cases made
        refine Or.inr ⟨chosen, rfl, ?_, rfl⟩
        by_contra neither
        obtain ⟨absent, noRoom⟩ := not_or.mp neither
        refine room (Bool.and_eq_true_iff.mpr ⟨?_, decide_eq_true (Nat.not_lt.mp noRoom)⟩)
        rw [Bool.not_eq_true', ← Bool.not_eq_true, Dict.contains_iff]
        exact absent

/-- A table of choices only ever gains the profile chosen for. -/
theorem mem_keys_updateChoices {limit : Nat} {other : String}
    (made : updateChoices choices limit error full profileId value = .ok updated)
    (member : other ∈ updated.keys) : other = profileId ∨ other ∈ choices.keys := by
  rcases (updateChoices_eq_ok made).2 with ⟨_, rfl⟩ | ⟨chosen, _, _, rfl⟩
  · exact Or.inr (Dict.mem_keys_erase.mp member).2
  · exact Dict.mem_keys_set.mp member

theorem setProfileDevice_eq_accepted {deviceId : Option String}
    (made : setProfileDevice environment state profileId deviceId = (changed, none)) :
    ∃ choices, updateChoices state.deviceChoices maxDeviceChoices
        (deviceChoiceError environment deviceId)
        ("GPU device choices are limited to " ++ toString maxDeviceChoices ++ " profiles")
        profileId deviceId = .ok choices ∧ changed = { state with deviceChoices := choices } := by
  unfold setProfileDevice at made
  split at made
  · cases made
  · rename_i choices updated
    exact ⟨choices, updated, (Prod.mk.inj made).1.symm⟩

theorem setProfileModel_eq_accepted {modelId : Option String}
    (made : setProfileModel environment state profileId modelId = (changed, none)) :
    ∃ choices, updateChoices state.modelChoices maxModelChoices
        (modelChoiceError environment profileId modelId)
        ("Model choices are limited to " ++ toString maxModelChoices ++ " profiles")
        profileId modelId = .ok choices ∧ changed = { state with modelChoices := choices } := by
  unfold setProfileModel at made
  split at made
  · cases made
  · rename_i choices updated
    exact ⟨choices, updated, (Prod.mk.inj made).1.symm⟩

/-! ### A batch makes the edits of its changes -/

theorem applyBatchChange_eq_editAll (environment : ControlEnvironment) (state : PolicyState)
    (change : ProfileChange) :
    applyBatchChange environment state change = editAll environment state change.edits := by
  obtain ⟨profileId, enabled, weight, deviceId, modelId⟩ := change
  simp only [ProfileChange.edits, editAll_append, editAll_toList, applyBatchChange,
    Outcome.andThen_assoc]
  -- Both sides branch on the same four fields.
  cases enabled <;> cases weight <;> cases deviceId <;> cases modelId <;> rfl

theorem applyBatchChanges_eq_editAll (environment : ControlEnvironment) (state : PolicyState)
    (changes : List ProfileChange) :
    applyBatchChanges environment state changes =
      editAll environment state (changes.flatMap ProfileChange.edits) := by
  induction changes generalizing state with
  | nil => rfl
  | cons change changes inductionHypothesis =>
    rw [applyBatchChanges, List.flatMap_cons, editAll_append, applyBatchChange_eq_editAll]
    congr 1
    funext changed
    exact inductionHypothesis changed

/-! ### A single command checks and makes its edit -/

/-- What the command of an edit checks besides the edit's own refusals. -/
def singleAdmitted (environment : ControlEnvironment) (state : PolicyState) : Edit → Bool
  | .enabled _ _ => true
  | .weight _ value => weightInRange value
  | .device profileId _ => knownProfile environment state profileId
  | .model profileId _ => knownProfile environment state profileId
  | .paused _ => true

/-- A single command succeeds exactly when it is admitted and its edit is. -/
theorem execute_single_iff (edit : Edit) :
    execute environment state edit.single = (changed, none) ↔
      singleAdmitted environment state edit = true ∧
        PolicyState.edit environment state edit = (changed, none) := by
  cases edit with
  | enabled profileId value =>
    simp only [Edit.single, execute, singleAdmitted, PolicyState.edit, setPolicy]
    cases state.profiles.get? profileId <;> simp
  | weight profileId value =>
    simp only [Edit.single, execute, singleAdmitted, PolicyState.edit, setPolicy, weightInRange,
      Bool.and_eq_true, decide_eq_true_eq]
    cases state.profiles.get? profileId with
    | none => simp
    | some policy =>
      by_cases inRange : minWeight ≤ value.value ∧ value.value ≤ maxWeight <;> simp [inRange]
  | device profileId value =>
    simp only [Edit.single, execute, singleAdmitted, PolicyState.edit]
    cases knownProfile environment state profileId <;> simp
  | model profileId value =>
    simp only [Edit.single, execute, singleAdmitted, PolicyState.edit]
    cases knownProfile environment state profileId <;> simp
  | paused value => simp [Edit.single, execute, singleAdmitted, PolicyState.edit]

/-- A command that succeeds has made its edits. -/
theorem editAll_of_execute (executed : execute environment state command = (changed, none)) :
    editAll environment state command.edits = (changed, none) := by
  cases command with
  | applyProfiles changes =>
    simp only [execute, applyBatch] at executed
    split at executed
    · cases executed
    · exact (applyBatchChanges_eq_editAll environment state changes).symm.trans executed
  | setProfileConfiguration profileId => exact executed
  | setProfileEnabled profileId value =>
    exact (editAll_singleton _ _ _).trans ((execute_single_iff (.enabled _ _)).mp executed).2
  | setProfileWeight profileId value =>
    exact (editAll_singleton _ _ _).trans ((execute_single_iff (.weight _ _)).mp executed).2
  | setProfileDevice profileId value =>
    exact (editAll_singleton _ _ _).trans ((execute_single_iff (.device _ _)).mp executed).2
  | setProfileModel profileId value =>
    exact (editAll_singleton _ _ _).trans ((execute_single_iff (.model _ _)).mp executed).2
  | setPaused value => exact executed

/-! ### What edits leave alone -/

/-- What every edit preserves, edits made one after another preserve. -/
theorem editAll_invariant {admitted : Edit → Prop} (invariant : PolicyState → Prop)
    (preserved : ∀ state edit changed, invariant state → admitted edit →
      PolicyState.edit environment state edit = (changed, none) → invariant changed)
    {final : PolicyState} {edits : List Edit} (allAdmitted : ∀ edit ∈ edits, admitted edit)
    (initially : invariant state) (made : editAll environment state edits = (final, none)) :
    invariant final := by
  induction edits generalizing state with
  | nil => exact (Prod.mk.inj made).1 ▸ initially
  | cons first rest inductionHypothesis =>
    obtain ⟨middle, firstMade, restMade⟩ := Outcome.andThen_eq_accepted made
    exact inductionHypothesis (fun edit member => allAdmitted edit (List.mem_cons_of_mem _ member))
      (preserved state first middle initially (allAdmitted first List.mem_cons_self) firstMade)
      restMade

/-- The policy with another revision. -/
def atRevision (state : PolicyState) (revision : Nat) : PolicyState :=
  { state with revision := revision }

@[simp] theorem atRevision_self (state : PolicyState) : state.atRevision state.revision = state :=
  rfl

@[simp] theorem atRevision_atRevision (state : PolicyState) (first second : Nat) :
    (state.atRevision first).atRevision second = state.atRevision second := rfl

/-- An outcome with another revision. -/
def Outcome.atRevision (outcome : Outcome) (revision : Nat) : Outcome :=
  (outcome.1.atRevision revision, outcome.2)

theorem setPolicy_atRevision (state : PolicyState) (revision : Nat) (profileId : String)
    (change : ProfilePolicy → ProfilePolicy) (missing : String) :
    (state.atRevision revision).setPolicy profileId change missing =
      Outcome.atRevision (state.setPolicy profileId change missing) revision := by
  simp only [setPolicy, PolicyState.atRevision]
  cases state.profiles.get? profileId <;> rfl

theorem setProfileDevice_atRevision (environment : ControlEnvironment) (state : PolicyState)
    (revision : Nat) (profileId : String) (deviceId : Option String) :
    setProfileDevice environment (state.atRevision revision) profileId deviceId =
      Outcome.atRevision (setProfileDevice environment state profileId deviceId) revision := by
  simp only [setProfileDevice, PolicyState.atRevision]
  split <;> rfl

theorem setProfileModel_atRevision (environment : ControlEnvironment) (state : PolicyState)
    (revision : Nat) (profileId : String) (modelId : Option String) :
    setProfileModel environment (state.atRevision revision) profileId modelId =
      Outcome.atRevision (setProfileModel environment state profileId modelId) revision := by
  simp only [setProfileModel, PolicyState.atRevision]
  split <;> rfl

/-- No edit looks at the revision. -/
theorem edit_atRevision (environment : ControlEnvironment) (state : PolicyState) (revision : Nat)
    (edit : Edit) :
    PolicyState.edit environment (state.atRevision revision) edit =
      Outcome.atRevision (PolicyState.edit environment state edit) revision := by
  cases edit with
  | enabled profileId value => exact setPolicy_atRevision _ _ _ _ _
  | weight profileId value => exact setPolicy_atRevision _ _ _ _ _
  | device profileId value => exact setProfileDevice_atRevision _ _ _ _ _
  | model profileId value => exact setProfileModel_atRevision _ _ _ _ _
  | paused value => rfl

theorem edit_atRevision_of_accepted {edit : Edit}
    (made : PolicyState.edit environment state edit = (changed, none)) (revision : Nat) :
    PolicyState.edit environment (state.atRevision revision) edit =
      (changed.atRevision revision, none) := by
  rw [edit_atRevision, made]
  rfl

/-! ### Committing a command -/

theorem candidate_eq_ok_iff :
    candidate environment state command = .ok changed ↔
      ∃ executed, execute environment state command = (executed, none) ∧
        changed = executed.atRevision (executed.revision + 1) := by
  unfold candidate
  split
  · rename_i message executes
    simp [executes]
  · rename_i executed executes
    simp only [executes, Except.ok.injEq, Prod.mk.injEq, and_true, exists_eq_left']
    exact eq_comm

/-- A refusal leaves the served policy as it was, however far the copy had been changed. -/
theorem applyLocked_refused {served next : PolicyState} {expectedRevision : JsonInteger}
    {storeConfiguration : Option String} {saves : Bool} {message : String}
    (refused : applyLocked environment served expectedRevision command storeConfiguration saves =
      (next, some message)) : next = served := by
  unfold applyLocked at refused
  split at refused
  · exact (Prod.mk.inj refused).1.symm
  · split at refused
    · exact (Prod.mk.inj refused).1.symm
    · unfold commit at refused
      split at refused
      · cases refused
      · split at refused
        · cases refused
        · exact (Prod.mk.inj refused).1.symm

end PolicyState

end Omnitensor
