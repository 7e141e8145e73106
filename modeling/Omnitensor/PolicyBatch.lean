/-
This file proves that a batch means what its items mean one at a time.

A batch checks all its changes against the policy it starts from, while single commands
check against a policy that the earlier ones have changed. The two checks agree: no edit
changes which profiles have a policy, and an edit makes a profile known through a choice
only if it was known before. Once the checks pass, a batch and the singles make the same
edits, and the singles differ in the revisions they spend.

A change that carries no field has no single command at all, and a batch with such a
change is refused on purpose.
-/

import Omnitensor.PolicyEdit

namespace Omnitensor

/-- The single commands for the fields a change carries. -/
def ProfileChange.singles (change : ProfileChange) : List Command := change.edits.map Edit.single

/-- The fields of a change are absent exactly when it has no edit. -/
theorem ProfileChange.edits_eq_nil_iff {change : ProfileChange} :
    change.edits = [] ↔ change.enabled = none ∧ change.weight = none ∧ change.deviceId = none ∧
      change.modelId = none := by
  simp [edits]

namespace PolicyState

/-! ### Known profiles -/

variable {environment : ControlEnvironment} {state changed final : PolicyState} {edit : Edit}
  {changes : List ProfileChange} {profileId : String} {change : ProfileChange}

theorem knownProfile_iff :
    knownProfile environment state profileId = true ↔
      profileId ∈ state.profiles.keys ∨ profileId ∈ state.deviceChoices.keys ∨
        profileId ∈ state.modelChoices.keys ∨
        ∃ profileExists, environment.profileExists = some profileExists ∧
          profileExists profileId = true := by
  simp only [knownProfile, Bool.or_eq_true, Dict.contains_iff, or_assoc]
  cases environment.profileExists <;> simp

/-- A policy that was changed into another without adding a profile or making one known. -/
structure Narrows (environment : ControlEnvironment) (state changed : PolicyState) : Prop where
  profiles : changed.profiles.keys = state.profiles.keys
  known : ∀ profileId, knownProfile environment changed profileId = true →
    knownProfile environment state profileId = true

theorem Narrows.refl (environment : ControlEnvironment) (state : PolicyState) :
    Narrows environment state state := ⟨rfl, fun _ known => known⟩

theorem Narrows.trans {first second third : PolicyState} (before : Narrows environment first second)
    (after : Narrows environment second third) : Narrows environment first third :=
  ⟨after.profiles.trans before.profiles,
    fun profileId known => before.known profileId (after.known profileId known)⟩

theorem Narrows.atRevision (narrows : Narrows environment state changed) (revision : Nat) :
    Narrows environment state (changed.atRevision revision) := ⟨narrows.profiles, narrows.known⟩

theorem Narrows.mem_profiles (narrows : Narrows environment state changed)
    (member : profileId ∈ changed.profiles.keys) : profileId ∈ state.profiles.keys := by
  rwa [narrows.profiles] at member

theorem narrows_of_setPolicy (environment : ControlEnvironment) {missing : String}
    {change : ProfilePolicy → ProfilePolicy}
    (made : state.setPolicy profileId change missing = (changed, none)) :
    Narrows environment state changed := by
  obtain ⟨policy, found, rfl⟩ := setPolicy_eq_accepted made
  have keys := Dict.keys_set_of_mem (change policy) (Dict.mem_keys_of_get? found)
  refine ⟨keys, fun profileId known => ?_⟩
  rw [knownProfile_iff] at known ⊢
  rwa [keys] at known

/-- A single command that succeeds makes no profile known that was not. -/
theorem narrows_of_single (admitted : singleAdmitted environment state edit = true)
    (made : PolicyState.edit environment state edit = (changed, none)) :
    Narrows environment state changed := by
  cases edit with
  | enabled profileId value => exact narrows_of_setPolicy environment made
  | weight profileId value => exact narrows_of_setPolicy environment made
  | device profileId value =>
    obtain ⟨choices, updated, rfl⟩ := setProfileDevice_eq_accepted made
    refine ⟨rfl, fun other known => ?_⟩
    rw [knownProfile_iff] at known
    rcases known with profile | device | model | exists_
    · exact knownProfile_iff.mpr (Or.inl profile)
    · rcases mem_keys_updateChoices updated device with rfl | member
      · exact admitted
      · exact knownProfile_iff.mpr (Or.inr (Or.inl member))
    · exact knownProfile_iff.mpr (Or.inr (Or.inr (Or.inl model)))
    · exact knownProfile_iff.mpr (Or.inr (Or.inr (Or.inr exists_)))
  | model profileId value =>
    obtain ⟨choices, updated, rfl⟩ := setProfileModel_eq_accepted made
    refine ⟨rfl, fun other known => ?_⟩
    rw [knownProfile_iff] at known
    rcases known with profile | device | model | exists_
    · exact knownProfile_iff.mpr (Or.inl profile)
    · exact knownProfile_iff.mpr (Or.inr (Or.inl device))
    · rcases mem_keys_updateChoices updated model with rfl | member
      · exact admitted
      · exact knownProfile_iff.mpr (Or.inr (Or.inr (Or.inl member)))
    · exact knownProfile_iff.mpr (Or.inr (Or.inr (Or.inr exists_)))
  | paused value =>
    cases made
    exact ⟨rfl, fun _ known => known⟩

/-! ### Singles one after another -/

/-- Execute commands one after another, each as a commit of its own. -/
def runSingles (environment : ControlEnvironment) (state : PolicyState) (commands : List Command) :
    Except String PolicyState :=
  commands.foldlM (candidate environment) state

theorem runSingles_cons_eq_ok {command : Command} {commands : List Command}
    (ran : runSingles environment state (command :: commands) = .ok final) :
    ∃ changed, candidate environment state command = .ok changed ∧
      runSingles environment changed commands = .ok final := by
  rw [runSingles, List.foldlM_cons] at ran
  cases first : candidate environment state command with
  | error message =>
    rw [first] at ran
    cases ran
  | ok changed =>
    rw [first] at ran
    exact ⟨changed, rfl, ran⟩

/-- A single command that succeeds makes its edit and spends one revision. -/
theorem candidate_single_eq_ok (ran : candidate environment state edit.single = .ok changed) :
    singleAdmitted environment state edit = true ∧
      ∃ made, PolicyState.edit environment state edit = (made, none) ∧
        changed = made.atRevision (made.revision + 1) := by
  obtain ⟨made, executed, spent⟩ := candidate_eq_ok_iff.mp ran
  obtain ⟨admitted, edited⟩ := (execute_single_iff edit).mp executed
  exact ⟨admitted, made, edited, spent⟩

/-- Singles that succeed make the same edits at any revision. -/
theorem editAll_of_runSingles {edits : List Edit}
    (ran : runSingles environment state (edits.map Edit.single) = .ok final) (revision : Nat) :
    editAll environment (state.atRevision revision) edits = (final.atRevision revision, none) := by
  induction edits generalizing state with
  | nil =>
    obtain rfl := Except.ok.inj ran
    rfl
  | cons edit edits inductionHypothesis =>
    obtain ⟨changed, first, rest⟩ := runSingles_cons_eq_ok ran
    obtain ⟨_, made, edited, rfl⟩ := candidate_single_eq_ok first
    rw [editAll, edit_atRevision_of_accepted edited, Outcome.andThen_accepted,
      ← inductionHypothesis rest, atRevision_atRevision]

/-- Each of a run of successful singles was made on a policy the first one narrows to. -/
theorem runSingles_each {edits : List Edit}
    (ran : runSingles environment state (edits.map Edit.single) = .ok final) (member : edit ∈ edits) :
    ∃ before made, Narrows environment state before ∧
      singleAdmitted environment before edit = true ∧
      PolicyState.edit environment before edit = (made, none) := by
  induction edits generalizing state with
  | nil => cases member
  | cons first rest inductionHypothesis =>
    obtain ⟨changed, ranFirst, ranRest⟩ := runSingles_cons_eq_ok ran
    obtain ⟨admitted, made, edited, rfl⟩ := candidate_single_eq_ok ranFirst
    rcases List.mem_cons.mp member with rfl | later
    · exact ⟨state, made, Narrows.refl environment state, admitted, edited⟩
    · obtain ⟨before, after, narrows, admits, makes⟩ := inductionHypothesis ranRest later
      have step := (narrows_of_single admitted edited).atRevision (made.revision + 1)
      exact ⟨before, after, step.trans narrows, admits, makes⟩

/-! ### The check of a batch -/

/-- What the check of a batch asks of the profile an edit is about. -/
def checkedAtStart (environment : ControlEnvironment) (state : PolicyState) : Edit → Prop
  | .enabled profileId _ => profileId ∈ state.profiles.keys
  | .weight profileId _ => profileId ∈ state.profiles.keys
  | .device profileId value =>
    knownProfile environment state profileId = true ∧ deviceChoiceError environment value = none
  | .model profileId value =>
    knownProfile environment state profileId = true ∧
      modelChoiceError environment profileId value = none
  | .paused _ => True

/-- A single that succeeds on a narrower policy passes the check at the start. -/
theorem checkedAtStart_of_single {before made : PolicyState}
    (narrows : Narrows environment state before)
    (admitted : singleAdmitted environment before edit = true)
    (edited : PolicyState.edit environment before edit = (made, none)) :
    checkedAtStart environment state edit := by
  cases edit with
  | enabled profileId value =>
    obtain ⟨policy, found, _⟩ := setPolicy_eq_accepted edited
    exact narrows.mem_profiles (Dict.mem_keys_of_get? found)
  | weight profileId value =>
    obtain ⟨policy, found, _⟩ := setPolicy_eq_accepted edited
    exact narrows.mem_profiles (Dict.mem_keys_of_get? found)
  | device profileId value =>
    obtain ⟨choices, updated, rfl⟩ := setProfileDevice_eq_accepted edited
    exact ⟨narrows.known profileId admitted, (updateChoices_eq_ok updated).1⟩
  | model profileId value =>
    obtain ⟨choices, updated, rfl⟩ := setProfileModel_eq_accepted edited
    exact ⟨narrows.known profileId admitted, (updateChoices_eq_ok updated).1⟩
  | paused value => exact trivial

/-- A change passes the check when it has an edit and each edit does. -/
theorem batchError_eq_none (carries : change.edits ≠ [])
    (checked : ∀ edit ∈ change.edits, checkedAtStart environment state edit) :
    batchError environment state change = none := by
  obtain ⟨profileId, enabled, weight, deviceId, modelId⟩ := change
  have policyPresent : (enabled.isSome || weight.isSome) = true →
      state.profiles.contains profileId = true := by
    intro either
    rw [Dict.contains_iff]
    rcases Bool.or_eq_true_iff.mp either with some | some
    · obtain ⟨value, rfl⟩ := Option.isSome_iff_exists.mp some
      exact checked (.enabled profileId value) (by simp [ProfileChange.edits])
    · obtain ⟨value, rfl⟩ := Option.isSome_iff_exists.mp some
      exact checked (.weight profileId value) (by simp [ProfileChange.edits])
  have deviceFine : deviceId.bind (deviceChoiceError environment) = none := by
    cases deviceId with
    | none => rfl
    | some value => exact (checked (.device profileId value) (by simp [ProfileChange.edits])).2
  have modelFine : modelId.bind (modelChoiceError environment profileId) = none := by
    cases modelId with
    | none => rfl
    | some value => exact (checked (.model profileId value) (by simp [ProfileChange.edits])).2
  have known : knownProfile environment state profileId = true := by
    obtain ⟨edit, member⟩ := List.exists_mem_of_ne_nil _ carries
    have check := checked edit member
    simp only [ProfileChange.edits, List.mem_append, Option.mem_toList,
      Option.map_eq_some_iff] at member
    rcases member with ⟨_, _, rfl⟩ | ⟨_, _, rfl⟩ | ⟨_, _, rfl⟩ | ⟨_, _, rfl⟩
    · exact knownProfile_iff.mpr (Or.inl check)
    · exact knownProfile_iff.mpr (Or.inl check)
    · exact check.1
    · exact check.1
  have nonempty : (enabled.isNone && weight.isNone && deviceId.isNone && modelId.isNone) = false := by
    rw [← Bool.not_eq_true]
    intro none
    simp only [Bool.and_eq_true, Option.isNone_iff_eq_none] at none
    exact carries (ProfileChange.edits_eq_nil_iff.mpr
      ⟨none.1.1.1, none.1.1.2, none.1.2, none.2⟩)
  have governed : ((enabled.isSome || weight.isSome) && !state.profiles.contains profileId) = false := by
    cases either : enabled.isSome || weight.isSome with
    | false => rfl
    | true => rw [policyPresent either]; rfl
  simp only [batchError, known, nonempty, governed, deviceFine, modelFine, Bool.not_true,
    Bool.false_eq_true, if_false]

/-- A change without an edit never passes the check. -/
theorem batchError_of_edits_eq_nil (environment : ControlEnvironment) (state : PolicyState)
    (empty : change.edits = []) : batchError environment state change ≠ none := by
  obtain ⟨enabled, weight, device, model⟩ := ProfileChange.edits_eq_nil_iff.mp empty
  simp only [batchError, enabled, weight, device, model, Option.isNone_none, Bool.and_self,
    if_true]
  split <;> simp

/-- The candidate of a batch: its check passes and its edits are made. -/
theorem candidate_applyProfiles_eq_ok_iff :
    candidate environment state (.applyProfiles changes) = .ok changed ↔
      (∀ change ∈ changes, batchError environment state change = none) ∧
        ∃ made, editAll environment state (changes.flatMap ProfileChange.edits) = (made, none) ∧
          changed = made.atRevision (made.revision + 1) := by
  rw [candidate_eq_ok_iff, ← List.findSome?_eq_none_iff, ← applyBatchChanges_eq_editAll]
  simp only [execute, applyBatch]
  cases changes.findSome? (batchError environment state) with
  | some error => simp
  | none => simp

/-! ### A batch and its singles -/

/-- When the singles succeed, the check of the batch passes unless a change carries nothing. -/
theorem batchError_of_runSingles
    (ran : runSingles environment state (changes.flatMap ProfileChange.singles) = .ok final)
    (member : change ∈ changes) (carries : change.edits ≠ []) :
    batchError environment state change = none := by
  refine batchError_eq_none carries fun edit inside => ?_
  rw [show changes.flatMap ProfileChange.singles =
    (changes.flatMap ProfileChange.edits).map Edit.single from List.map_flatMap.symm] at ran
  obtain ⟨before, made, narrows, admitted, edited⟩ :=
    runSingles_each ran (List.mem_flatMap.mpr ⟨change, member, inside⟩)
  exact checkedAtStart_of_single narrows admitted edited

/-- The edits of a batch whose singles succeed, made on the policy it starts from. -/
theorem editAll_of_singles
    (ran : runSingles environment state (changes.flatMap ProfileChange.singles) = .ok final) :
    editAll environment state (changes.flatMap ProfileChange.edits) =
      (final.atRevision state.revision, none) := by
  rw [show changes.flatMap ProfileChange.singles =
    (changes.flatMap ProfileChange.edits).map Edit.single from List.map_flatMap.symm] at ran
  exact editAll_of_runSingles ran state.revision

/-- The candidate of a batch whose singles succeed: what they lead to, one revision on. -/
theorem candidate_of_singles {batched : PolicyState}
    (ran : runSingles environment state (changes.flatMap ProfileChange.singles) = .ok final)
    (succeeds : candidate environment state (.applyProfiles changes) = .ok batched) :
    batched = final.atRevision (state.revision + 1) := by
  obtain ⟨_, made, edited, rfl⟩ := candidate_applyProfiles_eq_ok_iff.mp succeeds
  rw [editAll_of_singles ran] at edited
  obtain rfl := (Prod.mk.inj edited).1
  rfl

/-- A batch means what its items mean one at a time. When the singles succeed, the batch
succeeds exactly when each of its changes carries a field. When both succeed, they lead to the same
policy, and the batch spends one revision. A refused batch leaves the served policy alone. -/
theorem batch_refines_singles (environment : ControlEnvironment) (state : PolicyState)
    (changes : List ProfileChange) :
    (∀ final, runSingles environment state (changes.flatMap ProfileChange.singles) = .ok final →
      ((∃ batched, candidate environment state (.applyProfiles changes) = .ok batched) ↔
        ∀ change ∈ changes, change.singles ≠ [])) ∧
    (∀ final batched,
      runSingles environment state (changes.flatMap ProfileChange.singles) = .ok final →
      candidate environment state (.applyProfiles changes) = .ok batched →
      batched.profiles = final.profiles ∧ batched.deviceChoices = final.deviceChoices ∧
        batched.modelChoices = final.modelChoices ∧ batched.paused = final.paused ∧
        batched.revision = state.revision + 1) ∧
    ∀ expectedRevision storeConfiguration saves next message,
      applyLocked environment state expectedRevision (.applyProfiles changes) storeConfiguration
        saves = (next, some message) → next = state := by
  refine ⟨fun final ran => ⟨?_, fun carry => ?_⟩, fun final batched ran succeeds => ?_,
    fun _ _ _ _ _ refused => applyLocked_refused refused⟩
  · rintro ⟨batched, succeeds⟩ change member empty
    have passes := (candidate_applyProfiles_eq_ok_iff.mp succeeds).1 change member
    exact batchError_of_edits_eq_nil environment state (List.map_eq_nil_iff.mp empty) passes
  · refine ⟨_, candidate_applyProfiles_eq_ok_iff.mpr
      ⟨fun change member => ?_, _, editAll_of_singles ran, rfl⟩⟩
    exact batchError_of_runSingles ran member fun none => carry change member
      (List.map_eq_nil_iff.mpr none)
  · obtain rfl := candidate_of_singles ran succeeds
    exact ⟨rfl, rfl, rfl, rfl, rfl⟩

/-! ### Two batches -/

/-- A runtime with one GPU and one profile whose workload declares one model. -/
def oneGpu : ControlEnvironment where
  profileExists := none
  gpuDeviceIds := ["gpu-renderD128"]
  profileModels := fun profileId => if profileId = "vision" then ["vision-int8"] else []

/-- The policy of that runtime. -/
def oneProfile : PolicyState where
  paused := false
  profiles := Dict.empty.set "vision" { enabled := true, weight := .integer 1 }
  deviceChoices := Dict.empty
  modelChoices := Dict.empty
  revision := 7

/-- Changes of one profile that undo one another. -/
def interactingChanges : List ProfileChange :=
  [{ profileId := "vision", enabled := some false, weight := some (.float 3),
     deviceId := some (some "gpu-renderD128"), modelId := none },
   { profileId := "vision", enabled := some true, weight := none, deviceId := some none,
     modelId := some (some "vision-int8") }]

/-- What the singles of these changes lead to, after six revisions. -/
def interactingPolicy : PolicyState where
  paused := false
  profiles := Dict.empty.set "vision" { enabled := true, weight := .integer 3 }
  deviceChoices := Dict.empty
  modelChoices := Dict.empty.set "vision" "vision-int8"
  revision := 13

/-- The batch of these changes succeeds, since its singles do. -/
theorem batch_refines_singles_interacting :
    runSingles oneGpu oneProfile (interactingChanges.flatMap ProfileChange.singles) =
        .ok interactingPolicy ∧
      ∃ batched,
        candidate oneGpu oneProfile (.applyProfiles interactingChanges) = .ok batched := by
  have ran : runSingles oneGpu oneProfile (interactingChanges.flatMap ProfileChange.singles) =
      .ok interactingPolicy := by decide +kernel
  exact ⟨ran, ((batch_refines_singles oneGpu oneProfile interactingChanges).1 _ ran).mpr
    (by decide +kernel)⟩

/-- A valid batch with a change that carries nothing is refused, though its only single
succeeds. -/
theorem not_batch_of_singles :
    ¬ ∀ (environment : ControlEnvironment) (state : PolicyState) (changes : List ProfileChange),
      (Command.applyProfiles changes).schemaValid = true →
      (∃ final,
        runSingles environment state (changes.flatMap ProfileChange.singles) = .ok final) →
      ∃ batched, candidate environment state (.applyProfiles changes) = .ok batched := by
  intro claim
  obtain ⟨batched, succeeds⟩ := claim oneGpu oneProfile
    [{ profileId := "vision", enabled := some false, weight := none, deviceId := none,
       modelId := none },
     { profileId := "vision", enabled := none, weight := none, deviceId := none, modelId := none }]
    (by decide +kernel) ⟨_, rfl⟩
  cases succeeds

end PolicyState

end Omnitensor
