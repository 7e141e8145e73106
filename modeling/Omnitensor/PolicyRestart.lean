/-
This file proves what a restart makes of the policy.

Commands and adoptions admit values by the schema and by what the runtime publishes, and
the loader admits them once more by patterns and bounds of its own. `Storable` collects
what the first filter guarantees of every policy reached, and all of it passes the second
one but for one thing: the schema's pattern of a model id accepts a newline at the end and the
loader's does not. So a policy survives a restart exactly when no chosen model id ends in a newline.
-/

import Omnitensor.Machine
import Omnitensor.PolicyEdit
import Omnitensor.PolicyStore
import Mathlib.Data.List.Dedup

namespace Omnitensor

/-! ### Patterns -/

namespace Pattern

variable {text : String} {pattern : String → Bool}

theorem search_of_match (matched : pattern text = true) : search pattern text = true := by
  rw [search, matched, Bool.true_or]

/-- A pattern that is found is matched, unless a newline follows. -/
theorem match_of_search (found : search pattern text = true) (plain : endsInNewline text = false) :
    pattern text = true := by
  rwa [search, plain, Bool.false_and, Bool.or_false] at found

/-- Every character of a match belongs to one of the two classes. -/
theorem class_of_mem_leading {first rest : Char → Bool} {limit : Nat} {chars : List Char}
    (matched : leading first rest limit chars = true) {char : Char} (member : char ∈ chars) :
    first char = true ∨ rest char = true := by
  cases chars with
  | nil => cases member
  | cons head tail =>
    simp only [leading, Bool.and_eq_true, List.all_eq_true] at matched
    rcases List.mem_cons.mp member with rfl | inside
    · exact Or.inl matched.1.1
    · exact Or.inr (matched.1.2 char inside)

theorem endsInNewline_of_modelId (matched : modelId text = true) : endsInNewline text = false := by
  refine decide_eq_false fun last => ?_
  rcases class_of_mem_leading matched (List.mem_of_getLast? last) with first | rest
  · revert first
    decide
  · revert rest
    decide

theorem class_of_identifierTail {chars : List Char} (tail : identifierTail chars = true) :
    ∀ char ∈ chars, alphanumeric char = true ∨ char = '-' := by
  fun_induction identifierTail chars with
  | case1 => exact fun char member => absurd member List.not_mem_nil
  | case2 next rest inductionHypothesis =>
    obtain ⟨alphanumeric, rest⟩ := Bool.and_eq_true_iff.mp tail
    intro char member
    rcases List.mem_cons.mp member with rfl | later
    · exact Or.inr rfl
    · rcases List.mem_cons.mp later with rfl | inside
      · exact Or.inl alphanumeric
      · exact inductionHypothesis rest char inside
  | case3 next rest _ inductionHypothesis =>
    obtain ⟨alphanumeric, rest⟩ := Bool.and_eq_true_iff.mp tail
    intro char member
    rcases List.mem_cons.mp member with rfl | inside
    · exact Or.inl alphanumeric
    · exact inductionHypothesis rest char inside

/-- The id of a plugin or a workload, of the length the manifest allows, is one the store keeps. -/
theorem profileId_of_identifier (matched : identifier text = true) (short : text.length ≤ 80) :
    profileId text = true := by
  rw [← String.length_toList] at short
  unfold identifier at matched
  unfold profileId
  split at matched
  · cases matched
  · rename_i char chars written
    rw [written] at short ⊢
    obtain ⟨first, tail⟩ := Bool.and_eq_true_iff.mp matched
    simp only [leading, Bool.and_eq_true, List.all_eq_true, decide_eq_true_eq]
    refine ⟨⟨first, fun other member => ?_⟩, Nat.le_of_succ_le_succ short⟩
    rcases class_of_identifierTail tail other member with isAlphanumeric | isHyphen
    · simp [isAlphanumeric]
    · simp [isHyphen]

end Pattern

/-! ### What the loader accepts of a table of choices -/

/-- A table of choices of which the pairs are well formed, up to a pattern, and that is not too
large. -/
structure StorableChoices (pattern : String → Bool) (limit : Nat)
    (choices : Dict String String) : Prop where
  size : choices.size ≤ limit
  valid : ∀ profileId value, choices.get? profileId = some value →
    profileIdLength profileId = true ∧ pattern value = true

namespace StorableChoices

variable {pattern : String → Bool} {limit : Nat} {choices updated : Dict String String}

theorem weaken {weaker : String → Bool} (storable : StorableChoices pattern limit choices)
    (implied : ∀ value, pattern value = true → weaker value = true) :
    StorableChoices weaker limit choices where
  size := storable.size
  valid profileId value found :=
    ⟨(storable.valid profileId value found).1, implied value (storable.valid profileId value found).2⟩

theorem updateChoices {error value : Option String} {full profileId : String}
    (storable : StorableChoices pattern limit choices)
    (made : PolicyState.updateChoices choices limit error full profileId value = .ok updated)
    (idValid : profileIdLength profileId = true)
    (valueValid : ∀ chosen, value = some chosen → pattern chosen = true) :
    StorableChoices pattern limit updated := by
  rcases (PolicyState.updateChoices_eq_ok made).2 with ⟨_, rfl⟩ | ⟨chosen, isChosen, room, rfl⟩
  · refine ⟨Nat.le_trans (Dict.size_erase_le _ _) storable.size, fun other stored found => ?_⟩
    rw [Dict.get?_erase] at found
    split at found
    · cases found
    · exact storable.valid other stored found
  · constructor
    · rw [Dict.size_set]
      split
      · exact storable.size
      · rename_i absent
        exact room.resolve_left absent
    · intro other stored found
      rw [Dict.get?_set] at found
      split at found
      · rename_i same
        cases found
        exact ⟨same ▸ idValid, valueValid _ isChosen⟩
      · exact storable.valid other stored found

theorem sanitizedChoices (pattern : String → Bool) (limit : Nat)
    (supplied : Option (Node ProfileDocument)) :
    StorableChoices pattern limit (PolicyStore.sanitizedChoices pattern limit supplied) where
  size := Dict.size_take_le _ _
  valid profileId value found := by
    have selected := Dict.get?_of_get?_take found
    rw [Dict.get?_filterMap, Option.bind_eq_some_iff] at selected
    obtain ⟨stored, _, sanitized⟩ := selected
    unfold PolicyStore.sanitizedChoice at sanitized
    split at sanitized
    · split at sanitized
      · rename_i accepted
        cases sanitized
        exact Bool.and_eq_true_iff.mp accepted
      · cases sanitized
    · cases sanitized

/-- Choices that are written and read again: those whose value matches the pattern are left. -/
theorem get?_sanitizedChoices {accepted : String → Bool}
    (storable : StorableChoices pattern limit choices) (profileId : String) :
    (PolicyStore.sanitizedChoices accepted limit
      (some (PolicyStore.choicesDocument choices))).get? profileId =
        (choices.get? profileId).filter accepted := by
  have small : ((PolicyStore.sortedItems (Node.fields (some
      (PolicyStore.choicesDocument choices)))).filterMap
        (PolicyStore.sanitizedChoice accepted)).size ≤ limit := by
    refine Nat.le_trans (Dict.size_filterMap_le _ _) ?_
    simp only [PolicyStore.choicesDocument, Node.fields, PolicyStore.sortedItems, Dict.size_sortBy,
      Dict.size_mapValues]
    exact storable.size
  rw [PolicyStore.sanitizedChoices, Dict.take_of_size_le small, Dict.get?_filterMap]
  simp only [PolicyStore.choicesDocument, Node.fields, PolicyStore.sortedItems, Dict.get?_sortBy,
    Dict.get?_mapValues]
  cases found : choices.get? profileId with
  | none => rfl
  | some value =>
    have idValid := (storable.valid profileId value found).1
    simp only [Option.map_some, Option.bind_some, PolicyStore.sanitizedChoice, idValid,
      Bool.true_and, Option.filter_some]

end StorableChoices

/-! ### What the loader accepts of a weight -/

/-- A weight that a profile keeps when it is stored: an integer, or what the catalog gives it. -/
def StorableWeight (fallback : Option ProfilePolicy) (weight : JsonInteger) : Prop :=
  weightInRange weight = true ∧
    ((∃ value, weight = .integer value) ∨ ∃ policy, fallback = some policy ∧ weight = policy.weight)

theorem weightInRange_integer {value : Int} :
    weightInRange (.integer value) = true ↔ minWeight ≤ value ∧ value ≤ maxWeight := by
  rw [weightInRange, Bool.and_eq_true_iff, decide_eq_true_iff, decide_eq_true_iff]
  rfl

namespace StorableWeight

variable {fallback : Option ProfilePolicy}

theorem integer {value : Int} (inRange : weightInRange (.integer value) = true) :
    StorableWeight fallback (.integer value) :=
  ⟨inRange, Or.inl ⟨value, rfl⟩⟩

/-- Whatever is read is a weight to keep, when what it gives way to is. -/
theorem clampWeight {default : JsonInteger} (storable : StorableWeight fallback default)
    (value : Option Leaf) : StorableWeight fallback (PolicyStore.clampWeight value default) := by
  unfold PolicyStore.clampWeight
  split
  · refine integer (weightInRange_integer.mpr ?_)
    simp only [minWeight, maxWeight]
    omega
  · exact storable

/-- Such a weight is read as it was written. -/
theorem clampWeight_weightLeaf {weight : JsonInteger} (storable : StorableWeight fallback weight)
    {default : JsonInteger} (given : ∀ policy, fallback = some policy → policy.weight = default) :
    PolicyStore.clampWeight (some (PolicyStore.weightLeaf weight)) default = weight := by
  obtain ⟨inRange, ⟨value, rfl⟩ | ⟨policy, present, rfl⟩⟩ := storable
  · have bounds := weightInRange_integer.mp inRange
    simp only [PolicyStore.weightLeaf, PolicyStore.clampWeight, JsonInteger.integer.injEq]
    omega
  · have same := given policy present
    cases written : policy.weight with
    | integer value =>
      rw [written] at inRange
      have bounds := weightInRange_integer.mp inRange
      simp only [PolicyStore.weightLeaf, PolicyStore.clampWeight, JsonInteger.integer.injEq]
      omega
    | float value => exact same.symm.trans written

end StorableWeight

/-! ### Storable policies -/

/-- What commands and adoptions keep true of a policy that was loaded, when the model ids they
choose are accepted. -/
structure Storable (defaults : PolicyDefaults) (accepted : String → Bool) (state : PolicyState) :
    Prop where
  governed : ∀ profileId, profileId ∈ defaults.profiles.keys → profileId ∈ state.profiles.keys
  profileIds : ∀ profileId, profileId ∈ state.profiles.keys →
    profileId ∈ defaults.profiles.keys ∨ Pattern.profileId profileId = true
  weights : ∀ profileId policy, state.profiles.get? profileId = some policy →
    StorableWeight (defaults.profiles.get? profileId) policy.weight
  devices : StorableChoices Pattern.gpuDeviceId maxDeviceChoices state.deviceChoices
  models : StorableChoices accepted maxModelChoices state.modelChoices

namespace PolicyStore

/-- The document's entries for profiles. -/
def suppliedProfiles (file : Option PolicyDocument) : Dict String ProfileDocument :=
  Node.fields ((Node.fields file).get? "profiles")

theorem get?_load_profiles (defaults : PolicyDefaults) (file : Option PolicyDocument)
    (profileId : String) :
    (load defaults file).profiles.get? profileId =
      ((defaults.profiles.get? profileId).map
        (storedPolicy (Node.fields ((suppliedProfiles file).get? profileId)))).or
          (((suppliedProfiles file).get? profileId).bind (adoptedPolicy profileId)) := by
  simp only [load, adoptStoredProfiles, Dict.get?_adoptMissing, Dict.get?_mapValues, sortedItems,
    Dict.get?_sortBy]
  rfl

theorem storableWeight_storedPolicy {fallback : Option ProfilePolicy} {default : ProfilePolicy}
    (storable : StorableWeight fallback default.weight) (fields : Dict String Leaf) :
    StorableWeight fallback (storedPolicy fields default).weight :=
  storable.clampWeight _

theorem adoptedPolicy_eq_some {profileId : String} {entry : ProfileDocument}
    {policy : ProfilePolicy} (adopted : adoptedPolicy profileId entry = some policy) :
    Pattern.profileId profileId = true ∧
      ∃ fields, policy = storedPolicy fields { enabled := true, weight := .integer minWeight } := by
  unfold adoptedPolicy at adopted
  split at adopted
  · cases adopted
  · rename_i fields
    split at adopted
    · rename_i accepted
      exact ⟨accepted, fields, (Option.some.inj adopted).symm⟩
    · cases adopted

/-- Whatever the file holds, the policy loaded is storable. -/
theorem storable_load {accepted : String → Bool}
    (implied : ∀ modelId, Pattern.modelId modelId = true → accepted modelId = true)
    (defaults : PolicyDefaults) (file : Option PolicyDocument) :
    Storable defaults accepted (load defaults file) where
  governed profileId member := by
    obtain ⟨default, found⟩ := Dict.mem_keys_iff.mp member
    have loaded := get?_load_profiles defaults file profileId
    rw [found, Option.map_some, Option.some_or] at loaded
    exact Dict.mem_keys_of_get? loaded
  profileIds profileId member := by
    obtain ⟨policy, loaded⟩ := Dict.mem_keys_iff.mp member
    rw [get?_load_profiles] at loaded
    cases found : defaults.profiles.get? profileId with
    | some default => exact Or.inl (Dict.mem_keys_of_get? found)
    | none =>
      rw [found, Option.map_none, Option.none_or, Option.bind_eq_some_iff] at loaded
      obtain ⟨entry, _, adopted⟩ := loaded
      exact Or.inr (adoptedPolicy_eq_some adopted).1
  weights profileId policy loaded := by
    rw [get?_load_profiles] at loaded
    cases found : defaults.profiles.get? profileId with
    | some default =>
      rw [found, Option.map_some, Option.some_or, Option.some.injEq] at loaded
      subst loaded
      exact storableWeight_storedPolicy
        ⟨defaults.inRange profileId default found, Or.inr ⟨default, rfl, rfl⟩⟩ _
    | none =>
      rw [found, Option.map_none, Option.none_or, Option.bind_eq_some_iff] at loaded
      obtain ⟨entry, _, adopted⟩ := loaded
      obtain ⟨_, fields, rfl⟩ := adoptedPolicy_eq_some adopted
      exact storableWeight_storedPolicy (.integer (by decide)) fields
  devices := .sanitizedChoices _ _ _
  models := (StorableChoices.sanitizedChoices _ _ _).weaken implied

end PolicyStore

/-! ### Every change keeps a policy storable -/

/-- The published GPU ids are render nodes, and the declared model ids are accepted by the
manifest's schema. -/
structure ControlEnvironment.WellFormed (environment : ControlEnvironment) : Prop where
  devices : ∀ deviceId, deviceId ∈ environment.gpuDeviceIds → Pattern.gpuDeviceId deviceId = true
  models : ∀ profileId modelId, modelId ∈ environment.profileModels profileId →
    Pattern.search Pattern.identifier modelId = true

namespace Storable

variable {defaults : PolicyDefaults} {accepted : String → Bool} {state : PolicyState}

theorem atRevision (storable : Storable defaults accepted state) (revision : Nat) :
    Storable defaults accepted (state.atRevision revision) :=
  ⟨storable.governed, storable.profileIds, storable.weights, storable.devices, storable.models⟩

/-- A profile that has a policy may be given another with a weight to keep. -/
theorem setProfile (storable : Storable defaults accepted state) {profileId : String}
    {old new : ProfilePolicy} (found : state.profiles.get? profileId = some old)
    (weight : StorableWeight (defaults.profiles.get? profileId) new.weight) :
    Storable defaults accepted { state with profiles := state.profiles.set profileId new } := by
  have keys : (state.profiles.set profileId new).keys = state.profiles.keys :=
    Dict.keys_set_of_mem new (Dict.mem_keys_of_get? found)
  refine ⟨fun other member => ?_, fun other member => ?_, fun other policy stored => ?_,
    storable.devices, storable.models⟩
  · rw [keys]
    exact storable.governed other member
  · rw [keys] at member
    exact storable.profileIds other member
  · rw [Dict.get?_set] at stored
    split at stored
    · rename_i same
      cases stored
      exact same ▸ weight
    · exact storable.weights other policy stored

variable {changed : PolicyState} {environment : ControlEnvironment}

theorem edit (wellFormed : environment.WellFormed) (storable : Storable defaults accepted state)
    {edit : Edit} (valid : edit.single.schemaValid = true)
    (chosen : ∀ modelId, edit.chosenModel = some modelId → accepted modelId = true)
    (made : PolicyState.edit environment state edit = (changed, none)) :
    Storable defaults accepted changed := by
  cases edit with
  | enabled profileId value =>
    obtain ⟨policy, found, rfl⟩ := PolicyState.setPolicy_eq_accepted made
    exact storable.setProfile found (storable.weights profileId policy found)
  | weight profileId value =>
    obtain ⟨policy, found, rfl⟩ := PolicyState.setPolicy_eq_accepted made
    exact storable.setProfile found (.integer (Bool.and_eq_true_iff.mp valid).2)
  | device profileId value =>
    obtain ⟨choices, updated, rfl⟩ := PolicyState.setProfileDevice_eq_accepted made
    refine ⟨storable.governed, storable.profileIds, storable.weights, ?_, storable.models⟩
    refine storable.devices.updateChoices updated (Bool.and_eq_true_iff.mp valid).1 ?_
    rintro deviceId rfl
    have admitted := (PolicyState.updateChoices_eq_ok updated).1
    simp only [PolicyState.deviceChoiceError, ite_eq_left_iff, reduceCtorEq, imp_false,
      Decidable.not_not] at admitted
    exact wellFormed.devices deviceId admitted
  | model profileId value =>
    obtain ⟨choices, updated, rfl⟩ := PolicyState.setProfileModel_eq_accepted made
    exact ⟨storable.governed, storable.profileIds, storable.weights, storable.devices,
      storable.models.updateChoices updated (Bool.and_eq_true_iff.mp valid).1 chosen⟩
  | paused value =>
    cases made
    exact ⟨storable.governed, storable.profileIds, storable.weights, storable.devices,
      storable.models⟩

/-- A command the schema accepts leads to a storable policy. -/
theorem candidate (wellFormed : environment.WellFormed)
    (storable : Storable defaults accepted state) {command : Command}
    (valid : command.schemaValid = true)
    (chosen : ∀ modelId ∈ command.chosenModels, accepted modelId = true)
    (ran : PolicyState.candidate environment state command = .ok changed) :
    Storable defaults accepted changed := by
  obtain ⟨executed, executes, rfl⟩ := PolicyState.candidate_eq_ok_iff.mp ran
  refine (?_ : Storable defaults accepted executed).atRevision _
  have admitted : ∀ edit ∈ command.edits, edit.single.schemaValid = true ∧
      ∀ modelId, edit.chosenModel = some modelId → accepted modelId = true :=
    fun edit member => ⟨Command.schemaValid_single valid member, fun modelId chooses =>
      chosen modelId (List.mem_filterMap.mpr ⟨edit, member, chooses⟩)⟩
  refine PolicyState.editAll_invariant (Storable defaults accepted) ?_ admitted storable
    (PolicyState.editAll_of_execute executes)
  exact fun _ _ _ storable holds made => storable.edit wellFormed holds.1 holds.2 made

/-- Adopting ids that are well formed leads to a storable policy. -/
theorem adoptProfiles (storable : Storable defaults accepted state) {profileIds : List String}
    {default : Option ProfilePolicy}
    (idsValid : ∀ profileId, profileId ∈ profileIds → Pattern.profileId profileId = true)
    (weight : ∀ fallback, StorableWeight fallback (default.getD PolicyState.defaultAdoption).weight)
    (adopts : state.adoptProfiles profileIds default = some changed) :
    Storable defaults accepted changed := by
  unfold PolicyState.adoptProfiles at adopts
  split at adopts
  · cases adopts
  · cases adopts
    have stored := Dict.get?_foldl_set (state.adoptable profileIds)
      (default.getD PolicyState.defaultAdoption) state.profiles
    refine ⟨fun profileId member => ?_, fun profileId member => ?_,
      fun profileId policy found => ?_, storable.devices, storable.models⟩
    · obtain ⟨policy, found⟩ := Dict.mem_keys_iff.mp (storable.governed profileId member)
      rw [Dict.mem_keys_iff, stored, found]
      split <;> exact ⟨_, rfl⟩
    · obtain ⟨policy, found⟩ := Dict.mem_keys_iff.mp member
      rw [stored] at found
      split at found
      · rename_i adopted
        have asked := (List.mem_filter.mp adopted).1
        rw [PolicyState.sortedSet, List.mem_mergeSort, List.mem_dedup] at asked
        exact Or.inr (idsValid profileId asked)
      · exact storable.profileIds profileId (Dict.mem_keys_of_get? found)
    · rw [stored] at found
      split at found
      · cases found
        exact weight _
      · exact storable.weights profileId policy found

end Storable

/-! ### Runs of changes -/

/-- A change that can be asked for: a command the schema accepts, in a runtime that is well formed,
or an adoption of ids of plugins or workloads, at an integer weight in range. -/
def PolicyState.Change.Admissible : PolicyState.Change → Prop
  | .command environment asked => environment.WellFormed ∧ asked.schemaValid = true
  | .adoption profileIds default =>
    (∀ profileId, profileId ∈ profileIds →
      Pattern.identifier profileId = true ∧ profileId.length ≤ 80) ∧
    ∀ policy, default = some policy →
      ∃ value, policy.weight = .integer value ∧ weightInRange policy.weight = true

/-- The models a change chooses. -/
def PolicyState.Change.chosenModels : PolicyState.Change → List String
  | .command _ asked => asked.chosenModels
  | .adoption _ _ => []

variable {defaults : PolicyDefaults} {accepted : String → Bool}

theorem Storable.applyChange {state changed : PolicyState} {change : PolicyState.Change}
    (storable : Storable defaults accepted state) (admissible : change.Admissible)
    (chosen : ∀ modelId ∈ change.chosenModels, accepted modelId = true)
    (applied : state.applyChange change = some changed) : Storable defaults accepted changed := by
  cases change with
  | command environment command =>
    refine storable.candidate admissible.1 admissible.2 chosen ?_
    rw [PolicyState.applyChange] at applied
    cases ran : PolicyState.candidate environment state command with
    | error message =>
      rw [ran] at applied
      cases applied
    | ok reached =>
      rw [ran] at applied
      exact congrArg Except.ok (Option.some.inj applied)
  | adoption profileIds default =>
    refine storable.adoptProfiles (fun profileId member => ?_) (fun fallback => ?_) applied
    · obtain ⟨matched, short⟩ := admissible.1 profileId member
      exact Pattern.profileId_of_identifier matched short
    · cases default with
      | none => exact .integer (by decide)
      | some policy =>
        obtain ⟨value, written, inRange⟩ := admissible.2 policy rfl
        rw [Option.getD_some, written]
        exact .integer (written ▸ inRange)

/-- Every policy reached from a loaded one is storable. -/
theorem storable_of_run {file : Option PolicyDocument} {changes : List PolicyState.Change}
    {state : PolicyState}
    (implied : ∀ modelId, Pattern.modelId modelId = true → accepted modelId = true)
    (admissible : ∀ change ∈ changes, change.Admissible)
    (chosen : ∀ change ∈ changes, ∀ modelId ∈ change.chosenModels, accepted modelId = true)
    (runs : Machine.run PolicyState.applyChange (PolicyStore.load defaults file) changes =
      some state) : Storable defaults accepted state := by
  have allowed : ∀ change ∈ changes, change.Admissible ∧
      ∀ modelId ∈ change.chosenModels, accepted modelId = true :=
    fun change member => ⟨admissible change member, chosen change member⟩
  refine Machine.invariant_run_throughout (Storable defaults accepted) ?_
    (PolicyStore.storable_load implied defaults file) (Machine.throughout_of_forall allowed) runs
  exact fun _ _ _ storable holds applied => storable.applyChange holds.1 holds.2 applied

/-- The schema holds the models that a command chooses to its pattern. -/
theorem search_of_mem_chosenModels {change : PolicyState.Change} (admissible : change.Admissible)
    {modelId : String} (chooses : modelId ∈ change.chosenModels) :
    Pattern.search Pattern.modelId modelId = true := by
  cases change with
  | command environment asked =>
    obtain ⟨edit, member, chosen⟩ := List.mem_filterMap.mp chooses
    have valid := Command.schemaValid_single admissible.2 member
    cases edit with
    | model profileId value =>
      subst chosen
      exact (Bool.and_eq_true_iff.mp valid).2
    | enabled profileId value => cases chosen
    | weight profileId value => cases chosen
    | device profileId value => cases chosen
    | paused value => cases chosen
  | adoption profileIds default => cases chooses

/-! ### Restarts -/

/-- Saving a policy and loading it again yields the same policy. -/
def SurvivesRestart (defaults : PolicyDefaults) (state : PolicyState) : Prop :=
  let restarted := PolicyStore.load defaults (some (PolicyStore.save state))
  restarted.revision = state.revision ∧ restarted.paused = state.paused ∧
    (∀ profileId, restarted.profiles.get? profileId = state.profiles.get? profileId) ∧
    (∀ profileId, restarted.deviceChoices.get? profileId = state.deviceChoices.get? profileId) ∧
    ∀ profileId, restarted.modelChoices.get? profileId = state.modelChoices.get? profileId

namespace PolicyStore

theorem get?_save (state : PolicyState) :
    (Node.fields (some (save state))).get? "paused" = some (.leaf (.boolean state.paused)) ∧
    (Node.fields (some (save state))).get? "profiles" =
      some (.object ((sortedItems state.profiles).mapValues fun _ policy =>
        profileDocument policy)) ∧
    (Node.fields (some (save state))).get? "deviceChoices" =
      some (choicesDocument state.deviceChoices) ∧
    (Node.fields (some (save state))).get? "modelChoices" =
      some (choicesDocument state.modelChoices) ∧
    (Node.fields (some (save state))).get? "revision" =
      some (.leaf (.integer state.revision)) := by
  simp only [save, Node.fields, Dict.get?_set]
  refine ⟨?_, ?_, ?_, ?_, ?_⟩ <;> rfl

/-- The entry written for a profile is read as its policy. -/
theorem storedPolicy_profileDocument {fallback : Option ProfilePolicy}
    {policy default : ProfilePolicy} (storable : StorableWeight fallback policy.weight)
    (given : ∀ other, fallback = some other → other.weight = default.weight) :
    storedPolicy (Node.fields (some (profileDocument policy))) default = policy := by
  have enabled : (Node.fields (some (profileDocument policy))).get? "enabled" =
      some (.boolean policy.enabled) := by
    simp only [profileDocument, Node.fields, Dict.get?_set]
    rfl
  have weight : (Node.fields (some (profileDocument policy))).get? "weight" =
      some (weightLeaf policy.weight) := by
    simp only [profileDocument, Node.fields, Dict.get?_set]
    rfl
  rw [storedPolicy, enabled, weight, storable.clampWeight_weightLeaf given]
  rfl

variable {defaults : PolicyDefaults} {accepted : String → Bool} {state : PolicyState}

theorem get?_profiles_restarted (storable : Storable defaults accepted state) (profileId : String) :
    (load defaults (some (save state))).profiles.get? profileId =
      state.profiles.get? profileId := by
  have supplied : (suppliedProfiles (some (save state))).get? profileId =
      (state.profiles.get? profileId).map profileDocument := by
    rw [suppliedProfiles, (get?_save state).2.1]
    simp only [Node.fields, Dict.get?_mapValues, sortedItems, Dict.get?_sortBy]
  rw [get?_load_profiles, supplied]
  cases stored : state.profiles.get? profileId with
  | none =>
    have absent : defaults.profiles.get? profileId = none := by
      rw [Dict.get?_eq_none_iff] at stored ⊢
      exact fun member => stored (storable.governed profileId member)
    rw [absent]
    rfl
  | some policy =>
    have weight := storable.weights profileId policy stored
    cases found : defaults.profiles.get? profileId with
    | some default =>
      rw [found] at weight
      rw [Option.map_some, Option.map_some, Option.some_or,
        storedPolicy_profileDocument weight fun other same => by rw [Option.some.inj same]]
    | none =>
      rw [found] at weight
      have kept : Pattern.profileId profileId = true :=
        (storable.profileIds profileId (Dict.mem_keys_of_get? stored)).resolve_left
          (Dict.get?_eq_none_iff.mp found)
      have read : storedPolicy (Node.fields (some (profileDocument policy)))
          { enabled := true, weight := .integer minWeight } = policy :=
        storedPolicy_profileDocument weight fun other same => by cases same
      rw [Option.map_none, Option.none_or, Option.map_some, Option.bind_some]
      simp only [adoptedPolicy, profileDocument, kept, if_true]
      exact congrArg some read

theorem get?_deviceChoices_restarted (storable : Storable defaults accepted state)
    (profileId : String) :
    (load defaults (some (save state))).deviceChoices.get? profileId =
      state.deviceChoices.get? profileId := by
  simp only [load, (get?_save state).2.2.1]
  rw [storable.devices.get?_sanitizedChoices]
  cases found : state.deviceChoices.get? profileId with
  | none => rfl
  | some deviceId =>
    rw [Option.filter_some, (storable.devices.valid profileId deviceId found).2]
    rfl

theorem get?_modelChoices_restarted (storable : Storable defaults accepted state)
    (profileId : String) :
    (load defaults (some (save state))).modelChoices.get? profileId =
      (state.modelChoices.get? profileId).filter Pattern.modelId := by
  simp only [load, (get?_save state).2.2.2.1]
  exact storable.models.get?_sanitizedChoices profileId

/-- A storable policy survives exactly when the loader's pattern matches every chosen model. -/
theorem survivesRestart_iff_of_storable (storable : Storable defaults accepted state) :
    SurvivesRestart defaults state ↔
      ∀ profileId modelId, state.modelChoices.get? profileId = some modelId →
        Pattern.modelId modelId = true := by
  constructor
  · rintro ⟨_, _, _, _, models⟩ profileId modelId found
    have kept := models profileId
    rw [get?_modelChoices_restarted storable, found, Option.filter_some] at kept
    split at kept
    · assumption
    · cases kept
  · intro matched
    refine ⟨?_, ?_, get?_profiles_restarted storable, get?_deviceChoices_restarted storable,
      fun profileId => ?_⟩
    · simp only [load, (get?_save state).2.2.2.2, sanitizedRevision, Int.toNat_natCast]
    · simp only [load, (get?_save state).1, storedPaused]
    · rw [get?_modelChoices_restarted storable]
      cases found : state.modelChoices.get? profileId with
      | none => rfl
      | some modelId => rw [Option.filter_some, if_pos (matched profileId modelId found)]

end PolicyStore

/-- Whatever commands and adoptions succeed after a start, the policy survives a restart exactly
when no model it chose has an id ending in a newline. It does when no command chooses one. -/
theorem survivesRestart_iff (defaults : PolicyDefaults) (file : Option PolicyDocument)
    (changes : List PolicyState.Change) (state : PolicyState)
    (admissible : ∀ change ∈ changes, change.Admissible)
    (runs : Machine.run PolicyState.applyChange (PolicyStore.load defaults file) changes =
      some state) :
    (SurvivesRestart defaults state ↔
      ∀ profileId modelId, state.modelChoices.get? profileId = some modelId →
        Pattern.endsInNewline modelId = false) ∧
    ((∀ change ∈ changes, ∀ modelId ∈ change.chosenModels,
      Pattern.endsInNewline modelId = false) → SurvivesRestart defaults state) := by
  have searched := fun change member modelId =>
    @search_of_mem_chosenModels change (admissible change member) modelId
  constructor
  · have storable := storable_of_run (fun _ => Pattern.search_of_match) admissible searched runs
    rw [PolicyStore.survivesRestart_iff_of_storable storable]
    refine forall₃_congr fun profileId modelId found => ⟨Pattern.endsInNewline_of_modelId, ?_⟩
    exact Pattern.match_of_search (storable.models.valid profileId modelId found).2
  · intro plain
    have storable := storable_of_run (fun _ matched => matched) admissible
      (fun change member modelId chooses => Pattern.match_of_search
        (searched change member modelId chooses) (plain change member modelId chooses)) runs
    exact (PolicyStore.survivesRestart_iff_of_storable storable).mpr fun profileId modelId found =>
      (storable.models.valid profileId modelId found).2

/-! ### Two runs -/

/-- A catalog with one workload. -/
def visionDefaults : PolicyDefaults where
  profiles := Dict.empty.set "vision" { enabled := true, weight := .float 2 }
  inRange profileId policy found := by
    rw [Dict.get?_set] at found
    split at found
    · cases found
      decide
    · cases found

/-- A runtime with one GPU whose workload's manifest declares one model. -/
def declaring (modelId : String) : ControlEnvironment where
  profileExists := none
  gpuDeviceIds := ["gpu-renderD128"]
  profileModels := fun profileId => if profileId = "vision" then [modelId] else []

theorem wellFormed_declaring {modelId : String}
    (declared : Pattern.search Pattern.identifier modelId = true) :
    (declaring modelId).WellFormed where
  devices deviceId member := by
    obtain rfl := List.mem_singleton.mp member
    decide +kernel
  models profileId other member := by
    simp only [declaring] at member
    split at member
    · rw [List.mem_singleton.mp member]
      exact declared
    · cases member

/-- An adoption, a batch and a choice. -/
def plainChanges : List PolicyState.Change :=
  [.adoption ["documents"] none,
   .command (declaring "vision-int8") (.applyProfiles
    [{ profileId := "documents", enabled := some false, weight := some (.float 3),
       deviceId := some (some "gpu-renderD128"), modelId := none }]),
   .command (declaring "vision-int8") (.setProfileModel "vision" (some "vision-int8"))]

/-- The policy these changes lead to. -/
def plainPolicy : PolicyState where
  paused := false
  profiles := (Dict.empty.set "vision" { enabled := true, weight := .float 2 }).set "documents"
    { enabled := false, weight := .integer 3 }
  deviceChoices := Dict.empty.set "documents" "gpu-renderD128"
  modelChoices := Dict.empty.set "vision" "vision-int8"
  revision := 3

/-- These changes survive a restart. -/
theorem survivesRestart_plain : SurvivesRestart visionDefaults plainPolicy := by
  have admissible : ∀ change ∈ plainChanges, change.Admissible := by
    have environment := wellFormed_declaring (by decide +kernel :
      Pattern.search Pattern.identifier "vision-int8" = true)
    simp only [plainChanges, List.forall_mem_cons]
    refine ⟨⟨by decide +kernel, fun policy none => by cases none⟩,
      ⟨environment, by decide +kernel⟩, ⟨environment, by decide +kernel⟩, ?_⟩
    exact fun _ member => absurd member List.not_mem_nil
  exact (survivesRestart_iff visionDefaults none plainChanges plainPolicy admissible
    (by decide +kernel)).2 (by decide +kernel)

/-- The choice of a model whose manifest writes its id with a newline at the end. -/
def newlineChange : PolicyState.Change :=
  .command (declaring "vision-int8\n") (.setProfileModel "vision" (some "vision-int8\n"))

/-- The policy this choice leads to. -/
def newlinePolicy : PolicyState where
  paused := false
  profiles := Dict.empty.set "vision" { enabled := true, weight := .float 2 }
  deviceChoices := Dict.empty
  modelChoices := Dict.empty.set "vision" "vision-int8\n"
  revision := 1

/-- Such a choice is applied, and the loader drops it. -/
theorem not_survivesRestart :
    ¬ ∀ (defaults : PolicyDefaults) (file : Option PolicyDocument)
      (changes : List PolicyState.Change) (state : PolicyState),
      (∀ change ∈ changes, change.Admissible) →
      Machine.run PolicyState.applyChange (PolicyStore.load defaults file) changes = some state →
      SurvivesRestart defaults state := by
  intro claim
  have admissible : newlineChange.Admissible :=
    ⟨wellFormed_declaring (by decide +kernel), by decide +kernel⟩
  have survives := claim visionDefaults none [newlineChange] newlinePolicy
    (fun change member => by rwa [List.mem_singleton.mp member]) (by decide +kernel)
  have kept := survives.2.2.2.2 "vision"
  revert kept
  decide +kernel

end Omnitensor
