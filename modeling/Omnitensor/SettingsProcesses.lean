/-
This file models loads and updates of plugin settings by any number of stores over one directory,
and proves what their interleavings do to the documents.

A step is one operation on a file, or taking the lock of the directory, which is held from before
the file is looked for until the call ends. Every file operation may fail, and a write that fails
leaves the file as it was, because replacing the file is the last operation of a write that can
fail. Commits are remembered in order, each with what it replaced.
-/

import Omnitensor.Machine
import Omnitensor.PluginSettings
import Omnitensor.Table

namespace Omnitensor

variable {Real : Type}

/-! ### Calls -/

/-- What a call does next, or how it ended. -/
inductive SettingsPhase (Real : Type) where
  | awaitLock
  | look
  | read
  /-- It writes what the migrations gave. -/
  | migrated (settings : PluginSettings Real)
  /-- It compares the revision, and an update writes its settings. -/
  | current (settings : PluginSettings Real)
  | returned (settings : PluginSettings Real)
  | refused (refusal : PluginSettingsError)
  /-- A file operation raised. -/
  | failed

namespace SettingsPhase

/-- The call holds the lock. -/
def holdsLock : SettingsPhase Real → Bool
  | .look | .read | .migrated _ | .current _ => true
  | _ => false

/-- The call raised. -/
def raised : SettingsPhase Real → Bool
  | .refused _ | .failed => true
  | _ => false

/-- What the call returned. -/
def result : SettingsPhase Real → Option (PluginSettings Real)
  | .returned settings => some settings
  | _ => none

end SettingsPhase

/-- The arguments of an update. -/
structure SettingsUpdate (Real : Type) where
  expectedRevision : Int
  configuration : JsonObject Real

/-- A call on a store: an update, or a load. -/
structure SettingsCall (Real : Type) where
  maxSettingsBytes : Nat
  spec : PluginConfigurationSpec Real
  update : Option (SettingsUpdate Real)
  phase : SettingsPhase Real

/-- A write that happened: of an update under the revision it expected, or of a migration. -/
structure SettingsCommit (Real : Type) where
  pluginId : String
  call : Nat
  expected : Option Int
  replaced : Option (List Char)
  settings : PluginSettings Real

/-- The directory with all calls. -/
structure SettingsProcesses (Real : Type) where
  files : String → Option (List Char)
  /-- The commits so far, the first one first. -/
  history : List (SettingsCommit Real)
  calls : List (SettingsCall Real)

namespace SettingsProcesses

open PluginSettingsStore

/-- Nobody has called yet. -/
def start (files : String → Option (List Char)) : SettingsProcesses Real := ⟨files, [], []⟩

/-- No call holds the lock. -/
def lockFree (processes : SettingsProcesses Real) : Bool :=
  processes.calls.all fun call => !call.phase.holdsLock

/-- The commits of a call. -/
def commitsOf (processes : SettingsProcesses Real) (index : Nat) : List (SettingsCommit Real) :=
  processes.history.filter fun commit => decide (commit.call = index)

/-- The commits on the document of a plugin. -/
def commitsOn (processes : SettingsProcesses Real) (pluginId : String) :
    List (SettingsCommit Real) :=
  processes.history.filter fun commit => decide (commit.pluginId = pluginId)

/-- What one step of a call comes to: where the call is then, and what it writes. -/
structure Effect (Real : Type) where
  phase : SettingsPhase Real
  write : Option (Option Int × PluginSettings Real)

section

variable (library : SchemaLibrary Real)

/-- The checks of an update before the lock is taken. -/
def validateUpdate (spec : PluginConfigurationSpec Real) (update : SettingsUpdate Real) :
    Except PluginSettingsError Unit := do
  validateRevision update.expectedRevision "expected_revision"
  prepareSpec library spec
  validatePersistedConfiguration library spec.schema update.configuration

variable [FloatText Real]

/-- Settings of an older version as they are committed. -/
def migrateChecked (maxSettingsBytes : Nat) (spec : PluginConfigurationSpec Real)
    (settings : PluginSettings Real) : Except PluginSettingsError (PluginSettings Real) := do
  let migrated ← migrate settings spec
  validatePersistedConfiguration library spec.schema migrated.configuration
  let _ ← encode maxSettingsBytes migrated
  return migrated

/-- Where a call is after it read settings. -/
def loaded (call : SettingsCall Real) (settings : PluginSettings Real) : SettingsPhase Real :=
  if settings.pluginVersion = call.spec.pluginVersion then
    match validatePersistedConfiguration library call.spec.schema settings.configuration with
    | .error refusal => .refused refusal
    | .ok _ => .current settings
  else
    match migrateChecked library call.maxSettingsBytes call.spec settings with
    | .error refusal => .refused refusal
    | .ok migrated => .migrated migrated

/-- The settings that an update writes. -/
def updated (call : SettingsCall Real) (update : SettingsUpdate Real)
    (current : PluginSettings Real) : PluginSettings Real :=
  ⟨call.spec.pluginId, call.spec.pluginVersion, current.revision + 1, update.configuration⟩

/-- The next step of a call, if it is not blocked. A fault is a file operation that raises. -/
def effect (processes : SettingsProcesses Real) (call : SettingsCall Real) (fault : Bool) :
    Option (Effect Real) :=
  match call.phase with
  | .awaitLock =>
    if fault then some ⟨.failed, none⟩
    else if processes.lockFree then some ⟨.look, none⟩
    else none
  | .look =>
    match prepareSpec library call.spec with
    | .error refusal => some ⟨.refused refusal, none⟩
    | .ok _ =>
      if fault then some ⟨.failed, none⟩
      else if (processes.files call.spec.pluginId).isSome then some ⟨.read, none⟩
      else
        some ⟨.current ⟨call.spec.pluginId, call.spec.pluginVersion, 0, call.spec.defaults⟩, none⟩
  | .read =>
    if fault then some ⟨.refused (.settingsUnreadable call.spec.pluginId), none⟩
    else
      match read call.maxSettingsBytes (processes.files call.spec.pluginId) call.spec.pluginId with
      | .error refusal => some ⟨.refused refusal, none⟩
      | .ok settings => some ⟨loaded library call settings, none⟩
  | .migrated settings =>
    if fault then some ⟨.failed, none⟩ else some ⟨.current settings, some (none, settings)⟩
  | .current settings =>
    match call.update with
    | none => some ⟨.returned settings, none⟩
    | some update =>
      if settings.revision ≠ update.expectedRevision then
        some ⟨.refused (.revisionMismatch update.expectedRevision settings.revision), none⟩
      else
        match encode call.maxSettingsBytes (updated call update settings) with
        | .error refusal => some ⟨.refused refusal, none⟩
        | .ok _ =>
          if fault then some ⟨.failed, none⟩
          else
            some ⟨.returned (updated call update settings),
              some (some update.expectedRevision, updated call update settings)⟩
  | .returned _ | .refused _ | .failed => none

/-- The state after a step of a call. -/
def take (processes : SettingsProcesses Real) (index : Nat) (call : SettingsCall Real)
    (effect : Effect Real) : SettingsProcesses Real where
  files :=
    match effect.write with
    | none => processes.files
    | some (_, settings) =>
      Function.update processes.files call.spec.pluginId (some (storedText settings))
  history :=
    match effect.write with
    | none => processes.history
    | some (expected, settings) =>
      processes.history ++ [⟨call.spec.pluginId, index, expected,
        processes.files call.spec.pluginId, settings⟩]
  calls := processes.calls.set index { call with phase := effect.phase }

/-- Something a process does. -/
inductive Action (Real : Type) where
  | load (maxSettingsBytes : Nat) (spec : PluginConfigurationSpec Real)
  | update (maxSettingsBytes : Nat) (spec : PluginConfigurationSpec Real)
    (update : SettingsUpdate Real)
  /-- A call takes its next step. -/
  | advance (call : Nat) (fault : Bool)

/-- One step of one process. -/
def step (processes : SettingsProcesses Real) : Action Real → Option (SettingsProcesses Real)
  | .load maxSettingsBytes spec =>
    some { processes with
      calls := processes.calls ++ [⟨maxSettingsBytes, spec, none, .awaitLock⟩] }
  | .update maxSettingsBytes spec update =>
    some { processes with
      calls := processes.calls ++ [⟨maxSettingsBytes, spec, some update,
        match validateUpdate library spec update with
        | .ok _ => .awaitLock
        | .error refusal => .refused refusal⟩] }
  | .advance index fault =>
    (processes.calls[index]?).bind fun call =>
      (effect library processes call fault).map (processes.take index call)

end

theorem not_holdsLock_of_lockFree {processes : SettingsProcesses Real} {index : Nat}
    {call : SettingsCall Real} (free : processes.lockFree = true)
    (stored : processes.calls[index]? = some call) : call.phase.holdsLock = false := by
  have member := List.mem_iff_getElem?.mpr ⟨index, stored⟩
  simpa using List.all_eq_true.mp free call member

/-! ### Revisions -/

theorem readable_settingsDocument (settings : PluginSettings Real) :
    Json.Readable (settingsDocument settings) := by
  refine ⟨?_, ?_⟩
  · show ["documentVersion", "pluginId", "pluginVersion", "revision", "configuration"].Nodup
    decide
  · exact ⟨⟨Json.whole_points _, trivial⟩, ⟨Json.whole_points _, Json.whole_points _⟩,
      ⟨Json.whole_points _, Json.whole_points _⟩, ⟨Json.whole_points _, trivial⟩,
      ⟨Json.whole_points _, settings.configuration.2⟩, trivial⟩

section

variable (Real) [FloatText Real]

/-- The revision of a file: that of its document, and zero without a file. -/
def storedRevision : Option (List Char) → Option Nat
  | none => some 0
  | some text =>
    match (Json.loads text : Option (Json Real)) with
    | some (.object document) =>
      match Json.field document "revision" with
      | some (.int revision) => if revision < 0 then none else some revision.toNat
      | _ => none
    | _ => none

variable {Real}

/-- What is written has the revision of the settings. -/
@[simp] theorem storedRevision_storedText (settings : PluginSettings Real) :
    storedRevision Real (some (storedText settings)) = some settings.revision := by
  have read := Json.loads_dumps (readable_settingsDocument settings)
  rw [storedRevision, storedText, read]
  simp [settingsDocument, Json.field]

variable {settings : PluginSettings Real} {maxSettingsBytes : Nat}

theorem revision_of_parse {document : JsonObject Real} {pluginId : String}
    (parsed : parse document pluginId = .ok settings) :
    Json.field document.1 "revision" = some (.int settings.revision) := by
  rw [parse] at parsed
  split at parsed
  · cases parsed
  split at parsed
  · cases parsed
  split at parsed
  · split at parsed
    · cases parsed
    split at parsed
    · split at parsed
      · cases parsed
      split at parsed
      · rename_i revision stored
        split at parsed
        · cases parsed
        · rename_i natural
          split at parsed
          · cases parsed
            rw [stored, Int.toNat_of_nonneg (Int.not_lt.mp natural)]
          · cases parsed
      · cases parsed
    · cases parsed
  · cases parsed

/-- What is read has the revision of the file. -/
theorem storedRevision_of_read {file : Option (List Char)} {pluginId : String}
    (reads : read maxSettingsBytes file pluginId = .ok settings) :
    storedRevision Real file = some settings.revision := by
  cases file with
  | none => cases reads
  | some text =>
    rw [PluginSettingsStore.read] at reads
    split at reads
    · cases reads
    · rw [decode] at reads
      split at reads
      · cases reads
      · rename_i document loads
        rw [storedRevision, loads]
        simp only [revision_of_parse reads, Int.toNat_natCast]
        exact if_neg (Int.not_lt.mpr (Int.natCast_nonneg _))
      · cases reads

theorem revision_of_migrateChecked {library : SchemaLibrary Real}
    {spec : PluginConfigurationSpec Real} {migrated : PluginSettings Real}
    (migrates : migrateChecked library maxSettingsBytes spec settings = .ok migrated) :
    migrated.revision = settings.revision + 1 := by
  obtain ⟨first, moved, rest⟩ := bind_eq_ok.mp migrates
  obtain ⟨_, _, rest⟩ := bind_eq_ok.mp rest
  obtain ⟨_, _, same⟩ := bind_eq_ok.mp rest
  cases same
  obtain ⟨configuration, _, rfl⟩ := map_eq_ok.mp moved
  rfl

end

/-! ### What a step of a call does -/

section

variable (library : SchemaLibrary Real) [FloatText Real]

/-- The steps of a call, one by one. -/
inductive Moves (processes : SettingsProcesses Real) (call : SettingsCall Real) :
    Effect Real → Prop where
  | locked (at_ : call.phase = .awaitLock) (free : processes.lockFree = true) :
    Moves processes call ⟨.look, none⟩
  | raised (phase : SettingsPhase Real) (raises : phase.raised = true)
      (at_ : call.phase.raised = false) (busy : ∀ settings, call.phase ≠ .returned settings) :
    Moves processes call ⟨phase, none⟩
  | found (at_ : call.phase = .look) : Moves processes call ⟨.read, none⟩
  | missing (at_ : call.phase = .look) (nothing : processes.files call.spec.pluginId = none) :
    Moves processes call
      ⟨.current ⟨call.spec.pluginId, call.spec.pluginVersion, 0, call.spec.defaults⟩, none⟩
  | kept (settings : PluginSettings Real) (at_ : call.phase = .read)
      (reads : read call.maxSettingsBytes (processes.files call.spec.pluginId) call.spec.pluginId =
        .ok settings) :
    Moves processes call ⟨.current settings, none⟩
  | migrates (settings migrated : PluginSettings Real) (at_ : call.phase = .read)
      (reads : read call.maxSettingsBytes (processes.files call.spec.pluginId) call.spec.pluginId =
        .ok settings)
      (older : settings.pluginVersion ≠ call.spec.pluginVersion)
      (migrates : migrateChecked library call.maxSettingsBytes call.spec settings = .ok migrated) :
    Moves processes call ⟨.migrated migrated, none⟩
  | migrated (settings : PluginSettings Real) (at_ : call.phase = .migrated settings) :
    Moves processes call ⟨.current settings, some (none, settings)⟩
  | loaded (settings : PluginSettings Real) (at_ : call.phase = .current settings)
      (loads : call.update = none) :
    Moves processes call ⟨.returned settings, none⟩
  | updated (settings : PluginSettings Real) (update : SettingsUpdate Real)
      (at_ : call.phase = .current settings) (updates : call.update = some update)
      (same : (settings.revision : Int) = update.expectedRevision) :
    Moves processes call ⟨.returned (updated call update settings),
      some (some update.expectedRevision, updated call update settings)⟩

variable {library} {processes next : SettingsProcesses Real} {call : SettingsCall Real}
  {result : Effect Real}

theorem moves_of_effect {fault : Bool}
    (takes : effect library processes call fault = some result) :
    Moves library processes call result := by
  have raised (phase : SettingsPhase Real) (at_ : call.phase = phase)
      (busy : phase.raised = false ∧ ∀ settings, phase ≠ .returned settings)
      {ended : SettingsPhase Real} (raises : ended.raised = true)
      (same : some ⟨ended, none⟩ = some result) : Moves library processes call result :=
    Option.some.inj same ▸ .raised ended raises (at_ ▸ busy.1) (at_ ▸ busy.2)
  rw [effect] at takes
  split at takes
  · rename_i phase
    split at takes
    · exact raised _ phase ⟨rfl, nofun⟩ rfl takes
    · split at takes
      · rename_i free
        obtain rfl := Option.some.inj takes
        exact .locked phase free
      · cases takes
  · rename_i phase
    split at takes
    · exact raised _ phase ⟨rfl, nofun⟩ rfl takes
    · split at takes
      · exact raised _ phase ⟨rfl, nofun⟩ rfl takes
      · split at takes
        · obtain rfl := Option.some.inj takes
          exact .found phase
        · rename_i absent
          obtain rfl := Option.some.inj takes
          exact .missing phase (Option.not_isSome_iff_eq_none.mp absent)
  · rename_i phase
    split at takes
    · exact raised _ phase ⟨rfl, nofun⟩ rfl takes
    · split at takes
      · exact raised _ phase ⟨rfl, nofun⟩ rfl takes
      · rename_i settings reads
        rw [loaded] at takes
        split at takes
        · split at takes
          · exact raised _ phase ⟨rfl, nofun⟩ rfl takes
          · obtain rfl := Option.some.inj takes
            exact .kept settings phase reads
        · rename_i older
          split at takes
          · exact raised _ phase ⟨rfl, nofun⟩ rfl takes
          · rename_i migrated migrates
            obtain rfl := Option.some.inj takes
            exact .migrates settings migrated phase reads older migrates
  · rename_i settings phase
    split at takes
    · exact raised _ phase ⟨rfl, nofun⟩ rfl takes
    · obtain rfl := Option.some.inj takes
      exact .migrated settings phase
  · rename_i settings phase
    split at takes
    · rename_i loads
      obtain rfl := Option.some.inj takes
      exact .loaded settings phase loads
    · rename_i update updates
      split at takes
      · exact raised _ phase ⟨rfl, nofun⟩ rfl takes
      · rename_i same
        split at takes
        · exact raised _ phase ⟨rfl, nofun⟩ rfl takes
        · split at takes
          · exact raised _ phase ⟨rfl, nofun⟩ rfl takes
          · obtain rfl := Option.some.inj takes
            exact .updated settings update phase updates (not_not.mp same)
  all_goals cases takes

/-- A call that holds the lock after a step held it before, or took it. -/
theorem Moves.holdsLock (moves : Moves library processes call result)
    (holds : result.phase.holdsLock = true) :
    call.phase.holdsLock = true ∨ processes.lockFree = true := by
  cases moves with
  | locked at_ free => exact Or.inr free
  | found at_ | missing at_ | kept _ at_ | migrates _ _ at_ | migrated _ at_ =>
    exact Or.inl (by rw [at_]; rfl)
  | raised phase raises =>
    cases phase with
    | look | read | migrated | current => cases raises
    | awaitLock | returned | refused | failed => cases holds
  | loaded | updated => cases holds

/-- A file is written only in the hands of a call that holds the lock. -/
theorem Moves.writes (moves : Moves library processes call result) {expected : Option Int}
    {settings : PluginSettings Real} (write : result.write = some (expected, settings)) :
    call.phase.holdsLock = true := by
  cases moves with
  | migrated _ at_ | updated _ _ at_ => rw [at_]; rfl
  | _ => cases write

end

/-! ### What calls commit -/

section

variable (library : SchemaLibrary Real) [FloatText Real]

/-- What a load of a file of a store under a contract commits, if it migrates it. -/
def Migration (maxSettingsBytes : Nat) (spec : PluginConfigurationSpec Real)
    (file : Option (List Char)) (migrated : PluginSettings Real) : Prop :=
  ∃ settings, read maxSettingsBytes file spec.pluginId = .ok settings ∧
    settings.pluginVersion ≠ spec.pluginVersion ∧
    migrateChecked library maxSettingsBytes spec settings = .ok migrated

/-- Commits are a migration, or none. -/
structure Migrates (maxSettingsBytes : Nat) (spec : PluginConfigurationSpec Real)
    (commits : List (SettingsCommit Real)) : Prop where
  few : commits.length ≤ 1
  migrations : ∀ commit ∈ commits, commit.pluginId = spec.pluginId ∧ commit.expected = none ∧
    Migration library maxSettingsBytes spec commit.replaced commit.settings

/-- Commits are those of an update that was accepted: a migration, or none, and then the settings
it returned, under the revision that it named. -/
structure Updates (maxSettingsBytes : Nat) (spec : PluginConfigurationSpec Real)
    (update : SettingsUpdate Real) (settings : PluginSettings Real)
    (commits : List (SettingsCommit Real)) : Prop where
  last : ∃ before commit, commits = before ++ [commit] ∧
    Migrates library maxSettingsBytes spec before ∧
    commit.expected = some update.expectedRevision ∧ commit.settings = settings ∧
    commit.pluginId = spec.pluginId
  written : settings.configuration = update.configuration

/-- What a call has committed, as far as it is. -/
def Accounted (call : SettingsCall Real) (commits : List (SettingsCommit Real)) : Prop :=
  match call.phase with
  | .awaitLock | .look | .read | .migrated _ => commits = []
  | .current _ | .refused _ | .failed => Migrates library call.maxSettingsBytes call.spec commits
  | .returned settings =>
    match call.update with
    | none => Migrates library call.maxSettingsBytes call.spec commits
    | some update => Updates library call.maxSettingsBytes call.spec update settings commits

/-- What a call that holds the lock knows of the file. -/
def Known (processes : SettingsProcesses Real) (call : SettingsCall Real) : Prop :=
  match call.phase with
  | .migrated migrated =>
    Migration library call.maxSettingsBytes call.spec (processes.files call.spec.pluginId) migrated
  | .current settings =>
    storedRevision Real (processes.files call.spec.pluginId) = some settings.revision
  | _ => True

/-- A commit raises the revision of what it replaced by one, and was made under no other revision. -/
def Raises (commit : SettingsCommit Real) : Prop :=
  ∃ revision, storedRevision Real commit.replaced = some revision ∧
    commit.settings.revision = revision + 1 ∧
    ∀ expected ∈ commit.expected, expected = (revision : Int)

/-- Every commit on a document replaced what the one before it wrote, and the last one is stored. -/
def Chained (files : String → Option (List Char)) (processes : SettingsProcesses Real) : Prop :=
  ∀ pluginId, (processes.commitsOn pluginId).map SettingsCommit.replaced ++
      [processes.files pluginId] =
    files pluginId ::
      (processes.commitsOn pluginId).map fun commit => some (storedText commit.settings)

/-- What holds however calls interleave. -/
structure Sound (files : String → Option (List Char)) (processes : SettingsProcesses Real) :
    Prop where
  alone : ∀ (first second : Nat) (firstCall secondCall : SettingsCall Real),
    processes.calls[first]? = some firstCall →
    processes.calls[second]? = some secondCall → firstCall.phase.holdsLock = true →
    secondCall.phase.holdsLock = true → first = second
  known : ∀ (index : Nat) (call : SettingsCall Real), processes.calls[index]? = some call → Known library processes call
  accounted : ∀ (index : Nat) (call : SettingsCall Real), processes.calls[index]? = some call →
    Accounted library call (processes.commitsOf index)
  raises : ∀ commit ∈ processes.history, Raises commit
  callers : ∀ commit ∈ processes.history, commit.call < processes.calls.length
  chained : Chained files processes

variable {library} {files : String → Option (List Char)} {processes next : SettingsProcesses Real}
  {call : SettingsCall Real} {result : Effect Real} {index : Nat}

theorem sound_start : Sound library files (start files : SettingsProcesses Real) where
  alone _ _ _ _ impossible := by cases impossible
  known _ _ impossible := by cases impossible
  accounted _ _ impossible := by cases impossible
  raises _ impossible := by cases impossible
  callers _ impossible := by cases impossible
  chained _ := rfl

theorem Migrates.nil {maxSettingsBytes : Nat} {spec : PluginConfigurationSpec Real} :
    Migrates library maxSettingsBytes spec [] := ⟨Nat.zero_le _, nofun⟩

/-- A call that has only begun, or was refused at once, changes nothing. -/
theorem sound_begins (sound : Sound library files processes)
    (begun : call.phase = .awaitLock ∨ ∃ refusal, call.phase = .refused refusal) :
    Sound library files { processes with calls := processes.calls ++ [call] } := by
  have free : call.phase.holdsLock = false := by
    rcases begun with begun | ⟨refusal, begun⟩ <;> rw [begun] <;> rfl
  have stored (other : Nat) (otherCall : SettingsCall Real)
      (lookup : (processes.calls ++ [call])[other]? = some otherCall) :
      other = processes.calls.length ∧ otherCall = call ∨
        processes.calls[other]? = some otherCall := by
    rw [Table.getElem?_concat] at lookup
    split at lookup
    · rename_i same
      exact Or.inl ⟨same, (Option.some.inj lookup).symm⟩
    · exact Or.inr lookup
  refine ⟨fun first second firstCall secondCall firstStored secondStored firstHolds secondHolds => ?_,
    fun other otherCall lookup => ?_, fun other otherCall lookup => ?_, sound.raises,
    fun commit member => ?_, sound.chained⟩
  · rcases stored _ _ firstStored with ⟨_, rfl⟩ | firstOld
    · rw [free] at firstHolds
      cases firstHolds
    · rcases stored _ _ secondStored with ⟨_, rfl⟩ | secondOld
      · rw [free] at secondHolds
        cases secondHolds
      · exact sound.alone _ _ _ _ firstOld secondOld firstHolds secondHolds
  · rcases stored _ _ lookup with ⟨_, rfl⟩ | old
    · rcases begun with begun | ⟨refusal, begun⟩ <;> rw [Known, begun] <;> trivial
    · exact sound.known other otherCall old
  · rcases stored _ _ lookup with ⟨rfl, rfl⟩ | old
    · have nothing : processes.commitsOf processes.calls.length = [] := by
        refine List.filter_eq_nil_iff.mpr fun commit member => ?_
        rw [decide_eq_true_eq]
        exact Nat.ne_of_lt (sound.callers commit member)
      change Accounted library otherCall (processes.commitsOf processes.calls.length)
      rw [nothing]
      rcases begun with begun | ⟨refusal, begun⟩ <;> rw [Accounted, begun]
      exact .nil
    · exact sound.accounted other otherCall old
  · show commit.call < (processes.calls ++ [call]).length
    rw [List.length_append]
    exact Nat.lt_of_lt_of_le (sound.callers commit member) (Nat.le_add_right _ _)

theorem calls_take (stored : processes.calls[index]? = some call) (other : Nat) :
    (processes.take index call result).calls[other]? =
      if other = index then some { call with phase := result.phase } else processes.calls[other]? :=
  Table.getElem?_set stored _ other

theorem commitsOf_take (other : Nat) :
    (processes.take index call result).commitsOf other =
      match result.write with
      | none => processes.commitsOf other
      | some (expected, settings) =>
        if index = other then
          processes.commitsOf other ++ [⟨call.spec.pluginId, index, expected,
            processes.files call.spec.pluginId, settings⟩]
        else processes.commitsOf other := by
  rw [commitsOf, take]
  cases result.write with
  | none => rfl
  | some write =>
    simp only [List.filter_append, List.filter_cons, List.filter_nil, decide_eq_true_eq]
    split
    · rfl
    · exact List.append_nil _

/-- Only one call holds the lock. -/
theorem alone_take (sound : Sound library files processes)
    (stored : processes.calls[index]? = some call) (moves : Moves library processes call result)
    (first second : Nat) (firstCall secondCall : SettingsCall Real)
    (firstStored : (processes.take index call result).calls[first]? = some firstCall)
    (secondStored : (processes.take index call result).calls[second]? = some secondCall)
    (firstHolds : firstCall.phase.holdsLock = true)
    (secondHolds : secondCall.phase.holdsLock = true) : first = second := by
  refine Table.alone_set
    (fun one other => one.phase.holdsLock = true ∧ other.phase.holdsLock = true)
    (fun _ _ => And.symm)
    (fun _ _ _ _ one other both => sound.alone _ _ _ _ one other both.1 both.2) stored
    (fun other otherCall otherStored both => ?_) firstStored secondStored ⟨firstHolds, secondHolds⟩
  rcases moves.holdsLock both.2 with before | free
  · exact sound.alone _ _ _ _ otherStored stored both.1 before
  · exact absurd both.1 (by rw [not_holdsLock_of_lockFree free otherStored]; exact Bool.false_ne_true)

/-- A call that knows the file holds the lock, or knows nothing. -/
theorem Known.congr (known : Known library processes call)
    (same : call.phase.holdsLock = true → next.files = processes.files) :
    Known library next call := by
  unfold Known at known ⊢
  cases phase : call.phase with
  | migrated migrated | current settings =>
    rw [phase] at known
    rw [same (by rw [phase]; rfl)]
    exact known
  | _ => trivial

/-- What a call knows after its own step. -/
theorem known_of_moves (moves : Moves library processes call result) :
    Known library (processes.take index call result) { call with phase := result.phase } := by
  cases moves with
  | missing at_ nothing => exact congrArg (storedRevision Real) nothing
  | kept settings at_ reads => exact storedRevision_of_read reads
  | migrates settings migrated at_ reads older migrates => exact ⟨settings, reads, older, migrates⟩
  | migrated settings at_ =>
    show storedRevision Real (Function.update processes.files call.spec.pluginId
      (some (storedText settings)) call.spec.pluginId) = some settings.revision
    rw [Function.update_self, storedRevision_storedText]
  | raised phase raises =>
    cases phase with
    | migrated | current => cases raises
    | _ => trivial
  | _ => trivial

/-- What a call commits in its own step. -/
theorem accounted_of_moves (known : Known library processes call)
    (accounted : Accounted library call (processes.commitsOf index))
    (moves : Moves library processes call result) :
    Accounted library { call with phase := result.phase }
      ((processes.take index call result).commitsOf index) := by
  rw [commitsOf_take]
  rw [Accounted] at accounted
  cases moves with
  | locked at_ | found at_ | migrates _ _ at_ =>
    rw [at_] at accounted
    exact accounted
  | missing at_ | kept _ at_ =>
    rw [at_] at accounted
    simp only [Accounted, accounted]
    exact .nil
  | raised phase raises at_ busy =>
    have migrates : Migrates library call.maxSettingsBytes call.spec
        (processes.commitsOf index) := by
      split at accounted
      case h_8 settings returned => exact absurd returned (busy settings)
      case h_5 | h_6 | h_7 => exact accounted
      all_goals exact accounted ▸ .nil
    cases phase with
    | refused | failed => exact migrates
    | _ => cases raises
  | migrated settings at_ =>
    rw [Known, at_] at known
    rw [at_] at accounted
    simp only [Accounted, accounted, if_pos, List.nil_append]
    refine ⟨Nat.le_refl 1, fun commit member => ?_⟩
    obtain rfl := List.mem_singleton.mp member
    exact ⟨rfl, rfl, known⟩
  | loaded settings at_ loads =>
    rw [at_] at accounted
    simp only [Accounted, loads]
    exact accounted
  | updated settings update at_ updates same =>
    rw [at_] at accounted
    simp only [Accounted, updates, if_pos]
    exact ⟨⟨_, _, rfl, accounted, rfl, rfl, rfl⟩, rfl⟩

/-- A write goes on from what was stored. -/
theorem chained_take (chained : Chained files processes) :
    Chained files (processes.take index call result) := by
  intro pluginId
  have before := chained pluginId
  cases write : result.write with
  | none =>
    simp only [commitsOn, take, write] at before ⊢
    exact before
  | some written =>
    obtain ⟨expected, settings⟩ := written
    simp only [commitsOn, take, write, List.filter_append, List.filter_cons, List.filter_nil,
      decide_eq_true_eq] at before ⊢
    by_cases same : call.spec.pluginId = pluginId
    · subst same
      rw [if_pos rfl, List.map_append, List.map_append, List.map_singleton, List.map_singleton,
        Function.update_self, before]
      rfl
    · rw [if_neg same, List.append_nil, Function.update_of_ne (Ne.symm same)]
      exact before

/-- What is committed raises the revision by one. -/
theorem raises_of_moves (known : Known library processes call)
    (moves : Moves library processes call result) {expected : Option Int}
    {settings : PluginSettings Real} (write : result.write = some (expected, settings)) :
    Raises ⟨call.spec.pluginId, index, expected, processes.files call.spec.pluginId, settings⟩ := by
  cases moves with
  | migrated migrated at_ =>
    cases write
    rw [Known, at_] at known
    obtain ⟨old, reads, _, migrates⟩ := known
    exact ⟨old.revision, storedRevision_of_read reads, revision_of_migrateChecked migrates, nofun⟩
  | updated current update at_ updates same =>
    cases write
    rw [Known, at_] at known
    refine ⟨current.revision, known, rfl, fun named member => ?_⟩
    rw [← Option.some.inj member, same]
  | _ => cases write

theorem sound_take (sound : Sound library files processes)
    (stored : processes.calls[index]? = some call) (moves : Moves library processes call result) :
    Sound library files (processes.take index call result) where
  alone := alone_take sound stored moves
  known other otherCall otherStored := by
    rw [calls_take stored] at otherStored
    split at otherStored
    · obtain rfl := Option.some.inj otherStored
      exact known_of_moves moves
    · rename_i different
      refine (sound.known other otherCall otherStored).congr fun holds => ?_
      cases write : result.write with
      | none => simp only [take, write]
      | some written =>
        -- A call that writes holds the lock, so this one does not.
        exact absurd (sound.alone _ _ _ _ otherStored stored holds (moves.writes write)) different
  accounted other otherCall otherStored := by
    rw [calls_take stored] at otherStored
    split at otherStored
    · rename_i same
      obtain rfl := Option.some.inj otherStored
      rw [same]
      exact accounted_of_moves (sound.known index call stored) (sound.accounted index call stored)
        moves
    · rename_i different
      have kept : (processes.take index call result).commitsOf other =
          processes.commitsOf other := by
        rw [commitsOf_take]
        split
        · rfl
        · exact if_neg (Ne.symm different)
      rw [kept]
      exact sound.accounted other otherCall otherStored
  raises commit member := by
    cases write : result.write with
    | none =>
      simp only [take, write] at member
      exact sound.raises commit member
    | some written =>
      obtain ⟨expected, settings⟩ := written
      simp only [take, write, List.mem_append, List.mem_singleton] at member
      rcases member with old | rfl
      · exact sound.raises commit old
      · exact raises_of_moves (sound.known index call stored) moves write
  callers commit member := by
    have bound := (List.getElem?_eq_some_iff.mp stored).1
    rw [take, List.length_set]
    cases write : result.write with
    | none =>
      simp only [take, write] at member
      exact sound.callers commit member
    | some written =>
      simp only [take, write, List.mem_append, List.mem_singleton] at member
      rcases member with old | rfl
      · exact sound.callers commit old
      · exact bound
  chained := chained_take sound.chained

theorem sound_step {action : Action Real} (sound : Sound library files processes)
    (steps : step library processes action = some next) : Sound library files next := by
  cases action with
  | load maxSettingsBytes spec =>
    obtain rfl := Option.some.inj steps
    exact sound_begins sound (Or.inl rfl)
  | update maxSettingsBytes spec update =>
    obtain rfl := Option.some.inj steps
    refine sound_begins sound ?_
    cases validateUpdate library spec update with
    | ok _ => exact Or.inl rfl
    | error refusal => exact Or.inr ⟨refusal, rfl⟩
  | advance index fault =>
    obtain ⟨call, stored, takes⟩ := Option.bind_eq_some_iff.mp steps
    obtain ⟨result, effects, rfl⟩ := Option.map_eq_some_iff.mp takes
    exact sound_take sound stored (moves_of_effect effects)

variable {actions : List (Action Real)}

theorem sound_run (runs : Machine.run (step library) (start files) actions = some processes) :
    Sound library files processes :=
  Machine.invariant_run (Sound library files) (fun _ _ _ => sound_step) sound_start runs

end

/-! ### Updates -/

section

variable (library : SchemaLibrary Real) [FloatText Real] (files : String → Option (List Char))

/-- An update that returns committed what it was given last. -/
theorem updates_of_returned {processes : SettingsProcesses Real} {actions : List (Action Real)}
    (runs : Machine.run (step library) (start files) actions = some processes) {index : Nat}
    {call : SettingsCall Real} {update : SettingsUpdate Real} {settings : PluginSettings Real}
    (stored : processes.calls[index]? = some call) (updates : call.update = some update)
    (returned : call.phase = .returned settings) :
    Updates library call.maxSettingsBytes call.spec update settings (processes.commitsOf index) := by
  have accounted := (sound_run runs).accounted index call stored
  simp only [Accounted, returned, updates] at accounted
  exact accounted

/-- However loads and updates of any stores interleave: an update that raises has committed nothing,
or the migration that a load commits; one that returns has committed last its configuration, under
the revision that it named. Every commit replaced what the one before it on the same document
wrote, was made under the revision that this had, and raised it by one. -/
theorem updates_account {processes : SettingsProcesses Real} {actions : List (Action Real)}
    (runs : Machine.run (step library) (start files) actions = some processes) :
    (∀ (index : Nat) (call : SettingsCall Real) (update : SettingsUpdate Real),
      processes.calls[index]? = some call → call.update = some update →
      (call.phase.raised = true →
        Migrates library call.maxSettingsBytes call.spec (processes.commitsOf index)) ∧
      ∀ settings, call.phase = .returned settings →
        Updates library call.maxSettingsBytes call.spec update settings
          (processes.commitsOf index)) ∧
    (∀ commit ∈ processes.history, Raises commit) ∧ Chained files processes := by
  have sound := sound_run runs
  refine ⟨fun index call update stored updates => ⟨fun raised => ?_, fun settings returned => ?_⟩,
    sound.raises, sound.chained⟩
  · have accounted := sound.accounted index call stored
    rw [Accounted] at accounted
    cases phase : call.phase with
    | refused | failed =>
      rw [phase] at accounted
      exact accounted
    | _ =>
      rw [phase] at raised
      cases raised
  · exact updates_of_returned library files runs stored updates returned

end

/-! ### An update of an older document -/

/-- A library that finds nothing wrong. -/
def acceptingLibrary : SchemaLibrary ExactDecimal where
  checkSchema _ := true
  iterErrors _ _ := []
  search _ _ := false
  resolve _ _ := none

/-- A contract that takes configurations of the version before as they are. -/
def upgradingSpec : PluginConfigurationSpec ExactDecimal where
  pluginId := "denoise"
  pluginVersion := "0.2.0"
  schema := ⟨[], Json.readable_nil⟩
  defaults := ⟨[], Json.readable_nil⟩
  migrations := [⟨"0.1.0", "0.2.0", .object⟩]

/-- An update of the third revision to an empty configuration. -/
def emptyUpdate (expectedRevision : Int) : SettingsUpdate ExactDecimal :=
  ⟨expectedRevision, [], Json.readable_nil⟩

/-- Two updates of a document that there is not yet, one between the steps of the other. -/
def racingUpdates : List (Action ExactDecimal) :=
  [.update 1024 upgradingSpec (emptyUpdate 0), .update 1024 upgradingSpec (emptyUpdate 0),
    .advance 0 false, .advance 0 false, .advance 0 false, .advance 1 false, .advance 1 false,
    .advance 1 false, .advance 1 false]

/-- One of two updates of one revision is accepted, and the other is refused. -/
theorem updates_account_racing : ∃ processes : SettingsProcesses ExactDecimal,
    Machine.run (step acceptingLibrary) (start fun _ => none) racingUpdates = some processes ∧
      processes.calls.map (fun call => call.phase.raised) = [false, true] ∧
      (∀ commit ∈ processes.history, Raises commit) ∧ Chained (fun _ => none) processes := by
  have passes : (Machine.run (step acceptingLibrary) (start fun _ => none) racingUpdates).any
      fun processes => decide (processes.calls.map (fun call => call.phase.raised) =
        [false, true]) := by decide +kernel
  obtain ⟨processes, runs, raised⟩ := Machine.exists_run_of_any passes
  exact ⟨processes, runs, of_decide_eq_true raised,
    (updates_account acceptingLibrary (fun _ => none) runs).2⟩

/-- The directory with a document of the version before. -/
def olderFiles : String → Option (List Char) := fun pluginId =>
  if pluginId = "denoise" then
    some (storedText (⟨"denoise", "0.1.0", 3, [], Json.readable_nil⟩ :
      PluginSettings ExactDecimal))
  else none

/-- An update that names the revision of an older document is refused, and leaves the document
migrated under the next revision. -/
theorem not_unchanged_of_raised :
    ¬ ∀ (library : SchemaLibrary ExactDecimal) (files : String → Option (List Char))
      (maxSettingsBytes : Nat) (spec : PluginConfigurationSpec ExactDecimal)
      (update : SettingsUpdate ExactDecimal) (faults : List Bool)
      (processes : SettingsProcesses ExactDecimal),
      Machine.run (step library) (start files)
          (.update maxSettingsBytes spec update :: faults.map (.advance 0)) = some processes →
        (∀ call ∈ processes.calls, call.phase.raised = true) →
        processes.files spec.pluginId = files spec.pluginId := by
  intro unchanged
  have passes : (Machine.run (step acceptingLibrary) (start olderFiles)
      (.update 1024 upgradingSpec (emptyUpdate 3) ::
        [false, false, false, false, false].map (.advance 0))).any fun processes =>
          processes.calls.all (fun call => call.phase.raised) &&
            decide (processes.files "denoise" ≠ olderFiles "denoise") := by decide +kernel
  obtain ⟨processes, runs, outcome⟩ := Machine.exists_run_of_any passes
  rw [Bool.and_eq_true, List.all_eq_true, decide_eq_true_eq] at outcome
  exact outcome.2 (unchanged _ _ _ _ _ _ processes runs outcome.1)

end SettingsProcesses

end Omnitensor
