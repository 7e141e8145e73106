/-
This file says which migrations a load of older settings applies, and when it refuses.

The migrations of a contract are a graph of versions in which each version is left by one migration at most.
The loop counts its turns beside the versions that it left. It ends in every graph. A chain that arrives at
the version of the contract is applied migration by migration, and a chain that comes back is refused as a
cycle. Where the chain ends short, a migration is missing, which is what the loop says while some migration
is left unused.
-/

import Omnitensor.GraphChains
import Omnitensor.SettingsProcesses

namespace Omnitensor

namespace PluginSettingsStore

variable {Real : Type}

/-! ### The loop -/

/-- What the loop of a migration knows at the beginning of a turn. -/
structure MigrationWalk (Real : Type) where
  version : String
  configuration : JsonObject Real
  visited : List String
  steps : Nat

/-- One turn, at a version other than that of the contract. -/
def MigrationWalk.turn (spec : PluginConfigurationSpec Real) (walk : MigrationWalk Real) :
    Except PluginSettingsError (MigrationWalk Real) :=
  if walk.version ∈ walk.visited ∨ 0 < walk.steps ∧ spec.migrations.length ≤ walk.steps then
    .error (.migrationCycle walk.version)
  else
    match spec.migrations.find? fun migration => decide (migration.sourceVersion = walk.version) with
    | none => .error (.migrationMissing walk.version spec.pluginVersion)
    | some migration =>
      match migration.transform walk.configuration with
      | .raised error =>
        .error (.migrationFailed walk.version migration.targetVersion ("raised " ++ error))
      | .other =>
        .error (.migrationFailed walk.version migration.targetVersion "returned a non-object")
      | .object configuration =>
        .ok ⟨migration.targetVersion, configuration, walk.version :: walk.visited, walk.steps + 1⟩

/-- What the loop gives in so many turns, if it ends in them. -/
def follow (spec : PluginConfigurationSpec Real) :
    Nat → MigrationWalk Real → Option (Except PluginSettingsError (JsonObject Real))
  | 0, _ => none
  | turns + 1, walk =>
    if walk.version = spec.pluginVersion then some (.ok walk.configuration)
    else
      match walk.turn spec with
      | .error refusal => some (.error refusal)
      | .ok walk => follow spec turns walk

/-- The loop ends, after one turn for each migration and one more. -/
theorem follow_eq {spec : PluginConfigurationSpec Real} {turns : Nat} {walk : MigrationWalk Real}
    (counted : walk.steps ≤ max 1 spec.migrations.length)
    (enough : max 1 spec.migrations.length < turns + walk.steps) :
    follow spec turns walk = some (migrateFrom spec (max 1 spec.migrations.length - walk.steps)
      walk.visited walk.version walk.configuration) := by
  induction turns generalizing walk with
  | zero => omega
  | succ turns inductionHypothesis =>
    rw [follow]
    rcases Nat.eq_zero_or_pos (max 1 spec.migrations.length - walk.steps) with full | room
    · rw [full, migrateFrom]
      split
      · rfl
      · rw [MigrationWalk.turn, if_pos (Or.inr ⟨by omega, by omega⟩)]
    · obtain ⟨fuel, left⟩ := Nat.exists_eq_succ_of_ne_zero room.ne'
      rw [left, migrateFrom, MigrationWalk.turn]
      split
      · rfl
      have spare : ¬ (0 < walk.steps ∧ spec.migrations.length ≤ walk.steps) := by omega
      by_cases seen : walk.version ∈ walk.visited
      · rw [if_pos (Or.inl seen), if_pos seen]
      · rw [if_neg (not_or.mpr ⟨seen, spare⟩), if_neg seen]
        cases spec.migrations.find? fun migration => decide (migration.sourceVersion = walk.version) with
        | none => rfl
        | some migration =>
          dsimp only
          cases migration.transform walk.configuration with
          | raised error => rfl
          | other => rfl
          | object configuration =>
            have next := @inductionHypothesis ⟨migration.targetVersion, configuration,
              walk.version :: walk.visited, walk.steps + 1⟩ (by dsimp only; omega) (by dsimp only; omega)
            dsimp only at next ⊢
            rw [next, show max 1 spec.migrations.length - (walk.steps + 1) = fuel by omega]

/-! ### The graph of versions -/

/-- The versions, with the migration that leaves each. -/
def versions (spec : PluginConfigurationSpec Real) :
    FunctionalGraph String (ConfigurationMigration Real) where
  edge version := spec.migrations.find? fun migration => decide (migration.sourceVersion = version)
  source := ConfigurationMigration.sourceVersion
  target := ConfigurationMigration.targetVersion
  leaves found := of_decide_eq_true (List.find?_some found :)

/-- What migrations make of a configuration, one after another, if each gives an object. -/
def transformAll : List (ConfigurationMigration Real) → JsonObject Real → Option (JsonObject Real)
  | [], configuration => some configuration
  | migration :: migrations, configuration =>
    match migration.transform configuration with
    | .object configuration => transformAll migrations configuration
    | _ => none

/-- Every migration gives an object. -/
def Total (spec : PluginConfigurationSpec Real) : Prop :=
  ∀ migration ∈ spec.migrations, ∀ configuration, ∃ result,
    migration.transform configuration = .object result

variable {spec : PluginConfigurationSpec Real} {start stop : String}
  {migrations : List (ConfigurationMigration Real)} {configuration result : JsonObject Real}
  {fuel : Nat} {visited : List String}

theorem mem_of_edge {version : String} {migration : ConfigurationMigration Real}
    (found : (versions spec).edge version = some migration) : migration ∈ spec.migrations :=
  List.mem_of_find?_eq_some found

theorem exists_transformAll (total : Total spec) (among : migrations ⊆ spec.migrations)
    (configuration : JsonObject Real) : ∃ result, transformAll migrations configuration = some result := by
  induction migrations generalizing configuration with
  | nil => exact ⟨configuration, rfl⟩
  | cons migration migrations inductionHypothesis =>
    obtain ⟨member, others⟩ := List.cons_subset.mp among
    obtain ⟨next, given⟩ := total migration member configuration
    rw [transformAll, given]
    exact inductionHypothesis others next

/-- The loop goes along a chain that leaves no version twice. -/
theorem migrateFrom_of_chain (chain : (versions spec).Chain spec.pluginVersion start migrations stop)
    (applied : transformAll migrations configuration = some result)
    (fresh : ∀ version ∈ migrations.map (versions spec).source, version ∉ visited)
    (different : (migrations.map (versions spec).source).Nodup) (few : migrations.length ≤ fuel) :
    ∃ seen, (∀ version, version ∈ seen ↔
        version ∈ visited ∨ version ∈ migrations.map (versions spec).source) ∧
      migrateFrom spec fuel visited start configuration =
        migrateFrom spec (fuel - migrations.length) seen stop result := by
  induction chain generalizing fuel visited configuration with
  | nil version =>
    cases applied
    exact ⟨visited, fun _ => (or_iff_left List.not_mem_nil).symm, rfl⟩
  | @cons version stop migration migrations away found rest inductionHypothesis =>
    obtain ⟨left, others⟩ := List.forall_mem_cons.mp fresh
    obtain ⟨once, different⟩ := List.nodup_cons.mp different
    have source := (versions spec).leaves found
    rw [source] at left once
    obtain ⟨fuel, rfl⟩ := Nat.exists_eq_add_of_le' ((Nat.succ_pos _).trans_le few)
    rw [transformAll] at applied
    cases given : migration.transform configuration with
    | raised error => rw [given] at applied; cases applied
    | other => rw [given] at applied; cases applied
    | object next =>
      rw [given] at applied
      obtain ⟨seen, known, same⟩ := @inductionHypothesis next fuel (version :: visited) applied
        (fun other member => by
          rw [List.mem_cons, not_or]
          exact ⟨fun again => once (again ▸ member), others other member⟩) different
        (Nat.le_of_succ_le_succ few)
      refine ⟨seen, fun other => ?_, ?_⟩
      · rw [known, List.mem_cons, List.map_cons, List.mem_cons, source]
        tauto
      · rw [migrateFrom, if_neg away, if_neg left, show (spec.migrations.find? fun migration =>
          decide (migration.sourceVersion = version)) = some migration from found]
        dsimp only
        rw [given]
        dsimp only
        rw [List.length_cons, Nat.add_sub_add_right]
        exact same

theorem migrateFrom_target (fuel : Nat) (visited : List String) (configuration : JsonObject Real) :
    migrateFrom spec fuel visited spec.pluginVersion configuration = .ok configuration := by
  cases fuel <;> rw [migrateFrom, if_pos rfl]

theorem migrateFrom_of_mem {version : String} (away : version ≠ spec.pluginVersion)
    (seen : version ∈ visited) (configuration : JsonObject Real) :
    migrateFrom spec fuel visited version configuration = .error (.migrationCycle version) := by
  cases fuel with
  | zero => rw [migrateFrom, if_neg away]
  | succ fuel => rw [migrateFrom, if_neg away, if_pos seen]

/-- What the loop gives, from the beginning. -/
def migrated (spec : PluginConfigurationSpec Real) (start : String) (configuration : JsonObject Real) :
    Except PluginSettingsError (JsonObject Real) :=
  migrateFrom spec (max 1 spec.migrations.length) [] start configuration

theorem length_le_of_chain (chain : (versions spec).Chain spec.pluginVersion start migrations stop)
    (different : (migrations.map (versions spec).source).Nodup) :
    migrations.length ≤ max 1 spec.migrations.length :=
  (chain.length_le mem_of_edge different).trans (Nat.le_max_right _ _)

/-- The loop goes along a chain from the beginning. -/
theorem migrated_of_chain (chain : (versions spec).Chain spec.pluginVersion start migrations stop)
    (applied : transformAll migrations configuration = some result)
    (different : (migrations.map (versions spec).source).Nodup) :
    ∃ seen, (∀ version, version ∈ seen ↔ version ∈ migrations.map (versions spec).source) ∧
      migrated spec start configuration =
        migrateFrom spec (max 1 spec.migrations.length - migrations.length) seen stop result := by
  have unseen : ∀ version ∈ migrations.map (versions spec).source, version ∉ ([] : List String) :=
    fun _ _ => List.not_mem_nil
  obtain ⟨seen, known, same⟩ := migrateFrom_of_chain chain applied unseen different
    (length_le_of_chain chain different)
  exact ⟨seen, fun version => (known version).trans (or_iff_right List.not_mem_nil), same⟩

/-- A chain that arrives is applied. -/
theorem migrated_of_arrives
    (chain : (versions spec).Chain spec.pluginVersion start migrations spec.pluginVersion)
    (applied : transformAll migrations configuration = some result) :
    migrated spec start configuration = .ok result := by
  obtain ⟨different, _⟩ := FunctionalGraph.Stops.nodup ⟨chain, Or.inl rfl⟩
  obtain ⟨seen, _, same⟩ := migrated_of_chain chain applied different
  rw [same, migrateFrom_target]

/-- Where a chain ends short, a migration is missing, unless the chain used every migration. -/
theorem migrated_of_deadEnd (total : Total spec)
    (ends : (versions spec).DeadEnd spec.pluginVersion start migrations stop) :
    migrated spec start configuration =
      if migrations.length < max 1 spec.migrations.length then
        .error (.migrationMissing stop spec.pluginVersion)
      else .error (.migrationCycle stop) := by
  obtain ⟨chain, away, last⟩ := ends
  obtain ⟨different, unseen⟩ := FunctionalGraph.Stops.nodup ⟨chain, Or.inr last⟩
  obtain ⟨result, applied⟩ := exists_transformAll total (chain.subset mem_of_edge) configuration
  obtain ⟨seen, known, same⟩ := migrated_of_chain chain applied different
  rw [same]
  split
  · rename_i room
    obtain ⟨fuel, left⟩ := Nat.exists_eq_add_of_lt room
    have fresh : stop ∉ seen := mt (known stop).mp unseen
    rw [show max 1 spec.migrations.length - migrations.length = fuel + 1 by omega, migrateFrom,
      if_neg away, if_neg fresh, show (spec.migrations.find? fun migration =>
        decide (migration.sourceVersion = stop)) = none from last]
  · rename_i full
    rw [Nat.sub_eq_zero_of_le (not_lt.mp full), migrateFrom, if_neg away]

/-- A chain that comes back is a cycle. -/
theorem migrated_of_returns (total : Total spec)
    (returns : (versions spec).Returns spec.pluginVersion start migrations stop)
    (configuration : JsonObject Real) :
    ∃ version, migrated spec start configuration = .error (.migrationCycle version) := by
  obtain ⟨first, version, chain, different, stops | ⟨_, away, left⟩⟩ :=
    (versions spec).stops_or_returns spec.pluginVersion mem_of_edge start
  · exact absurd returns stops.not_returns
  · obtain ⟨result, applied⟩ := exists_transformAll total (chain.subset mem_of_edge) configuration
    obtain ⟨seen, known, same⟩ := migrated_of_chain chain applied different
    exact ⟨version, same.trans (migrateFrom_of_mem away ((known version).mpr left) result)⟩

theorem chain_cases (spec : PluginConfigurationSpec Real) (start : String) :
    (∃ migrations, (versions spec).Chain spec.pluginVersion start migrations spec.pluginVersion) ∨
      (∃ migrations stop, (versions spec).DeadEnd spec.pluginVersion start migrations stop) ∨
      ∃ migrations stop, (versions spec).Returns spec.pluginVersion start migrations stop := by
  obtain ⟨migrations, stop, _, _, ⟨chain, ends⟩ | returns⟩ :=
    (versions spec).stops_or_returns spec.pluginVersion mem_of_edge start
  · by_cases arrived : stop = spec.pluginVersion
    · exact Or.inl ⟨migrations, arrived ▸ chain⟩
    · exact Or.inr (Or.inl ⟨migrations, stop, chain, arrived, ends.resolve_left arrived⟩)
  · exact Or.inr (Or.inr ⟨migrations, stop, returns⟩)

/-- The loop gives a configuration exactly if the chain arrives, and then what the chain makes of it. -/
theorem migrated_eq_ok (total : Total spec) : migrated spec start configuration = .ok result ↔
    ∃ migrations, (versions spec).Chain spec.pluginVersion start migrations spec.pluginVersion ∧
      transformAll migrations configuration = some result := by
  constructor
  · intro given
    rcases chain_cases spec start with ⟨migrations, chain⟩ | ⟨migrations, stop, ends⟩ |
      ⟨migrations, stop, returns⟩
    · obtain ⟨other, applied⟩ := exists_transformAll total (chain.subset mem_of_edge) configuration
      cases (migrated_of_arrives chain applied).symm.trans given
      exact ⟨migrations, chain, applied⟩
    · rw [migrated_of_deadEnd total ends] at given
      split at given <;> cases given
    · obtain ⟨version, refused⟩ := migrated_of_returns total returns configuration
      cases refused.symm.trans given
  · rintro ⟨migrations, chain, applied⟩
    exact migrated_of_arrives chain applied

/-- The chains of a version that is not that of the contract use a migration. -/
theorem ne_nil_of_chain (older : start ≠ stop)
    (chain : (versions spec).Chain spec.pluginVersion start migrations stop) : migrations ≠ [] := by
  rintro rfl
  cases chain
  exact older rfl

theorem eq_nil_of_chain (chain : (versions spec).Chain spec.pluginVersion spec.pluginVersion migrations stop) :
    migrations = [] := by
  cases chain with
  | nil _ => rfl
  | cons away _ _ => exact absurd rfl away

/-! ### Loads -/

section

variable (library : SchemaLibrary Real) [FloatText Real]

/-- A load under the lock, and the file after it. -/
def load (maxSettingsBytes : Nat) (spec : PluginConfigurationSpec Real) (file : Option (List Char)) :
    Except PluginSettingsError (PluginSettings Real) × Option (List Char) :=
  match prepareSpec library spec with
  | .error refusal => (.error refusal, file)
  | .ok _ =>
    match file with
    | none => (.ok ⟨spec.pluginId, spec.pluginVersion, 0, spec.defaults⟩, none)
    | some text =>
      match read maxSettingsBytes (some text) spec.pluginId with
      | .error refusal => (.error refusal, some text)
      | .ok settings =>
        if settings.pluginVersion = spec.pluginVersion then
          match validatePersistedConfiguration library spec.schema settings.configuration with
          | .error refusal => (.error refusal, some text)
          | .ok _ => (.ok settings, some text)
        else
          match SettingsProcesses.migrateChecked library maxSettingsBytes spec settings with
          | .error refusal => (.error refusal, some text)
          | .ok migrated => (.ok migrated, some (storedText migrated))

/-- A load that is refused leaves the document as it was. -/
theorem file_of_load_error {maxSettingsBytes : Nat} {file after : Option (List Char)}
    {refusal : PluginSettingsError}
    (refused : load library maxSettingsBytes spec file = (.error refusal, after)) : after = file := by
  unfold load at refused
  split at refused
  · exact (Prod.mk.inj refused).2.symm
  split at refused
  · cases (Prod.mk.inj refused).1
  split at refused
  · exact (Prod.mk.inj refused).2.symm
  split at refused
  · split at refused
    · exact (Prod.mk.inj refused).2.symm
    · cases (Prod.mk.inj refused).1
  · split at refused
    · exact (Prod.mk.inj refused).2.symm
    · cases (Prod.mk.inj refused).1

/-- What a load of a document gives, whose version has a chain of migrations to that of the contract. -/
def Loads (maxSettingsBytes : Nat) (spec : PluginConfigurationSpec Real) (text : List Char)
    (settings : PluginSettings Real) (migrations : List (ConfigurationMigration Real))
    (loaded : PluginSettings Real) (file : Option (List Char)) : Prop :=
  (versions spec).Chain spec.pluginVersion settings.pluginVersion migrations spec.pluginVersion ∧
    (migrations.map ConfigurationMigration.sourceVersion).Nodup ∧
    transformAll migrations settings.configuration = some loaded.configuration ∧
    validatePersistedConfiguration library spec.schema loaded.configuration = .ok () ∧
    if migrations = [] then loaded = settings ∧ file = some text
    else loaded = ⟨settings.pluginId, spec.pluginVersion, settings.revision + 1, loaded.configuration⟩ ∧
      ∃ stored, encode maxSettingsBytes loaded = .ok stored ∧ file = some stored

variable {library} {maxSettingsBytes : Nat} {text : List Char} {settings : PluginSettings Real}

theorem load_of_read (prepared : prepareSpec library spec = .ok ())
    (reads : read maxSettingsBytes (some text) spec.pluginId = .ok settings) :
    load library maxSettingsBytes spec (some text) =
      if settings.pluginVersion = spec.pluginVersion then
        match validatePersistedConfiguration library spec.schema settings.configuration with
        | .error refusal => (.error refusal, some text)
        | .ok _ => (.ok settings, some text)
      else
        match SettingsProcesses.migrateChecked library maxSettingsBytes spec settings with
        | .error refusal => (.error refusal, some text)
        | .ok migrated => (.ok migrated, some (storedText migrated)) := by
  rw [load, prepared]
  dsimp only
  rw [reads]

theorem encode_eq_ok {stored : List Char} (encoded : encode maxSettingsBytes settings = .ok stored) :
    stored = storedText settings := by
  rw [encode] at encoded
  split at encoded
  · cases encoded
  split at encoded
  · cases encoded
  · exact (Except.ok.inj encoded).symm

/-- A load succeeds exactly along a chain that arrives. -/
theorem load_eq_ok (total : Total spec) (prepared : prepareSpec library spec = .ok ())
    (reads : read maxSettingsBytes (some text) spec.pluginId = .ok settings)
    {loaded : PluginSettings Real} {file : Option (List Char)} :
    load library maxSettingsBytes spec (some text) = (.ok loaded, file) ↔
      ∃ migrations, Loads library maxSettingsBytes spec text settings migrations loaded file := by
  rw [load_of_read prepared reads]
  split
  · rename_i same
    constructor
    · intro given
      split at given
      · cases (Prod.mk.inj given).1
      · rename_i valid
        obtain ⟨kept, left⟩ := Prod.mk.inj given
        cases kept
        exact ⟨[], same ▸ .nil _, List.nodup_nil, rfl, valid, rfl, left.symm⟩
    · rintro ⟨migrations, chain, _, _, valid, outcome⟩
      rw [same] at chain
      rw [if_pos (eq_nil_of_chain chain)] at outcome
      obtain ⟨rfl, rfl⟩ := outcome
      rw [valid]
  · rename_i older
    have checked : SettingsProcesses.migrateChecked library maxSettingsBytes spec settings = .ok loaded ↔
        ∃ configuration, migrated spec settings.pluginVersion settings.configuration = .ok configuration ∧
          loaded = ⟨settings.pluginId, spec.pluginVersion, settings.revision + 1, configuration⟩ ∧
          validatePersistedConfiguration library spec.schema configuration = .ok () ∧
          ∃ stored, encode maxSettingsBytes loaded = .ok stored := by
      rw [SettingsProcesses.migrateChecked, bind_eq_ok]
      constructor
      · rintro ⟨moved, ran, rest⟩
        obtain ⟨configuration, given, rfl⟩ := map_eq_ok.mp ran
        obtain ⟨_, valid, rest⟩ := bind_eq_ok.mp rest
        obtain ⟨stored, encoded, kept⟩ := bind_eq_ok.mp rest
        cases kept
        exact ⟨configuration, given, rfl, valid, stored, encoded⟩
      · rintro ⟨configuration, given, rfl, valid, stored, encoded⟩
        exact ⟨_, map_eq_ok.mpr ⟨configuration, given, rfl⟩, bind_eq_ok.mpr ⟨_, valid,
          bind_eq_ok.mpr ⟨stored, encoded, rfl⟩⟩⟩
    constructor
    · intro given
      split at given
      · cases (Prod.mk.inj given).1
      · rename_i other ran
        obtain ⟨kept, left⟩ := Prod.mk.inj given
        cases kept
        obtain ⟨configuration, moved, rfl, valid, stored, encoded⟩ := checked.mp ran
        obtain ⟨migrations, chain, applied⟩ := (migrated_eq_ok total).mp moved
        refine ⟨migrations, chain, (FunctionalGraph.Stops.nodup ⟨chain, Or.inl rfl⟩).1, applied, valid, ?_⟩
        rw [if_neg (ne_nil_of_chain older chain)]
        exact ⟨rfl, stored, encoded, by rw [← left, encode_eq_ok encoded]⟩
    · rintro ⟨migrations, chain, _, applied, valid, outcome⟩
      rw [if_neg (ne_nil_of_chain older chain)] at outcome
      obtain ⟨kept, stored, encoded, rfl⟩ := outcome
      rw [checked.mpr ⟨loaded.configuration, (migrated_eq_ok total).mpr ⟨migrations, chain, applied⟩, kept,
        valid, stored, encoded⟩]
      dsimp only
      rw [encode_eq_ok encoded]

/-! ### Documents that were written -/

/-- The settings of the document of settings. -/
theorem parse_settingsDocument (settings : PluginSettings Real) {document : JsonObject Real}
    (same : document.1 = [("documentVersion", .int settingsDocumentVersion),
      ("pluginId", .string settings.pluginId), ("pluginVersion", .string settings.pluginVersion),
      ("revision", .int settings.revision), ("configuration", .object settings.configuration.1)])
    (versioned : Pattern.configurationVersion settings.pluginVersion = true) :
    parse document settings.pluginId = .ok settings := by
  have identity : Json.field document.1 "pluginId" = some (.string settings.pluginId) := by
    rw [same]; rfl
  have version : Json.field document.1 "pluginVersion" = some (.string settings.pluginVersion) := by
    rw [same]; rfl
  have revision : Json.field document.1 "revision" = some (.int settings.revision) := by
    rw [same]; rfl
  have configuration : Json.field document.1 "configuration" = some (.object settings.configuration.1) := by
    rw [same]; rfl
  have fields : Json.hasFields document.1
      ["documentVersion", "pluginId", "pluginVersion", "revision", "configuration"] = true := by
    rw [same]; rfl
  have known : knownVersion (Json.field document.1 "documentVersion") = true := by
    rw [same]; rfl
  simp only [parse, fields, known, identity, version, versioned, revision]
  rw [if_neg (by decide), if_neg (by decide), if_neg (fun differs => differs rfl), if_neg (by decide),
    if_neg (not_lt.mpr (Int.natCast_nonneg _))]
  split
  · rename_i found
    cases configuration.symm.trans found
    rfl
  · rename_i absent
    exact absurd configuration (absent _)

/-- What is written is read. -/
theorem read_storedText (settings : PluginSettings Real)
    (versioned : Pattern.configurationVersion settings.pluginVersion = true)
    (short : Json.byteLength (storedText settings) ≤ maxSettingsBytes) :
    read maxSettingsBytes (some (storedText settings)) settings.pluginId = .ok settings := by
  have loads := Json.loads_dumps (SettingsProcesses.readable_settingsDocument settings)
  rw [PluginSettingsStore.read, if_neg (not_lt.mpr short), decode]
  split
  · rename_i none
    cases loads.symm.trans none
  · rename_i document found
    cases loads.symm.trans found
    exact parse_settingsDocument settings rfl versioned
  · rename_i other found
    cases loads.symm.trans found
    exact absurd rfl (other _)

end

/-! ### Loads among other calls -/

section

variable (library : SchemaLibrary Real)

variable [FloatText Real]

variable {library} {processes : SettingsProcesses Real} {index : Nat} {call : SettingsCall Real}
  {phase : SettingsPhase Real} {files : String → Option (List Char)}

end

/-! ### Refusals -/

section

variable {library : SchemaLibrary Real} [FloatText Real] {maxSettingsBytes : Nat} {text : List Char}
  {settings : PluginSettings Real}

omit [FloatText Real] in
/-- A configuration is not refused for its migrations. -/
theorem code_of_validate {schema configuration : JsonObject Real} {refusal : PluginSettingsError}
    (refused : validatePersistedConfiguration library schema configuration = .error refusal) :
    refusal.code ≠ "migration-missing" ∧ refusal.code ≠ "migration-cycle" := by
  rw [validatePersistedConfiguration] at refused
  split at refused
  · rename_i error _
    cases refused
    cases error <;> simp [secretRefusal, PluginSettingsError.code]
  · split at refused <;> cases refused
    simp [PluginSettingsError.code]

theorem code_of_encode {refusal : PluginSettingsError}
    (refused : encode maxSettingsBytes settings = .error refusal) :
    refusal.code ≠ "migration-missing" ∧ refusal.code ≠ "migration-cycle" := by
  rw [encode] at refused
  split at refused
  · cases refused
    simp [PluginSettingsError.code]
  split at refused <;> cases refused
  simp [PluginSettingsError.code]

/-- A load is refused for its migrations exactly if the loop is. -/
theorem refused_iff (prepared : prepareSpec library spec = .ok ())
    (reads : read maxSettingsBytes (some text) spec.pluginId = .ok settings) {code : String}
    (known : code = "migration-missing" ∨ code = "migration-cycle") :
    (∃ refusal file, load library maxSettingsBytes spec (some text) = (.error refusal, file) ∧
        refusal.code = code) ↔
      ∃ refusal, migrated spec settings.pluginVersion settings.configuration = .error refusal ∧
        refusal.code = code := by
  have other : ∀ {refusal : PluginSettingsError},
      refusal.code ≠ "migration-missing" ∧ refusal.code ≠ "migration-cycle" → refusal.code ≠ code := by
    intro refusal both same
    exact known.elim (fun missing => both.1 (same.trans missing)) fun cycle => both.2 (same.trans cycle)
  rw [load_of_read prepared reads]
  split
  · rename_i same
    refine iff_of_false ?_ ?_
    · rintro ⟨refusal, file, refused, coded⟩
      split at refused
      · rename_i invalid
        cases (Prod.mk.inj refused).1
        exact other (code_of_validate invalid) coded
      · cases (Prod.mk.inj refused).1
    · rintro ⟨refusal, refused, _⟩
      rw [same, migrated, migrateFrom_target] at refused
      cases refused
  · constructor
    · rintro ⟨refusal, file, refused, coded⟩
      split at refused
      · rename_i failure ran
        cases (Prod.mk.inj refused).1
        rw [SettingsProcesses.migrateChecked, migrate] at ran
        cases moved : migrateFrom spec (max 1 spec.migrations.length) [] settings.pluginVersion
            settings.configuration with
        | error failure =>
          rw [moved] at ran
          cases ran
          exact ⟨_, moved, coded⟩
        | ok configuration =>
          rw [moved, Except.map, ok_bind] at ran
          cases valid : validatePersistedConfiguration library spec.schema configuration with
          | error failure =>
            rw [valid] at ran
            cases ran
            exact absurd coded (other (code_of_validate valid))
          | ok _ =>
            rw [valid, ok_bind] at ran
            cases encoded : encode maxSettingsBytes
                ⟨settings.pluginId, spec.pluginVersion, settings.revision + 1, configuration⟩ with
            | error failure =>
              rw [encoded] at ran
              cases ran
              exact absurd coded (other (code_of_encode encoded))
            | ok stored =>
              rw [encoded] at ran
              cases ran
      · cases (Prod.mk.inj refused).1
    · rintro ⟨refusal, refused, coded⟩
      refine ⟨refusal, some text, ?_, coded⟩
      rw [SettingsProcesses.migrateChecked, migrate, show migrateFrom spec (max 1 spec.migrations.length) []
        settings.pluginVersion settings.configuration = .error refusal from refused]
      rfl

/-- A chain that ends short leaves a migration unused, if there is any. -/
def Spare (spec : PluginConfigurationSpec Real) (start : String) : Prop :=
  ∀ migrations stop, (versions spec).DeadEnd spec.pluginVersion start migrations stop →
    migrations.length < max 1 spec.migrations.length

omit [FloatText Real] in
theorem missing_iff (total : Total spec) (spare : Spare spec start) :
    (∃ refusal, migrated spec start configuration = .error refusal ∧ refusal.code = "migration-missing") ↔
      ∃ migrations stop, (versions spec).DeadEnd spec.pluginVersion start migrations stop := by
  constructor
  · rintro ⟨refusal, refused, coded⟩
    rcases chain_cases spec start with ⟨migrations, chain⟩ | ends | ⟨migrations, stop, returns⟩
    · obtain ⟨result, applied⟩ := exists_transformAll total (chain.subset mem_of_edge) configuration
      cases (migrated_of_arrives chain applied).symm.trans refused
    · exact ends
    · obtain ⟨version, cycle⟩ := migrated_of_returns total returns configuration
      cases cycle.symm.trans refused
      simp [PluginSettingsError.code] at coded
  · rintro ⟨migrations, stop, ends⟩
    refine ⟨_, (migrated_of_deadEnd total ends).trans (if_pos (spare migrations stop ends)), rfl⟩

omit [FloatText Real] in
theorem cycle_iff (total : Total spec) (spare : Spare spec start) :
    (∃ refusal, migrated spec start configuration = .error refusal ∧ refusal.code = "migration-cycle") ↔
      ∃ migrations stop, (versions spec).Returns spec.pluginVersion start migrations stop := by
  constructor
  · rintro ⟨refusal, refused, coded⟩
    rcases chain_cases spec start with ⟨migrations, chain⟩ | ⟨migrations, stop, ends⟩ | returns
    · obtain ⟨result, applied⟩ := exists_transformAll total (chain.subset mem_of_edge) configuration
      cases (migrated_of_arrives chain applied).symm.trans refused
    · cases ((migrated_of_deadEnd total ends).trans (if_pos (spare migrations stop ends))).symm.trans refused
      simp [PluginSettingsError.code] at coded
    · exact returns
  · rintro ⟨migrations, stop, returns⟩
    obtain ⟨version, cycle⟩ := migrated_of_returns total returns configuration
    exact ⟨_, cycle, rfl⟩

/-- What a load of a document does along the graph of versions. -/
structure FollowsVersions (library : SchemaLibrary Real) (maxSettingsBytes : Nat)
    (spec : PluginConfigurationSpec Real) (text : List Char) (settings : PluginSettings Real) : Prop where
  /-- The loop ends. -/
  ends : ∃ enough, ∀ turns ≥ enough,
    follow spec turns ⟨settings.pluginVersion, settings.configuration, [], 0⟩ =
      some (migrated spec settings.pluginVersion settings.configuration)
  succeeds : ∀ loaded file, load library maxSettingsBytes spec (some text) = (.ok loaded, file) ↔
    ∃ migrations, Loads library maxSettingsBytes spec text settings migrations loaded file
  missing : Spare spec settings.pluginVersion →
    ((∃ refusal file, load library maxSettingsBytes spec (some text) = (.error refusal, file) ∧
      refusal.code = "migration-missing") ↔ ∃ migrations stop,
        (versions spec).DeadEnd spec.pluginVersion settings.pluginVersion migrations stop)
  cycle : Spare spec settings.pluginVersion →
    ((∃ refusal file, load library maxSettingsBytes spec (some text) = (.error refusal, file) ∧
      refusal.code = "migration-cycle") ↔ ∃ migrations stop,
        (versions spec).Returns spec.pluginVersion settings.pluginVersion migrations stop)
  refused : ∀ refusal file, load library maxSettingsBytes spec (some text) = (.error refusal, file) →
    file = some text

/-- A load of a document follows the graph of versions. The loop ends, the load succeeds along a chain of
migrations that repeats no version, a dead end that leaves a migration unused is reported as a missing one
and coming back as a cycle, and a load that is refused leaves the document as it was. -/
theorem load_follows_versions (total : Total spec) (prepared : prepareSpec library spec = .ok ())
    (reads : read maxSettingsBytes (some text) spec.pluginId = .ok settings) :
    FollowsVersions library maxSettingsBytes spec text settings where
  ends := ⟨max 1 spec.migrations.length + 1, fun _ enough =>
    follow_eq (Nat.zero_le _) (Nat.lt_of_succ_le enough)⟩
  succeeds _ _ := load_eq_ok total prepared reads
  missing spare := (refused_iff prepared reads (Or.inl rfl)).trans (missing_iff total spare)
  cycle spare := (refused_iff prepared reads (Or.inr rfl)).trans (cycle_iff total spare)
  refused _ _ := file_of_load_error library

end

/-- A contract whose migration adds a member. -/
def labellingSpec : PluginConfigurationSpec ExactDecimal where
  pluginId := "denoise"
  pluginVersion := "0.2.0"
  schema := ⟨[], Json.readable_nil⟩
  defaults := ⟨[], Json.readable_nil⟩
  migrations := [⟨"0.1.0", "0.2.0", fun _ => .object
    ⟨[("label", .string "noise")], List.nodup_singleton "label",
      ⟨Json.whole_points _, Json.whole_points _⟩, trivial⟩⟩]

/-- Settings of the version before. -/
def unlabelledSettings : PluginSettings ExactDecimal :=
  ⟨"denoise", "0.1.0", 3, [], Json.readable_nil⟩

theorem load_follows_versions_labelling :
    prepareSpec SettingsProcesses.acceptingLibrary labellingSpec = .ok () ∧ FollowsVersions
      SettingsProcesses.acceptingLibrary 1024 labellingSpec (storedText unlabelledSettings)
      unlabelledSettings := by
  have prepared : prepareSpec SettingsProcesses.acceptingLibrary labellingSpec = .ok () := by decide +kernel
  refine ⟨prepared, load_follows_versions ?_ prepared ?_⟩
  · intro migration member configuration
    cases List.mem_singleton.mp member
    exact ⟨_, rfl⟩
  · exact read_storedText unlabelledSettings (by decide +kernel) (by decide +kernel)

/-- A migrated document that is longer than the limit is refused, though its chain arrives. -/
theorem not_load_of_chain : ¬ (read 100 (some (storedText unlabelledSettings)) labellingSpec.pluginId =
      .ok unlabelledSettings →
    ((∃ loaded file, load SettingsProcesses.acceptingLibrary 100 labellingSpec
      (some (storedText unlabelledSettings)) = (.ok loaded, file)) ↔
    ∃ migrations configuration, (versions labellingSpec).Chain labellingSpec.pluginVersion
        unlabelledSettings.pluginVersion migrations labellingSpec.pluginVersion ∧
      transformAll migrations unlabelledSettings.configuration = some configuration ∧
      validatePersistedConfiguration SettingsProcesses.acceptingLibrary labellingSpec.schema configuration =
        .ok ())) := by
  intro same
  have reads : read 100 (some (storedText unlabelledSettings)) unlabelledSettings.pluginId =
      .ok unlabelledSettings := read_storedText unlabelledSettings (by decide +kernel) (by decide +kernel)
  have refused : (load SettingsProcesses.acceptingLibrary 100 labellingSpec
      (some (storedText unlabelledSettings))).1.toOption.isNone = true := by decide +kernel
  obtain ⟨loaded, file, given⟩ := (same reads).mpr ⟨labellingSpec.migrations, _,
    .cons (by decide) (by rfl) (.nil _), rfl, by decide +kernel⟩
  rw [given] at refused
  cases refused

end PluginSettingsStore

end Omnitensor
