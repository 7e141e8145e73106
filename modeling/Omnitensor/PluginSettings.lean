/-
This file models the settings of a plugin: the contract they are held to, the document they are
stored as, how it is read back, migrated to the version of the contract, and written.

A file is the text it holds; a text that does not decode is unreadable like one that is not JSON.
Integers have any number of digits and values nest to any depth, as the interpreter's limits refuse
both the write and the read. What a migration does to a configuration is a parameter, like the
library of JSON schemas.
-/

import Omnitensor.PluginSecrets

namespace Omnitensor

/-- A JSON object of which no part repeats a key. -/
abbrev JsonObject (Real : Type) : Type :=
  { members : JsonFields Real // Json.Readable (.object members) }

namespace Json

variable {Real : Type}

mutual

/-- No number of a document is infinite or none. -/
def finite : Json Real → Bool
  | .constant _ => false
  | .array items => finiteItems items
  | .object members => finiteMembers members
  | _ => true

def finiteItems : List (Json Real) → Bool
  | [] => true
  | item :: items => finite item && finiteItems items

def finiteMembers : JsonFields Real → Bool
  | [] => true
  | (_, value) :: members => finite value && finiteMembers members

end

end Json

namespace Pattern

/-- `0|[1-9][0-9]*`. -/
def versionNumber : List Char → Bool
  | [] => false
  | ['0'] => true
  | char :: chars => '1' ≤ char && char ≤ '9' && chars.all digit

/-- The parts of a text between its dots. -/
def dotted (text : String) : List (List Char) := text.toList.splitOn '.'

/-- Three numbers with dots between them. -/
def configurationVersion (text : String) : Bool :=
  decide ((dotted text).length = 3) && (dotted text).all versionNumber

end Pattern

/-! ### The contract -/

/-- What a migration makes of a configuration. -/
inductive Transformed (Real : Type) where
  | object (configuration : JsonObject Real)
  | other
  | raised (error : String)

/-- One explicit, deterministic configuration-version edge. -/
structure ConfigurationMigration (Real : Type) where
  sourceVersion : String
  targetVersion : String
  transform : JsonObject Real → Transformed Real

/-- Current plugin configuration contract and upgrade route. -/
structure PluginConfigurationSpec (Real : Type) where
  pluginId : String
  pluginVersion : String
  schema : JsonObject Real
  defaults : JsonObject Real
  migrations : List (ConfigurationMigration Real)

/-- The stored settings of a plugin: a configuration of one version of its contract. -/
structure PluginSettings (Real : Type) where
  pluginId : String
  pluginVersion : String
  revision : Nat
  configuration : JsonObject Real

/-- A stable configuration or persistence-contract rejection. -/
inductive PluginSettingsError where
  | invalidPluginId (pluginId : String)
  | invalidVersion (label version : String)
  | storedVersionInvalid
  | invalidRevision (label : String)
  | invalidSchema (detail : String)
  | invalidConfiguration (detail : String)
  | secretReferenceRequired (path : List String)
  | invalidMigrations (detail : String)
  | settingsTooLarge (size : Option Nat) (limit : Nat)
  | settingsUnreadable (pluginId : String)
  | invalidSettings (detail : String)
  | versionIncompatible
  | identityMismatch (expected : String)
  | migrationCycle (version : String)
  | migrationMissing (source target : String)
  | migrationFailed (source target detail : String)
  | revisionMismatch (expected : Int) (current : Nat)
  deriving DecidableEq

namespace PluginSettingsError

/-- The stable code of a rejection. -/
def code : PluginSettingsError → String
  | .invalidPluginId _ => "invalid-plugin-id"
  | .invalidVersion _ _ | .storedVersionInvalid => "invalid-version"
  | .invalidRevision _ => "invalid-revision"
  | .invalidSchema _ => "invalid-schema"
  | .invalidConfiguration _ => "invalid-configuration"
  | .secretReferenceRequired _ => "secret-reference-required"
  | .invalidMigrations _ => "invalid-migrations"
  | .settingsTooLarge _ _ => "settings-too-large"
  | .settingsUnreadable _ => "settings-unreadable"
  | .invalidSettings _ => "invalid-settings"
  | .versionIncompatible => "settings-version-incompatible"
  | .identityMismatch _ => "plugin-identity-mismatch"
  | .migrationCycle _ => "migration-cycle"
  | .migrationMissing _ _ => "migration-missing"
  | .migrationFailed _ _ _ => "migration-failed"
  | .revisionMismatch _ _ => "revision-mismatch"

end PluginSettingsError

namespace PluginSettingsStore

def settingsDocumentVersion : Int := 1
def maxMigrations : Nat := 32

/-! ### Checks -/

/-- Refuse what a check does not accept. -/
def check (accepted : Bool) (refusal : PluginSettingsError) : Except PluginSettingsError Unit :=
  if accepted then .ok () else .error refusal

def validatePluginId (pluginId : String) : Except PluginSettingsError Unit :=
  check (GrantLedger.validPluginId pluginId) (.invalidPluginId pluginId)

def validateVersion (version label : String) : Except PluginSettingsError Unit :=
  check (Pattern.configurationVersion version) (.invalidVersion label version)

def validateRevision (revision : Int) (label : String) : Except PluginSettingsError Unit :=
  check (decide (0 ≤ revision)) (.invalidRevision label)

/-- What a refusal of the secret rules is to the store. -/
def secretRefusal : SecretConfigurationError → PluginSettingsError
  | .invalidSchema detail => .invalidSchema detail
  | .referenceRequired path => .secretReferenceRequired path
  | .invalidReference detail => .invalidConfiguration detail

section

variable {Real : Type} (library : SchemaLibrary Real)

/-- A configuration keeps the secret rules and its schema. -/
def validatePersistedConfiguration (schema configuration : JsonObject Real) :
    Except PluginSettingsError Unit :=
  match validateSecretReferences schema.1 configuration.1 with
  | .error error => .error (secretRefusal error)
  | .ok paths =>
    match persistedConfigurationErrors library schema.1 configuration.1 paths with
    | [] => .ok ()
    | error :: _ => .error (.invalidConfiguration (error.jsonPath ++ ": " ++ error.message))

/-- One migration after others is well formed. -/
def checkMigration (sources : List String) (migration : ConfigurationMigration Real) :
    Except PluginSettingsError Unit := do
  validateVersion migration.sourceVersion "migration source version"
  validateVersion migration.targetVersion "migration target version"
  check (decide (migration.sourceVersion ≠ migration.targetVersion))
    (.invalidMigrations "migration cannot target itself")
  check (decide (migration.sourceVersion ∉ sources))
    (.invalidMigrations ("ambiguous migration from " ++ migration.sourceVersion))

/-- The migrations after others are well formed. -/
def checkMigrations : List String → List (ConfigurationMigration Real) →
    Except PluginSettingsError Unit
  | _, [] => .ok ()
  | sources, migration :: migrations => do
    checkMigration sources migration
    checkMigrations (migration.sourceVersion :: sources) migrations

/-- A contract is one that settings can be held to. -/
def prepareSpec (spec : PluginConfigurationSpec Real) : Except PluginSettingsError Unit := do
  validatePluginId spec.pluginId
  validateVersion spec.pluginVersion "plugin version"
  check (library.checkSchema spec.schema.1) (.invalidSchema "configuration schema is invalid")
  validatePersistedConfiguration library spec.schema spec.defaults
  check (decide (spec.migrations.length ≤ maxMigrations))
    (.invalidMigrations "at most 32 migrations are allowed")
  checkMigrations [] spec.migrations

/-! ### Migrating -/

/-- Follow the migrations from a version to that of the contract, at most so many of them. -/
def migrateFrom (spec : PluginConfigurationSpec Real) : Nat → List String → String →
    JsonObject Real → Except PluginSettingsError (JsonObject Real)
  | 0, _, version, configuration =>
    if version = spec.pluginVersion then .ok configuration else .error (.migrationCycle version)
  | steps + 1, visited, version, configuration =>
    if version = spec.pluginVersion then .ok configuration
    else if version ∈ visited then .error (.migrationCycle version)
    else
      match spec.migrations.find? fun migration => decide (migration.sourceVersion = version) with
      | none => .error (.migrationMissing version spec.pluginVersion)
      | some migration =>
        match migration.transform configuration with
        | .raised error =>
          .error (.migrationFailed version migration.targetVersion ("raised " ++ error))
        | .other =>
          .error (.migrationFailed version migration.targetVersion "returned a non-object")
        | .object configuration =>
          migrateFrom spec steps (version :: visited) migration.targetVersion configuration

/-- Settings of an older version as the contract has them. -/
def migrate (settings : PluginSettings Real) (spec : PluginConfigurationSpec Real) :
    Except PluginSettingsError (PluginSettings Real) :=
  (migrateFrom spec (max 1 spec.migrations.length) [] settings.pluginVersion
    settings.configuration).map fun configuration =>
      ⟨settings.pluginId, spec.pluginVersion, settings.revision + 1, configuration⟩

/-! ### Reading -/

variable [FloatText Real]

/-- The stored version is the one the code knows. A truth value is not, though it may equal it. -/
def knownVersion : Option (Json Real) → Bool
  | some (.bool _) => false
  | some value => value.equalsInt settingsDocumentVersion
  | none => false

/-- The settings of a document. -/
def parse (document : JsonObject Real) (expectedPluginId : String) :
    Except PluginSettingsError (PluginSettings Real) :=
  if !Json.hasFields document.1
      ["documentVersion", "pluginId", "pluginVersion", "revision", "configuration"] then
    .error (.invalidSettings "settings fields do not match the contract")
  else if !knownVersion (Json.field document.1 "documentVersion") then .error .versionIncompatible
  else
    match Json.field document.1 "pluginId" with
    | some (.string pluginId) =>
      if pluginId ≠ expectedPluginId then .error (.identityMismatch expectedPluginId)
      else
        match Json.field document.1 "pluginVersion" with
        | some (.string version) =>
          if !Pattern.configurationVersion version then
            .error (.invalidVersion "stored plugin version" version)
          else
            match Json.field document.1 "revision" with
            | some (.int revision) =>
              if revision < 0 then .error (.invalidRevision "stored revision")
              else
                match found : Json.field document.1 "configuration" with
                | some (.object configuration) =>
                  .ok ⟨expectedPluginId, version, revision.toNat,
                    configuration, Json.readable_field document.2 found⟩
                | _ => .error (.invalidSettings "configuration must be an object")
            | _ => .error (.invalidRevision "stored revision")
        | _ => .error .storedVersionInvalid
    | _ => .error (.identityMismatch expectedPluginId)

/-- The settings of a text. -/
def decode (text : List Char) (pluginId : String) :
    Except PluginSettingsError (PluginSettings Real) :=
  match read : (Json.loads text : Option (Json Real)) with
  | none => .error (.settingsUnreadable pluginId)
  | some (.object document) => parse ⟨document, Json.readable_loads read⟩ pluginId
  | some _ => .error (.invalidSettings "settings document must be an object")

/-- The settings of a file that there was. -/
def read (maxSettingsBytes : Nat) (file : Option (List Char)) (pluginId : String) :
    Except PluginSettingsError (PluginSettings Real) :=
  match file with
  | none => .error (.settingsUnreadable pluginId)
  | some text =>
    if maxSettingsBytes < Json.byteLength text then .error (.settingsTooLarge none maxSettingsBytes)
    else decode text pluginId

/-! ### Writing -/

/-- The document of settings. -/
def settingsDocument (settings : PluginSettings Real) : Json Real :=
  .object [
    ("documentVersion", .int settingsDocumentVersion),
    ("pluginId", .string settings.pluginId),
    ("pluginVersion", .string settings.pluginVersion),
    ("revision", .int settings.revision),
    ("configuration", .object settings.configuration.1)]

/-- The text settings are stored as. -/
def storedText (settings : PluginSettings Real) : List Char :=
  Json.dumps (settingsDocument settings)

/-- The text of settings that may be written. -/
def encode (maxSettingsBytes : Nat) (settings : PluginSettings Real) :
    Except PluginSettingsError (List Char) :=
  if !(settingsDocument settings).finite then
    .error (.invalidConfiguration "configuration must contain JSON values")
  else if maxSettingsBytes < Json.byteLength (storedText settings) then
    .error (.settingsTooLarge (some (Json.byteLength (storedText settings))) maxSettingsBytes)
  else .ok (storedText settings)

end

end PluginSettingsStore

end Omnitensor
