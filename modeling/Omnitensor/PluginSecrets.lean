/-
This file models how a plugin's configuration refers to secrets.

A node of the configuration schema is marked as secret. The walk that finds these nodes follows the
properties of an object and nothing else, and stops at a marked node. Where it found one, the
configuration must hold a reference to a secret; below such a place, what the schema has to say is
not an error.

A schema is a JSON document. The library that checks schemas and validates against them is a
parameter: what it accepts as a schema, the errors it finds in a value, how it searches for the
pattern of a name, and what a reference resolves to.
-/

import Omnitensor.GrantLedger
import Omnitensor.JsonRoundTrip

namespace Omnitensor

/-- The members of a JSON object. -/
abbrev JsonFields (Real : Type) : Type := List (String × Json Real)

/-! ### References -/

def secretSchemaMarker : String := "x-omnitensor-secret"
def secretReferenceField : String := "$secretRef"
def maxSecretFields : Nat := 32
def maxSecretProviderChars : Nat := 64
def maxSecretKeyChars : Nat := 240

namespace Pattern

/-- `[a-z][a-z0-9-]*`. -/
def secretProvider (text : String) : Bool := permissionKind text.toList

/-- A letter or a digit, then any of these, dots, underscores, slashes and hyphens. -/
def secretKey (text : String) : Bool :=
  match text.toList with
  | [] => false
  | first :: rest => wordChar first &&
      rest.all fun char => wordChar char || char == '.' || char == '_' || char == '/' || char == '-'

end Pattern

structure SecretReference where
  provider : String
  key : String
  version : Option String
  deriving DecidableEq

/-- Why a secret reference is not usable configuration. -/
inductive SecretConfigurationError where
  | invalidSchema (detail : String)
  | referenceRequired (path : List String)
  | invalidReference (detail : String)
  deriving DecidableEq

/-- The text of a path. -/
def formatPath (path : List String) : String := "$" ++ String.join (path.map ("." ++ ·))

section

variable {Real : Type}

/-- A provider that is a text of its form. -/
def secretProvider : Option (Json Real) → Option String
  | some (.string text) =>
    if 1 ≤ text.length ∧ text.length ≤ maxSecretProviderChars ∧ Pattern.secretProvider text then
      some text
    else none
  | _ => none

/-- A key or a version that is a text of its form. -/
def secretKey : Option (Json Real) → Option String
  | some (.string text) =>
    if 1 ≤ text.length ∧ text.length ≤ maxSecretKeyChars ∧ Pattern.secretKey text then some text
    else none
  | _ => none

/-- A version, which may be missing or null. -/
def secretVersion : Option (Json Real) → Option (Option String)
  | none | some .null => some none
  | some value => (secretKey (some value)).map some

/-- The reference a document is. -/
def parseSecretReference : Json Real → Except SecretConfigurationError SecretReference
  | .object document =>
    if Json.hasFields document [secretReferenceField] then
      match Json.field document secretReferenceField with
      | some (.object body) =>
        if "provider" ∈ body.map Prod.fst ∧ "key" ∈ body.map Prod.fst then
          if body.all fun member => decide (member.1 ∈ ["provider", "key", "version"]) then
            match secretProvider (Json.field body "provider"), secretKey (Json.field body "key"),
              secretVersion (Json.field body "version") with
            | none, _, _ => .error (.invalidReference "secret provider is invalid")
            | some _, none, _ => .error (.invalidReference "secret key is invalid")
            | some _, some _, none => .error (.invalidReference "secret version is invalid")
            | some provider, some key, some version => .ok ⟨provider, key, version⟩
          else .error (.invalidReference "secret reference body has unknown fields")
        else .error (.invalidReference "secret reference body is invalid")
      | _ => .error (.invalidReference "secret reference body is invalid")
    else .error (.invalidReference "secret reference fields do not match the contract")
  | _ => .error (.invalidReference "secret reference fields do not match the contract")

/-- The marker of a schema node; a node without one is not marked. -/
def secretMarker (node : JsonFields Real) : Option Bool :=
  match Json.field node secretSchemaMarker with
  | none => some false
  | some (.bool marker) => some marker
  | some _ => none

/-- The type of a schema node is that of a string. -/
def stringTyped (node : JsonFields Real) : Bool :=
  match Json.field node "type" with
  | some (.string name) => decide (name = "string")
  | _ => false

mutual

/-- The paths of the marked nodes at and below a node. -/
def collectSecretPaths (path : List String) :
    Json Real → Except SecretConfigurationError (List (List String))
  | .object node =>
    match secretMarker node with
    | none => .error (.invalidSchema (formatPath path ++ " secret marker must be boolean"))
    | some true =>
      if !stringTyped node then
        .error (.invalidSchema (formatPath path ++ " secret field must have string type"))
      else if path = [] then .error (.invalidSchema "configuration root cannot be secret")
      else .ok [path]
    | some false => collectInProperties path node
  | _ => .ok []

/-- The paths below the properties of a node. -/
def collectInProperties (path : List String) :
    JsonFields Real → Except SecretConfigurationError (List (List String))
  | [] => .ok []
  | (key, value) :: members =>
    if key = "properties" then collectInChildren path value else collectInProperties path members

/-- The paths below the children that are nodes. -/
def collectInChildren (path : List String) :
    Json Real → Except SecretConfigurationError (List (List String))
  | .object children => collectInMembers path children
  | _ => .ok []

def collectInMembers (path : List String) :
    JsonFields Real → Except SecretConfigurationError (List (List String))
  | [] => .ok []
  | (name, child) :: children =>
    match collectSecretPaths (path ++ [name]) child with
    | .error error => .error error
    | .ok found => (collectInMembers path children).map (found ++ ·)

end

/-- The paths of the marked nodes of a schema. -/
def secretPaths (schema : JsonFields Real) :
    Except SecretConfigurationError (List (List String)) := do
  let found ← collectSecretPaths [] (.object schema)
  if maxSecretFields < found.length then
    .error (.invalidSchema "at most 32 secret fields are allowed")
  else return found

/-- The value of a configuration at a path, if there is one. -/
def getPath : Json Real → List String → Option (Json Real)
  | value, [] => some value
  | .object members, part :: parts => (Json.field members part).bind fun value => getPath value parts
  | _, _ :: _ => none

/-- What a configuration holds at a path is a reference, if it holds anything. -/
def checkSecretReference (configuration : JsonFields Real) (path : List String) :
    Except SecretConfigurationError Unit :=
  match getPath (.object configuration) path with
  | none => .ok ()
  | some value =>
    match parseSecretReference value with
    | .ok _ => .ok ()
    | .error _ => .error (.referenceRequired path)

/-- The secret paths of a schema, at which a configuration must hold references. -/
def validateSecretReferences (schema configuration : JsonFields Real) :
    Except SecretConfigurationError (List (List String)) := do
  let paths ← secretPaths schema
  paths.forM (checkSecretReference configuration)
  return paths

/-! ### Validation -/

/-- A part of the path to a value: a key, or the index of an item. -/
inductive PathPart where
  | key (name : String)
  | item (index : Nat)
  deriving DecidableEq

/-- The text of a part of a path. -/
def PathPart.text : PathPart → String
  | .key name => name
  | .item index => toString index

/-- An error of the validator. -/
structure ValidationError where
  absolutePath : List PathPart
  jsonPath : String
  message : String
  deriving DecidableEq

/-- What the library of JSON schemas does. -/
structure SchemaLibrary (Real : Type) where
  /-- Whether a document is a schema. -/
  checkSchema : JsonFields Real → Bool
  /-- The errors that a schema finds in a value. -/
  iterErrors : JsonFields Real → Json Real → List ValidationError
  /-- Whether a pattern is found in a name. -/
  search : String → String → Bool
  /-- What a reference resolves to in a schema. -/
  resolve : JsonFields Real → String → Option (Json Real)

/-- A path leads to a secret or below one. -/
def pathIsSecret (path : List String) (secrets : List (List String)) : Bool :=
  secrets.any fun secret => secret.isPrefixOf path

/-- The errors of a configuration that are not below a secret, in the order of their places. -/
def persistedConfigurationErrors (library : SchemaLibrary Real)
    (schema configuration : JsonFields Real) (paths : List (List String)) :
    List ValidationError :=
  ((library.iterErrors schema (.object configuration)).filter fun error =>
    !pathIsSecret (error.absolutePath.map PathPart.text) paths).mergeSort
      fun first second => decide (first.jsonPath ≤ second.jsonPath)

end

end Omnitensor
