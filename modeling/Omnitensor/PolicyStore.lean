/-
This file models the policy store: how a policy becomes a document and how a document
becomes a policy again.

Loading trusts nothing in the document. A profile of the catalog takes what is well formed
of its entry and its own defaults for the rest; a profile outside the catalog is kept when its id and
entry are well formed; a choice is kept when its profile and its value are. A document is a
JSON value down to the depth the loader looks at.
-/

import Omnitensor.PolicySchema

namespace Omnitensor

/-! ### Documents -/

/-- A JSON value the loader does not look into. -/
inductive Leaf where
  | null
  | boolean (value : Bool)
  | integer (value : Int)
  /-- A finite number written with a fraction or an exponent. -/
  | float (value : Rat)
  | string (value : String)
  /-- An array, a number that is not finite, or an object below the depth that is read. -/
  | other
  deriving DecidableEq

/-- A JSON value: an object with its fields, or anything else. -/
inductive Node (Field : Type) where
  | leaf (value : Leaf)
  | object (fields : Dict String Field)

/-- The fields of an object; those of anything else, or of nothing at all, are none. -/
def Node.fields {Field : Type} : Option (Node Field) → Dict String Field
  | some (.object fields) => fields
  | _ => Dict.empty

/-- The entry of one profile. -/
abbrev ProfileDocument : Type := Node Leaf

/-- The content of the policy file. -/
abbrev PolicyDocument : Type := Node (Node ProfileDocument)

/-- The policies the workload catalog gives its profiles. A manifest's schema keeps their weights in
range. -/
structure PolicyDefaults where
  profiles : Dict String ProfilePolicy
  inRange : ∀ profileId policy, profiles.get? profileId = some policy →
    weightInRange policy.weight = true

namespace PolicyStore

/-! ### Loading -/

/-- An integer brought into range; anything else gives way. -/
def clampWeight (value : Option Leaf) (fallback : JsonInteger) : JsonInteger :=
  match value with
  | some (.integer value) => .integer (max minWeight (min maxWeight value))
  | _ => fallback

/-- A stored flag; anything else gives way. -/
def storedEnabled (value : Option Leaf) (fallback : Bool) : Bool :=
  match value with
  | some (.boolean value) => value
  | _ => fallback

/-- A stored revision; anything else is zero. -/
def sanitizedRevision : Option (Node ProfileDocument) → Nat
  | some (.leaf (.integer value)) => value.toNat
  | _ => 0

/-- The policy of an entry, with what is not well formed replaced. -/
def storedPolicy (fields : Dict String Leaf) (fallback : ProfilePolicy) : ProfilePolicy where
  enabled := storedEnabled (fields.get? "enabled") fallback.enabled
  weight := clampWeight (fields.get? "weight") fallback.weight

/-- The pairs of a dictionary with string keys, sorted by key. -/
def sortedItems {Value : Type} (dict : Dict String Value) : Dict String Value :=
  dict.sortBy fun first second => decide (first ≤ second)

/-- The policy of an entry for a profile the catalog does not have. -/
def adoptedPolicy (profileId : String) : ProfileDocument → Option ProfilePolicy
  | .leaf _ => none
  | .object fields =>
    if Pattern.profileId profileId then
      some (storedPolicy fields { enabled := true, weight := .integer minWeight })
    else none

/-- Keep policy for profiles this store has no default for. -/
def adoptStoredProfiles (profiles : Dict String ProfilePolicy)
    (supplied : Dict String ProfileDocument) : Dict String ProfilePolicy :=
  profiles.adoptMissing adoptedPolicy (sortedItems supplied).entries

/-- A choice of the document that is well formed. -/
def sanitizedChoice (pattern : String → Bool) (profileId : String) :
    ProfileDocument → Option String
  | .leaf (.string value) => if profileIdLength profileId && pattern value then some value else none
  | _ => none

/-- The choices of the document that are well formed, up to a number of them. -/
def sanitizedChoices (pattern : String → Bool) (limit : Nat)
    (supplied : Option (Node ProfileDocument)) : Dict String String :=
  ((sortedItems (Node.fields supplied)).filterMap (sanitizedChoice pattern)).take limit

/-- Whether the document says the runtime is paused. -/
def storedPaused : Option (Node ProfileDocument) → Bool
  | some (.leaf (.boolean value)) => value
  | _ => false

/-- The policy of a file that may be missing or unreadable. -/
def load (defaults : PolicyDefaults) (file : Option PolicyDocument) : PolicyState :=
  let raw := Node.fields file
  let supplied := Node.fields (raw.get? "profiles")
  let profiles := defaults.profiles.mapValues fun profileId default =>
    storedPolicy (Node.fields (supplied.get? profileId)) default
  { paused := storedPaused (raw.get? "paused")
    profiles := adoptStoredProfiles profiles supplied
    deviceChoices :=
      sanitizedChoices Pattern.gpuDeviceId maxDeviceChoices (raw.get? "deviceChoices")
    modelChoices := sanitizedChoices Pattern.modelId maxModelChoices (raw.get? "modelChoices")
    revision := sanitizedRevision (raw.get? "revision") }

/-! ### Saving -/

/-- A weight as it is written. -/
def weightLeaf : JsonInteger → Leaf
  | .integer value => .integer value
  | .float value => .float value

/-- The entry of a profile. -/
def profileDocument (policy : ProfilePolicy) : ProfileDocument :=
  .object ((Dict.empty.set "enabled" (.boolean policy.enabled)).set "weight"
    (weightLeaf policy.weight))

/-- A table of choices as it is written. -/
def choicesDocument (choices : Dict String String) : Node ProfileDocument :=
  .object ((sortedItems choices).mapValues fun _ value => .leaf (.string value))

/-- The document of a policy. -/
def save (state : PolicyState) : PolicyDocument :=
  .object (((((Dict.empty.set "paused" (.leaf (.boolean state.paused))).set "profiles"
    (.object ((sortedItems state.profiles).mapValues fun _ policy => profileDocument policy))).set
      "deviceChoices" (choicesDocument state.deviceChoices)).set
        "modelChoices" (choicesDocument state.modelChoices)).set
          "revision" (.leaf (.integer state.revision)))

end PolicyStore

end Omnitensor
