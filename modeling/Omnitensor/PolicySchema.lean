/-
This file models the patterns and bounds that policy values are held to.

The contract's schema checks the fields of a command before it is executed, and the
policy store checks the fields of a stored document once more with patterns of its own.
A schema pattern is searched for, so its final anchor also accepts one newline at the end;
the store asks for a full match.
-/

import Omnitensor.PolicyState

namespace Omnitensor

/-! ### Patterns -/

namespace Pattern

/-- A digit, `[0-9]`. -/
def digit (char : Char) : Bool := '0' ≤ char && char ≤ '9'

/-- A lower-case letter or a digit, `[a-z0-9]`. -/
def alphanumeric (char : Char) : Bool := digit char || ('a' ≤ char && char ≤ 'z')

/-- One character of a class, then at most `limit` of another. -/
def leading (first rest : Char → Bool) (limit : Nat) : List Char → Bool
  | [] => false
  | char :: chars => first char && chars.all rest && decide (chars.length ≤ limit)

/-- `gpu-renderD[0-9]{1,6}`. -/
def gpuDeviceId (text : String) : Bool :=
  "gpu-renderD".toList.isPrefixOf text.toList &&
    leading digit digit 5 (text.toList.drop "gpu-renderD".length)

/-- `[a-z0-9][a-z0-9-]{0,63}`. -/
def modelId (text : String) : Bool :=
  leading alphanumeric (fun char => alphanumeric char || char == '-') 63 text.toList

/-- `[a-z0-9][a-z0-9._-]{0,79}`. -/
def profileId (text : String) : Bool :=
  leading alphanumeric
    (fun char => alphanumeric char || char == '.' || char == '_' || char == '-') 79 text.toList

/-- The rest of an identifier after a character of a word: another one, or a hyphen and the next
word. -/
def identifierTail : List Char → Bool
  | [] => true
  | '-' :: char :: chars => alphanumeric char && identifierTail chars
  | char :: chars => alphanumeric char && identifierTail chars

/-- `[a-z0-9]+(-[a-z0-9]+)*`: the ids of plugins, workloads and artifacts. -/
def identifier (text : String) : Bool :=
  match text.toList with
  | [] => false
  | char :: chars => alphanumeric char && identifierTail chars

/-- The last character is a newline. -/
def endsInNewline (text : String) : Bool := decide (text.toList.getLast? = some '\n')

/-- A pattern that is searched for with both anchors: one newline may follow the match. -/
def search (pattern : String → Bool) (text : String) : Bool :=
  pattern text || (endsInNewline text && pattern (String.ofList text.toList.dropLast))

end Pattern

/-! ### Schema -/

/-- A string of the length the schema asks of a profile id. -/
def profileIdLength (profileId : String) : Bool :=
  decide (1 ≤ profileId.length) && decide (profileId.length ≤ 80)

/-- A weight in the range of the schema. -/
def weightInRange (weight : JsonInteger) : Bool :=
  decide (minWeight ≤ weight.value) && decide (weight.value ≤ maxWeight)

/-- A change of a batch that the schema accepts. Only its profile is required. -/
def ProfileChange.schemaValid (change : ProfileChange) : Bool :=
  profileIdLength change.profileId && change.weight.all weightInRange &&
    change.deviceId.all (fun value => value.all (Pattern.search Pattern.gpuDeviceId)) &&
    change.modelId.all fun value => value.all (Pattern.search Pattern.modelId)

/-- A command that the schema accepts. -/
def Command.schemaValid : Command → Bool
  | .setProfileEnabled profileId _ => profileIdLength profileId
  | .setProfileWeight profileId value => profileIdLength profileId && weightInRange value
  | .setProfileDevice profileId value =>
    profileIdLength profileId && value.all (Pattern.search Pattern.gpuDeviceId)
  | .setProfileModel profileId value =>
    profileIdLength profileId && value.all (Pattern.search Pattern.modelId)
  | .setProfileConfiguration profileId => profileIdLength profileId
  | .setPaused _ => true
  | .applyProfiles changes =>
    decide (1 ≤ changes.length) && decide (changes.length ≤ 128) &&
      changes.all ProfileChange.schemaValid

end Omnitensor
