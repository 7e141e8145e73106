/-
This file models the bounded index: its entries, its stored document and the calls that change it.

An index keeps entries with vectors of one model under a revision. An update checks the entries it
is given, merges them into what is stored, keeps the most recent ones and writes the whole document
anew. Reading a document back checks every field again, and gives up the whole index if one is
damaged.

What a caller passes in an entry has not been checked, so it is a document of any shape. A file is
the text it holds; one that does not decode from UTF-8 is recovered from like one that is not JSON.
Texts consist of Unicode scalar values; one with half a surrogate pair is outside the model.
-/

import Omnitensor.Base64
import Omnitensor.DoubleText

namespace Omnitensor

/-! ### Data -/

/-- What the last load found. -/
inductive IndexHealth where
  | intact
  | recovered
  | incompatible
  deriving DecidableEq

/-- Why a call did not return: a stable refusal, or a number too large for its format. -/
inductive IndexFailure where
  | refused (code detail : String)
  | overflow
  deriving DecidableEq

/-- The artifact whose embeddings an index holds. -/
structure ModelIdentity where
  artifactId : String
  artifactDigest : String
  dimensions : Nat
  deriving DecidableEq

/-- A scalar that an attribute may have as its value. -/
inductive Attribute where
  | text (value : String)
  | truth (value : Bool)
  | integer (value : Int)
  | real (value : Double)
  deriving DecidableEq

/-- One indexed source. -/
structure IndexEntry where
  entryId : String
  digest : String
  sourcePath : String
  embedding : List Double
  tags : List String
  attributes : Dict String Attribute
  updatedAtMs : Int
  deriving DecidableEq

/-- An entry as a caller passes it. -/
structure EntryInput where
  entryId : Json Double
  digest : Json Double
  sourcePath : Json Double
  embedding : List (Json Double)
  tags : Json Double
  attributes : Json Double
  updatedAtMs : Json Double

/-- The index as it stands in its file. -/
structure IndexState where
  revision : Nat
  model : ModelIdentity
  entries : List IndexEntry
  health : IndexHealth
  deriving DecidableEq

/-- What an update changed. -/
structure IndexUpdate where
  state : IndexState
  added : Nat
  updated : Nat
  removed : Nat
  evicted : Nat
  unchanged : Nat
  deriving DecidableEq

/-- Whether anything was written. -/
def IndexUpdate.committed (update : IndexUpdate) : Bool :=
  decide (update.added ≠ 0 ∨ update.updated ≠ 0 ∨ update.removed ≠ 0 ∨ update.evicted ≠ 0)

namespace Index

def documentVersion : Int := 1
def maxEntriesLimit : Nat := 200000
def maxDimensions : Nat := 4096
def maxTagsPerEntry : Nat := 64
def maxTagLength : Nat := 64
def maxAttributes : Nat := 32
def maxAttributeLength : Nat := 512
def maxIdentityLength : Nat := 200

/-- Refuse what a check does not accept. -/
def check (accepted : Bool) (code detail : String) : Except IndexFailure Unit :=
  if accepted then .ok () else .error (.refused code detail)

/-- A number that may be too large for its format. -/
def orOverflow {Value : Type} : Option Value → Except IndexFailure Value
  | some value => .ok value
  | none => .error .overflow

/-! ### Embeddings -/

/-- The float of a value, which must be a finite number. -/
def finiteFloat : Json Double → Except IndexFailure Double
  | .int value => orOverflow (Double.ofInt value)
  | .float number => .ok number
  | .constant _ => .error (.refused "embedding-invalid" "embedding values must be finite")
  | _ => .error (.refused "embedding-invalid" "embedding values must be numbers")

/-- The four bytes of a float. -/
def packFloat (number : Double) : Except IndexFailure (List UInt8) :=
  (orOverflow number.pack).map littleEndian

/-- The floats of bytes, unless one is not finite. -/
def unpackFloats : List UInt8 → Option (List Double)
  | first :: second :: third :: fourth :: rest => do
    let number ← Double.unpack (wordOf first second third fourth)
    let numbers ← unpackFloats rest
    return number :: numbers
  | _ => some []

def encodeEmbedding (values : List (Json Double)) (dimensions : Nat) :
    Except IndexFailure String := do
  check (decide (values.length = dimensions)) "embedding-invalid"
    ("expected " ++ toString dimensions ++ " dimensions, got " ++ toString values.length)
  let numbers ← values.mapM finiteFloat
  let bytes ← numbers.mapM packFloat
  return String.ofList (Base64.encode bytes.flatten)

def decodeEmbedding (text : Json Double) (dimensions : Nat) :
    Except IndexFailure (List Double) :=
  match text with
  | .string text =>
    match Base64.decode text.toList with
    | none => .error (.refused "embedding-invalid" "embedding is not base64")
    | some raw => do
      check (decide (raw.length = dimensions * 4)) "embedding-invalid"
        ("embedding is " ++ toString raw.length ++ " bytes, expected " ++ toString (dimensions * 4))
      match unpackFloats raw with
      | none => .error (.refused "embedding-invalid" "embedding values must be finite")
      | some values => .ok values
  | _ => .error (.refused "embedding-invalid" "embedding must be a string")

/-! ### Tags and attributes -/

/-- `sorted(set(texts))`. -/
def sortedSet (texts : List String) : List String :=
  texts.dedup.insertionSort fun first second => first ≤ second

def validatedTag : Json Double → Except IndexFailure String
  | .string tag => do
    check (decide (1 ≤ tag.length) && decide (tag.length ≤ maxTagLength)) "tags-invalid"
      "each tag must be a bounded non-empty string"
    return tag
  | _ => .error (.refused "tags-invalid" "each tag must be a bounded non-empty string")

def validatedTags : Json Double → Except IndexFailure (List String)
  | .array tags => do
    check (decide (tags.length ≤ maxTagsPerEntry)) "tags-invalid" "at most 64 tags are allowed"
    let cleaned ← tags.mapM validatedTag
    return sortedSet cleaned
  | _ => .error (.refused "tags-invalid" "tags must be a sequence of strings")

def validatedAttribute (key : String) : Json Double → Except IndexFailure Attribute
  | .string value => do
    check (decide (value.length ≤ maxAttributeLength)) "attributes-invalid"
      ("attribute " ++ key ++ " exceeds 512 chars")
    return .text value
  | .bool value => .ok (.truth value)
  | .int value => (orOverflow (Double.ofInt value)).map fun _ => .integer value
  | .float value => .ok (.real value)
  | .constant _ =>
    .error (.refused "attributes-invalid" ("attribute " ++ key ++ " is not finite"))
  | _ =>
    .error (.refused "attributes-invalid" ("attribute " ++ key ++ " has an unsupported type"))

def addAttribute (cleaned : Dict String Attribute) (member : String × Json Double) :
    Except IndexFailure (Dict String Attribute) := do
  check (decide (1 ≤ member.1.length) && decide (member.1.length ≤ maxTagLength))
    "attributes-invalid" "attribute keys must be bounded strings"
  let value ← validatedAttribute member.1 member.2
  return cleaned.set member.1 value

def validatedAttributes : Json Double → Except IndexFailure (Dict String Attribute)
  | .object attributes => do
    check (decide (attributes.length ≤ maxAttributes)) "attributes-invalid"
      "at most 32 attributes are allowed"
    attributes.foldlM addAttribute Dict.empty
  | _ => .error (.refused "attributes-invalid" "attributes must be a mapping")

def attributeDocument : Attribute → Json Double
  | .text value => .string value
  | .truth value => .bool value
  | .integer value => .int value
  | .real value => .float value

/-! ### Equality -/

/-- The value of a number, counted in the smallest positive float. -/
def numberUnits : Attribute → Option Int
  | .text _ => none
  | .truth value => some ((if value then 1 else 0) * Double.one)
  | .integer value => some (value * Double.one)
  | .real value => some value.units

/-- `==` of attributes: truth values are numbers, and numbers are equal across their types. -/
def sameAttribute : Attribute → Attribute → Bool
  | .text first, .text second => decide (first = second)
  | .text _, _ => false
  | _, .text _ => false
  | first, second => decide (numberUnits first = numberUnits second)

/-- The attributes under their keys in order. -/
def sortedAttributes (attributes : Dict String Attribute) : List (String × Attribute) :=
  attributes.entries.insertionSort fun first second => first.1 ≤ second.1

/-- `comparable() == comparable()`: everything but the time of the update. -/
def sameEntry (first second : IndexEntry) : Bool :=
  decide (first.entryId = second.entryId) && decide (first.digest = second.digest) &&
    decide (first.sourcePath = second.sourcePath) &&
    decide (first.embedding.map Double.units = second.embedding.map Double.units) &&
    decide (first.tags = second.tags) &&
    decide (first.attributes.size = second.attributes.size) &&
    ((sortedAttributes first.attributes).zip (sortedAttributes second.attributes)).all fun pair =>
      decide (pair.1.1 = pair.2.1) && sameAttribute pair.1.2 pair.2.2

/-! ### Identities -/

def boundedText (text : String) : Bool :=
  decide (1 ≤ text.length) && decide (text.length ≤ maxIdentityLength)

def boundedIdentity (value : Json Double) (name : String) : Except IndexFailure String :=
  match value with
  | .string text => do
    check (boundedText text) "entry-invalid" (name ++ " must be a bounded non-empty string")
    return text
  | _ => .error (.refused "entry-invalid" (name ++ " must be a bounded non-empty string"))

end Index

/-! ### The store -/

/-- A store with the bounds that its constructor accepts. The check of a profile is a parameter:
an entry is acceptable when its error is empty. -/
structure IndexStore where
  model : ModelIdentity
  maxEntries : Nat
  maxIndexBytes : Nat
  entryError : IndexEntry → String
  artifactIdBounded : Index.boundedText model.artifactId = true
  artifactDigestBounded : Index.boundedText model.artifactDigest = true
  dimensionsBounded : 1 ≤ model.dimensions ∧ model.dimensions ≤ Index.maxDimensions
  maxEntriesBounded : 1 ≤ maxEntries ∧ maxEntries ≤ Index.maxEntriesLimit
  maxIndexBytesPositive : 1 ≤ maxIndexBytes

namespace IndexStore

open Index

variable (store : IndexStore)

/-! ### Writing -/

def modelDocument : List (String × Json Double) :=
  [("artifactId", .string store.model.artifactId),
    ("artifactDigest", .string store.model.artifactDigest),
    ("dimensions", .int store.model.dimensions)]

def entryDocument (entry : IndexEntry) : Except IndexFailure (Json Double) := do
  let embedding ← encodeEmbedding (entry.embedding.map .float) store.model.dimensions
  return .object [
    ("id", .string entry.entryId),
    ("digest", .string entry.digest),
    ("sourcePath", .string entry.sourcePath),
    ("embedding", .string embedding),
    ("tags", .array (entry.tags.map .string)),
    ("attributes",
      .object (entry.attributes.entries.map fun member => (member.1, attributeDocument member.2))),
    ("updatedAtMs", .int entry.updatedAtMs)]

/-- The document of a store, as it is written. -/
def document (revision : Nat) (entries : List (Json Double)) : Json Double :=
  .object [
    ("version", .int documentVersion),
    ("revision", .int revision),
    ("model", .object store.modelDocument),
    ("entries", .array entries)]

/-- Write the next revision. -/
def commit (revision : Nat) (entries : List IndexEntry) :
    Except IndexFailure (IndexState × List Char) := do
  let documents ← entries.mapM store.entryDocument
  return (⟨revision + 1, store.model, entries, .intact⟩,
    Json.dumps (store.document (revision + 1) documents))

/-! ### Reading -/

def empty (health : IndexHealth) : IndexState := ⟨0, store.model, [], health⟩

def parseEntry (item : Json Double) : Except IndexFailure (Option IndexEntry) :=
  match item with
  | .object members =>
    let parsed : Except IndexFailure IndexEntry := do
      let entryId ← boundedIdentity ((Json.field members "id").getD .null) "entry id"
      let digest ← boundedIdentity ((Json.field members "digest").getD .null) "entry digest"
      let sourcePath ←
        boundedIdentity ((Json.field members "sourcePath").getD .null) "entry source path"
      let embedding ←
        decodeEmbedding ((Json.field members "embedding").getD .null) store.model.dimensions
      let tags ← validatedTags ((Json.field members "tags").getD (.array []))
      let attributes ← validatedAttributes ((Json.field members "attributes").getD (.object []))
      match Json.field members "updatedAtMs" with
      | some (.int updatedAtMs) =>
        check (decide (0 ≤ updatedAtMs)) "entry-invalid" "entry timestamp is invalid"
        return ⟨entryId, digest, sourcePath, embedding, tags, attributes, updatedAtMs⟩
      | _ => .error (.refused "entry-invalid" "entry timestamp is invalid")
    match parsed with
    | .ok entry => .ok (if store.entryError entry = "" then some entry else none)
    | .error (.refused _ _) => .ok none
    | .error .overflow => .error .overflow
  | _ => .ok none

/-- The entries in order, none of them if one is damaged. -/
def parseEntries : List (Json Double) → Except IndexFailure (Option (List IndexEntry))
  | [] => .ok (some [])
  | item :: items => do
    match ← store.parseEntry item with
    | none => return none
    | some entry => return (← parseEntries items).map (entry :: ·)

/-- The stored revision, if the document is one of an index. -/
def documentRevision (members : List (String × Json Double)) : Option Nat :=
  if ((Json.field members "version").getD .null).equalsInt documentVersion then
    match Json.field members "revision" with
    | some (.int revision) => if 0 ≤ revision then some revision.toNat else none
    | _ => none
  else none

/-- `stored == model.document()`. -/
def sameModel (stored : List (String × Json Double)) : Bool :=
  Json.hasFields stored ["artifactId", "artifactDigest", "dimensions"] &&
    (match Json.field stored "artifactId" with
      | some (.string artifactId) => decide (artifactId = store.model.artifactId)
      | _ => false) &&
    (match Json.field stored "artifactDigest" with
      | some (.string artifactDigest) => decide (artifactDigest = store.model.artifactDigest)
      | _ => false) &&
    ((Json.field stored "dimensions").getD .null).equalsInt store.model.dimensions

/-- What a store makes of a document; one of another model is incompatible. -/
def parse (document : Json Double) : Except IndexFailure IndexState :=
  match document with
  | .object members =>
    match documentRevision members with
    | none => .ok (store.empty .recovered)
    | some revision =>
      match Json.field members "model" with
      | some (.object stored) =>
        if store.sameModel stored then
          match Json.field members "entries" with
          | some (.array items) => do
            match ← store.parseEntries items with
            | none => return ⟨revision, store.model, [], .recovered⟩
            | some entries => return ⟨revision, store.model, entries, .intact⟩
          | _ => .ok (store.empty .recovered)
        else .ok ⟨revision, store.model, [], .incompatible⟩
      | _ => .ok (store.empty .recovered)
  | _ => .ok (store.empty .recovered)

/-- Read the index from its file, if there is one. -/
def load (file : Option (List Char)) : Except IndexFailure IndexState :=
  match file with
  | none => .ok (store.empty .intact)
  | some text =>
    if store.maxIndexBytes < Json.byteLength text then .ok (store.empty .recovered)
    else
      match Json.loads text with
      | none => .ok (store.empty .recovered)
      | some document => store.parse document

/-! ### Preparing entries -/

/-- Check an entry, with what the clock shows if it is read. Nothing stands for an object that is
no entry. -/
def prepare (reading : Int) : Option EntryInput → Except IndexFailure IndexEntry
  | none => .error (.refused "entry-invalid" "entry must be an IndexEntry")
  | some input => do
    let entryId ← boundedIdentity input.entryId "entry id"
    let digest ← boundedIdentity input.digest "entry digest"
    let sourcePath ← boundedIdentity input.sourcePath "entry source path"
    match input.updatedAtMs with
    | .int updatedAtMs => do
      check (decide (0 ≤ updatedAtMs)) "entry-invalid" "entry timestamp is invalid"
      let encoded ← encodeEmbedding input.embedding store.model.dimensions
      let embedding ← decodeEmbedding (.string encoded) store.model.dimensions
      let tags ← validatedTags input.tags
      let attributes ← validatedAttributes input.attributes
      let entry : IndexEntry := ⟨entryId, digest, sourcePath, embedding, tags, attributes,
        if updatedAtMs = 0 then reading else updatedAtMs⟩
      check (decide (store.entryError entry = "")) "entry-invalid" (store.entryError entry)
      return entry
    | _ => .error (.refused "entry-invalid" "entry timestamp is invalid")

/-- Check all entries in order. The clock shows a reading of its own at each of them. -/
def prepareAll (readings : Nat → Int) (entries : List (Option EntryInput)) :
    Except IndexFailure (List IndexEntry) :=
  entries.zipIdx.mapM fun entry => store.prepare (readings entry.2) entry.1

def checkRevision (current : IndexState) : Option Int → Except IndexFailure Unit
  | none => .ok ()
  | some expected => check (decide (expected = current.revision)) "revision-conflict"
      ("index is at revision " ++ toString current.revision ++ ", not " ++ toString expected)

/-! ### Merging -/

/-- The entries under their ids. -/
def byId (entries : List IndexEntry) : Dict String IndexEntry :=
  entries.foldl (fun dict entry => dict.set entry.entryId entry) Dict.empty

/-- Entries merged so far, with the counts of what changed. -/
structure Merge where
  merged : Dict String IndexEntry
  added : Nat
  updated : Nat
  unchanged : Nat

def mergeEntry (merge : Merge) (entry : IndexEntry) : Merge :=
  match merge.merged.get? entry.entryId with
  | none =>
    { merge with merged := merge.merged.set entry.entryId entry, added := merge.added + 1 }
  | some existing =>
    if sameEntry existing entry then { merge with unchanged := merge.unchanged + 1 }
    else
      { merge with merged := merge.merged.set entry.entryId entry, updated := merge.updated + 1 }

/-- The order in which entries are kept: the most recent ones first, then by id. -/
def precedes (first second : IndexEntry) : Bool :=
  decide (second.updatedAtMs < first.updatedAtMs) ||
    (decide (first.updatedAtMs = second.updatedAtMs) && decide (first.entryId ≤ second.entryId))

def sortById (entries : List IndexEntry) : List IndexEntry :=
  entries.insertionSort fun first second => first.entryId ≤ second.entryId

/-- Keep the most recent entries, and count the others. -/
def bound (merged : Dict String IndexEntry) : List IndexEntry × Nat :=
  let ordered := merged.values.insertionSort fun first second => precedes first second = true
  if ordered.length ≤ store.maxEntries then (sortById ordered, 0)
  else (sortById (ordered.take store.maxEntries), ordered.length - store.maxEntries)

/-! ### Updates -/

/-- Merge entries into the index. -/
def upsert (file : Option (List Char)) (readings : Nat → Int) (entries : List (Option EntryInput))
    (expected : Option Int) : Except IndexFailure (IndexUpdate × Option (List Char)) := do
  let prepared ← store.prepareAll readings entries
  let current ← store.load file
  checkRevision current expected
  let merge := prepared.foldl mergeEntry ⟨byId current.entries, 0, 0, 0⟩
  let (kept, evicted) := store.bound merge.merged
  if merge.added = 0 ∧ merge.updated = 0 ∧ evicted = 0 then
    return (⟨current, 0, 0, 0, 0, merge.unchanged⟩, file)
  else
    let (state, text) ← store.commit current.revision kept
    return (⟨state, merge.added, merge.updated, 0, evicted, merge.unchanged⟩, some text)

/-- Remove the entries with some ids. -/
def delete (file : Option (List Char)) (wanted : List String) (expected : Option Int) :
    Except IndexFailure (IndexUpdate × Option (List Char)) := do
  let current ← store.load file
  checkRevision current expected
  let remaining := current.entries.filter fun entry => decide (entry.entryId ∉ wanted)
  let removed := current.entries.length - remaining.length
  if removed = 0 then return (⟨current, 0, 0, 0, 0, 0⟩, file)
  else
    let (state, text) ← store.commit current.revision remaining
    return (⟨state, 0, 0, removed, 0, 0⟩, some text)

/-- Replace the whole index. -/
def reindex (file : Option (List Char)) (readings : Nat → Int)
    (entries : List (Option EntryInput)) :
    Except IndexFailure (IndexUpdate × Option (List Char)) := do
  let prepared ← store.prepareAll readings entries
  let current ← store.load file
  let (kept, evicted) := store.bound (byId prepared)
  let (state, text) ← store.commit current.revision kept
  return (⟨state, kept.length, 0, current.entries.length, evicted, 0⟩, some text)

end IndexStore

end Omnitensor
