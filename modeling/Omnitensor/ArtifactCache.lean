/-
This file models the cache over the store of all artifacts: what it counts, and what it collects.

A directory is the list of its entries by name, as the cache goes through it. The lock file of the store is no
entry, and neither is the activation among the versions of an artifact. Listing a directory does not fail, and
nobody else writes to the store while the cache holds its lock. Removing may fail on the way; what is left of
the directory then is anything.
-/

import Omnitensor.ArtifactStore

namespace Omnitensor

namespace ArtifactCache

open ArtifactStore

/-! ### What is on disk -/

/-- A directory, as its entries by name. -/
structure Listing (Entry : Type) where
  entries : List (String × Entry)
  ordered : (entries.map Prod.fst).Pairwise (· < ·)

namespace Listing

variable {Entry Other : Type}

/-- The directory with some of its entries. -/
def filter (keep : String → Entry → Bool) (listing : Listing Entry) : Listing Entry where
  entries := listing.entries.filter fun entry => keep entry.1 entry.2
  ordered := listing.ordered.sublist (List.filter_sublist.map _)

/-- The directory with other entries of the same names. -/
def mapValues (change : String → Entry → Other) (listing : Listing Entry) : Listing Other where
  entries := listing.entries.map fun entry => (entry.1, change entry.1 entry.2)
  ordered := by
    rw [List.map_map]
    exact listing.ordered

end Listing

/-- What an entry of a directory is, with no link followed. -/
inductive CacheTree where
  | regular (size : Nat)
  /-- A link, as long as what it says. -/
  | link (size : Nat) (toDirectory : Bool)
  | special (size : Nat)
  | directory (children : List (String × CacheTree))

/-- An entry of the directory of an artifact: a version, or what an install left. -/
structure CacheChild where
  tree : CacheTree
  /-- What its metadata file is read as. -/
  metadata : StoredDocument

/-- The file that names the active version of an artifact. -/
inductive ActivationFile where
  | absent
  | link
  | stored (document : StoredDocument)

/-- An entry of the root: the directory of an artifact, or something else. -/
inductive RootEntry where
  | artifact (activation : ActivationFile) (children : Listing CacheChild)
  | other

/-- An entry of the root with some of its own entries. -/
def RootEntry.keep (kept : String → Bool) : RootEntry → RootEntry
  | .artifact activation children => .artifact activation (children.filter fun name _ => kept name)
  | .other => .other

abbrev CacheDisk : Type := Listing RootEntry

namespace CacheDisk

/-- The store with some of the entries of its artifacts. -/
def keep (kept : String → String → Bool) (disk : CacheDisk) : CacheDisk :=
  disk.mapValues fun artifact entry => entry.keep (kept artifact)

/-- The store without an entry of an artifact. -/
def erase (disk : CacheDisk) (artifact name : String) : CacheDisk :=
  disk.keep fun other entry => decide ((other, entry) ≠ (artifact, name))

/-- The store with another entry of an artifact in the place of one. -/
def replace (disk : CacheDisk) (artifact name : String) (left : CacheChild) : CacheDisk :=
  disk.mapValues fun other entry => match entry with
    | .artifact activation children =>
      .artifact activation (children.mapValues fun entry child =>
        if (other, entry) = (artifact, name) then left else child)
    | .other => .other

end CacheDisk

/-! ### Sizes -/

/-- The bytes of the files below a directory. -/
def walkSize : List (String × CacheTree) → Nat
  | [] => 0
  | (_, .regular size) :: children => size + walkSize children
  | (_, .link size toDirectory) :: children => (if toDirectory then 0 else size) + walkSize children
  | (_, .special size) :: children => size + walkSize children
  | (_, .directory inner) :: children => walkSize inner + walkSize children

/-- Bytes held by one installer temporary, following no symlink. -/
def leftoverSize : CacheTree → Nat
  | .regular size => size
  | .directory children => walkSize children
  | _ => 0

structure ArtifactCacheError where
  code : String
  detail : String
  deriving DecidableEq

/-- The cache does not know what it sees. -/
def stateInvalid (detail : String) : ArtifactCacheError := ⟨"cache-state-invalid", detail⟩

/-- The bytes of the files of a version, all of which are regular. -/
def versionSize : List (String × CacheTree) → Except ArtifactCacheError Nat
  | [] => .ok 0
  | (_, .regular size) :: files => (size + ·) <$> versionSize files
  | (name, _) :: _ => .error (stateInvalid ("artifact version contains unsafe entry: " ++ name))

/-! ### Scanning -/

structure CacheEntry where
  reference : ArtifactReference
  sizeBytes : Nat
  deriving DecidableEq

def CacheEntry.key (entry : CacheEntry) : String × String := (entry.reference.id, entry.reference.version)

/-- A dot-prefixed installer temporary that survived a killed install. -/
structure Leftover where
  artifact : String
  name : String
  sizeBytes : Nat
  deriving DecidableEq

def metadataVersion : Int := 1

/-- The reference that a metadata document holds. -/
def parseMetadata : Json ExactDecimal → Except ArtifactCacheError ArtifactReference
  | .object members =>
    if !((members.all fun member => decide (member.1 ∈ ["version", "artifact", "companions"])) &&
        ["version", "artifact"].all fun key => decide (key ∈ members.map Prod.fst)) then
      .error (stateInvalid "artifact metadata has invalid fields")
    else
      match Json.field members "version", Json.field members "artifact" with
      | some version, some artifact =>
        if !version.equalsInt metadataVersion then
          .error (stateInvalid "artifact metadata version is invalid")
        else
          match artifactReferenceFromDocument artifact with
          | .ok reference => .ok reference
          | .error (.installation _ detail) | .error (.system detail) => .error (stateInvalid detail)
      | _, _ => .error (stateInvalid "artifact metadata has invalid fields")
  | _ => .error (stateInvalid "artifact metadata has invalid fields")

/-- The reference that a metadata file holds. -/
def readReference (path : String) : StoredDocument → Except ArtifactCacheError ArtifactReference
  | .unreadable error => .error (stateInvalid ("cannot read " ++ path ++ ": " ++ error))
  | .json document => parseMetadata document

/-- A version, from the directory of its name. -/
def readEntry (root artifactId name : String) (metadata : StoredDocument)
    (files : List (String × CacheTree)) : Except ArtifactCacheError CacheEntry := do
  let reference ← readReference (root ++ "/" ++ artifactId ++ "/" ++ name ++ "/artifact.json") metadata
  if reference.id ≠ artifactId ∨ reference.version ≠ name then
    .error (stateInvalid "artifact cache identity does not match")
  else
    match (artifactFilename reference.format).bind fun primary =>
        (files.find? fun file => decide (file.1 = primary)).map Prod.snd with
    | some (.regular _) => return ⟨reference, ← versionSize files⟩
    | _ => .error (stateInvalid "artifact cache primary file is invalid")

/-- A name that no version has. -/
def dotted (name : String) : Bool := name.toList.head? == some '.'

/-- The versions of an artifact, and what installs left. -/
def scanArtifact (root artifactId : String) :
    List (String × CacheChild) → Except ArtifactCacheError (List CacheEntry × List Leftover)
  | [] => .ok ([], [])
  | (name, child) :: children =>
    if dotted name then do
      let (entries, leftovers) ← scanArtifact root artifactId children
      return (entries, ⟨artifactId, name, leftoverSize child.tree⟩ :: leftovers)
    else
      match child.tree with
      | .directory files => do
        let entry ← readEntry root artifactId name child.metadata files
        let (entries, leftovers) ← scanArtifact root artifactId children
        return (entry :: entries, leftovers)
      | _ => .error (stateInvalid ("invalid artifact version directory: " ++ artifactId ++ "/" ++ name))

/-- The activation of an artifact, which is read as the installer does. -/
def readActivation (artifactId : String) : ActivationFile → Except ArtifactCacheError ArtifactActivation
  | .link => .error (stateInvalid "artifact activation path is a symlink")
  | .absent => (ArtifactInstaller.activation ⟨none, fun _ => none⟩ artifactId).mapError invalid
  | .stored document =>
    (ArtifactInstaller.activation ⟨some document, fun _ => none⟩ artifactId).mapError invalid
where
  invalid : ArtifactFailure → ArtifactCacheError
    | .installation _ detail | .system detail => stateInvalid detail

def activationKeys (activation : ArtifactActivation) : List (String × String) :=
  (activation.active.toList ++ activation.rollback.toList).map fun reference =>
    (reference.id, reference.version)

/-- What a scan finds. -/
structure CacheScan where
  entries : List CacheEntry
  protectedKeys : List (String × String)
  leftovers : List Leftover
  deriving DecidableEq

def probe (artifactId : String) : ArtifactIdentity :=
  ⟨artifactId, "0.0.0", "onnx", String.ofList (List.replicate 64 '0')⟩

def scanRoots (root : String) : List (String × RootEntry) → Except ArtifactCacheError CacheScan
  | [] => .ok ⟨[], [], []⟩
  | (artifactId, entry) :: roots =>
    match artifactReferenceError (probe artifactId), entry with
    | none, .artifact activation children => do
      let activation ← readActivation artifactId activation
      let (found, stale) ← scanArtifact root artifactId children.entries
      let scan ← scanRoots root roots
      return ⟨found ++ scan.entries, activationKeys activation ++ scan.protectedKeys,
        stale ++ scan.leftovers⟩
    | _, _ => .error (stateInvalid ("invalid artifact cache directory: " ++ artifactId))

/-! ### Accounting -/

/-- Current storage consumption split by collection eligibility. -/
structure CacheAccounting where
  totalItems : Nat
  totalBytes : Nat
  protectedItems : Nat
  protectedBytes : Nat
  unreferencedItems : Nat
  unreferencedBytes : Nat
  reclaimableItems : Nat
  reclaimableBytes : Nat
  deriving DecidableEq

def totalSize (entries : List CacheEntry) : Nat := (entries.map CacheEntry.sizeBytes).sum

def accountingOf (entries : List CacheEntry) (protectedKeys : List (String × String))
    (leftovers : List Leftover) : CacheAccounting :=
  let protectedEntries := entries.filter fun entry => decide (entry.key ∈ protectedKeys)
  ⟨entries.length, totalSize entries, protectedEntries.length, totalSize protectedEntries,
    entries.length - protectedEntries.length, totalSize entries - totalSize protectedEntries,
    leftovers.length, (leftovers.map Leftover.sizeBytes).sum⟩

/-- Bounds on the versions under a root. -/
structure Cache where
  root : String
  maxBytes : Nat
  maxItems : Nat

namespace Cache

variable (cache : Cache)

def scan (disk : CacheDisk) : Except ArtifactCacheError CacheScan := scanRoots cache.root disk.entries

/-- Report exact primary and sidecar bytes for installed versions. -/
def accounting (disk : CacheDisk) : Except ArtifactCacheError CacheAccounting := do
  let scan ← cache.scan disk
  return accountingOf scan.entries scan.protectedKeys scan.leftovers

/-- Consumption is within both quotas. -/
def within (usage : CacheAccounting) : Bool :=
  decide (usage.totalItems ≤ cache.maxItems) && decide (usage.totalBytes ≤ cache.maxBytes)

end Cache

/-! ### Collecting -/

/-- Which removals fail, of an artifact and a name: why, and what is left. -/
structure CacheFaults where
  reclaim : String → String → Option (String × CacheChild)
  remove : String → String → Option (String × CacheChild)

/-- One deterministic quota-enforcement result. -/
structure CacheCollection where
  before : CacheAccounting
  after : CacheAccounting
  removed : List ArtifactReference
  reclaimed : List String
  deriving DecidableEq

def Leftover.label (leftover : Leftover) : String := leftover.artifact ++ "/" ++ leftover.name

/-- Delete abandoned installer temporaries, one after another. -/
def reclaimAll (faults : CacheFaults) :
    List Leftover → CacheDisk → Except ArtifactCacheError (List String) × CacheDisk
  | [], disk => (.ok [], disk)
  | leftover :: leftovers, disk =>
    match faults.reclaim leftover.artifact leftover.name with
    | some (error, left) =>
      (.error ⟨"cache-reclaim-failed", "cannot reclaim " ++ leftover.label ++ ": " ++ error⟩,
        disk.replace leftover.artifact leftover.name left)
    | none =>
      match reclaimAll faults leftovers (disk.erase leftover.artifact leftover.name) with
      | (.ok labels, disk) => (.ok (leftover.label :: labels), disk)
      | (.error error, disk) => (.error error, disk)

/-- The order in which versions are removed. -/
def earlier (first second : CacheEntry) : Bool :=
  decide (first.reference.id < second.reference.id ∨
    first.reference.id = second.reference.id ∧ first.reference.version ≤ second.reference.version)

/-- The versions that an activation names. -/
def CacheScan.protectedEntries (scan : CacheScan) : List CacheEntry :=
  scan.entries.filter fun entry => decide (entry.key ∈ scan.protectedKeys)

/-- The other versions, in the order in which they are removed. -/
def CacheScan.candidates (scan : CacheScan) : List CacheEntry :=
  (scan.entries.filter fun entry => decide (entry.key ∉ scan.protectedKeys)).insertionSort fun first second =>
    earlier first second = true

namespace Cache

variable (cache : Cache)

/-- Remove candidates until both quotas hold of what is kept. -/
def collect (faults : CacheFaults) (protectedKeys : List (String × String)) :
    List CacheEntry → List CacheEntry → List ArtifactReference → CacheDisk →
      Except ArtifactCacheError (List CacheEntry × List ArtifactReference) × CacheDisk
  | [], kept, removed, disk => (.ok (kept, removed), disk)
  | entry :: candidates, kept, removed, disk =>
    if cache.within (accountingOf kept protectedKeys []) then (.ok (kept, removed), disk)
    else
      match faults.remove entry.reference.id entry.reference.version with
      | some (error, left) =>
        (.error ⟨"cache-delete-failed", "cannot remove " ++ entry.reference.id ++ "@" ++
          entry.reference.version ++ ": " ++ error⟩,
          disk.replace entry.reference.id entry.reference.version left)
      | none =>
        collect faults protectedKeys candidates (kept.erase entry) (removed ++ [entry.reference])
          (disk.erase entry.reference.id entry.reference.version)

/-- Reclaim installer leftovers, then remove unreferenced versions. -/
def enforce (faults : CacheFaults) (disk : CacheDisk) :
    Except ArtifactCacheError CacheCollection × CacheDisk :=
  match cache.scan disk with
  | .error error => (.error error, disk)
  | .ok scan =>
    match reclaimAll faults scan.leftovers disk with
    | (.error error, disk) => (.error error, disk)
    | (.ok reclaimed, disk) =>
      if !cache.within (accountingOf scan.protectedEntries scan.protectedKeys []) then
        (.error ⟨"quota-unsatisfiable", "active and rollback artifacts exceed cache quotas"⟩, disk)
      else
        match cache.collect faults scan.protectedKeys scan.candidates scan.entries [] disk with
        | (.error error, disk) => (.error error, disk)
        | (.ok (kept, removed), disk) =>
          let after := accountingOf kept scan.protectedKeys []
          if !cache.within after then
            (.error ⟨"quota-unsatisfiable", "cache quotas cannot be satisfied"⟩, disk)
          else
            (.ok ⟨accountingOf scan.entries scan.protectedKeys scan.leftovers, after, removed, reclaimed⟩,
              disk)

end Cache

end ArtifactCache

end Omnitensor
