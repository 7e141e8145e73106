/-
This file models the store of the versions of one artifact.

Every version has a directory, which is filled in a stage and then put in place. A document names
the active version and the one to roll back to. Of a reference, only its identity is stored: not the
companions it declares, nor where the file comes from and under which licence.

What is in a directory is what its names lead to, with links followed; a name that leads nowhere is
no name. A stored document is the JSON value it is read as, or unreadable. Whom the trust verifier
trusts is a parameter, of what is stored of a reference and of the provenance. Looking whether
something exists does not fail; reading a file and every write may.
-/

import Omnitensor.PluginSettings

namespace Omnitensor

namespace ArtifactStore

/-! ### References -/

/-- What is stored of a reference. -/
structure ArtifactIdentity where
  id : String
  version : String
  format : String
  sha256 : String
  deriving DecidableEq

/-- Manifest identity and expected digests for one model artifact. -/
structure ArtifactReference extends ArtifactIdentity where
  companions : List (String × String)
  sourceUri : String
  licenseSpdx : String
  deriving DecidableEq

/-- A reference as it is read from the store. -/
def ArtifactIdentity.reference (identity : ArtifactIdentity) : ArtifactReference :=
  { identity with companions := [], sourceUri := "", licenseSpdx := "" }

/-- The primary file of each format. -/
def artifactFilenames : List (String × String) :=
  [("tflite-edgetpu", "model.tflite"), ("tflite", "model.tflite"), ("onnx", "model.onnx"),
    ("openvino", "model.xml"), ("ncnn", "model.param"), ("gguf", "model.gguf"),
    ("ggml-whisper", "model.bin")]

/-- The conventional primary filename for a supported model format. -/
def artifactFilename (format : String) : Option String :=
  (artifactFilenames.find? fun entry => decide (entry.1 = format)).map Prod.snd

/-- The files that must accompany the primary file for a format. -/
def companionFilenames (format : String) : List String :=
  if format ∈ ["ncnn", "openvino"] then ["model.bin"] else []

def optionalCompanionFilenames : List String := ["labels.txt", "mmproj.gguf", "tokenizer.json"]

/-- Every companion a format accepts, required or not. -/
def permittedCompanionFilenames (format : String) : List String :=
  companionFilenames format ++ optionalCompanionFilenames

/-- `[a-f0-9]{64}`. -/
def Pattern.sha256 (text : String) : Bool :=
  decide (text.length = 64) &&
    text.toList.all fun char => Pattern.digit char || ('a' ≤ char && char ≤ 'f')

/-- Why an identity is invalid, if it is. -/
def artifactReferenceError (identity : ArtifactIdentity) : Option String :=
  if !Pattern.identifier identity.id then some "invalid artifact id"
  else if !Pattern.configurationVersion identity.version then some "invalid artifact version"
  else if (artifactFilename identity.format).isNone then
    some ("unsupported artifact format: " ++ identity.format)
  else if !Pattern.sha256 identity.sha256 then some "invalid artifact sha256"
  else none

/-! ### What is on disk -/

/-- A stored document. -/
inductive StoredDocument where
  | unreadable (error : String)
  | json (document : Json ExactDecimal)

/-- What a file holds, or why it cannot be read. -/
inductive FileContent where
  | regular (digest : String) (size : Nat)
  | unreadable (error : String)
  /-- It is not a regular file. -/
  | special

/-- What a name leads to, with links followed. -/
structure StoredFile where
  path : String
  /-- It is inside the root of the store. -/
  inside : Bool
  content : FileContent
  /-- The record of the provenance in the directory that it is in. -/
  beside : Option StoredDocument

/-- The directory of a version. -/
structure VersionDirectory where
  /-- The files in it, but for those the installer generates. -/
  files : Dict String StoredFile
  /-- What other paths from it lead to. -/
  others : String → Option StoredFile
  metadata : Option StoredDocument
  provenance : Option StoredDocument

/-- What a path from the directory of a version leads to. -/
def VersionDirectory.file? (directory : VersionDirectory) (name : String) : Option StoredFile :=
  (directory.files.get? name).or (directory.others name)

/-- The store of one artifact. -/
structure ArtifactDisk where
  activation : Option StoredDocument
  versions : String → Option VersionDirectory

/-- One active version and its single deterministic rollback target. -/
structure ArtifactActivation where
  active : Option ArtifactReference
  rollback : Option ArtifactReference
  deriving DecidableEq

/-- Successful activation result. -/
structure ArtifactInstallation where
  reference : ArtifactReference
  path : String
  previous : Option ArtifactReference

/-- What a call raises: a stable failure, or an error of the system. -/
inductive ArtifactFailure where
  | installation (code detail : String)
  | system (error : String)
  deriving DecidableEq

/-- Whom to trust: the reason not to, if there is one. -/
structure ArtifactTrustVerifier (Provenance : Type) where
  verify : ArtifactIdentity → Option Provenance → Option String
  verifyInstalled : ArtifactIdentity → Option StoredDocument → Option String
  /-- The record of a provenance. -/
  provenanceDocument : ArtifactIdentity → Option Provenance → Json ExactDecimal

/-- An installer over a root. -/
structure ArtifactInstaller (Provenance : Type) where
  root : String
  maxArtifactBytes : Nat
  trustVerifier : Option (ArtifactTrustVerifier Provenance)

/-! ### Resolving -/

/-- The digest of a file that is not too large, or why there is none. -/
def FileContent.digest (maxBytes : Nat) : FileContent → Except String String
  | .regular digest size =>
    if maxBytes < size then .error ("file exceeds " ++ toString maxBytes ++ " bytes") else .ok digest
  | .unreadable error => .error error
  | .special => .error "not a regular file"

/-- It is a regular file, which may be unreadable. -/
def FileContent.isFile : FileContent → Bool
  | .special => false
  | _ => true

namespace ArtifactResolver

/-- Check a file against the digest of an identity. -/
def verify (maxBytes : Nat) (file : StoredFile) (identity : ArtifactIdentity) :
    Except String StoredFile :=
  match file.content with
  | .special => .error ("artifact is not a regular file: " ++ file.path)
  | .unreadable error => .error ("artifact cannot be read: " ++ error)
  | .regular digest size =>
    if maxBytes < size then .error ("artifact exceeds " ++ toString maxBytes ++ " bytes")
    else if digest ≠ identity.sha256 then .error "artifact sha256 mismatch"
    else .ok file

/-- The file an identity resolves to, or why it does not. -/
def resolve (root : String) (maxBytes : Nat) (disk : ArtifactDisk) (identity : ArtifactIdentity) :
    Except String StoredFile :=
  match artifactReferenceError identity with
  | some invalid => .error invalid
  | none =>
    match (do
        let filename ← artifactFilename identity.format
        let directory ← disk.versions identity.version
        directory.file? filename) with
    | none => .error ("artifact not installed: " ++ identity.id ++ "@" ++ identity.version)
    | some file =>
      if !file.inside then .error ("artifact path escapes allowlisted root: " ++ root)
      else verify maxBytes file identity

end ArtifactResolver

/-! ### Activation -/

/-- Stable JSON representation used by activation and cache metadata. -/
def artifactReferenceDocument (identity : ArtifactIdentity) : Json ExactDecimal :=
  .object [("id", .string identity.id), ("version", .string identity.version),
    ("format", .string identity.format), ("sha256", .string identity.sha256)]

/-- Parse an exact stored reference or reject corrupt state. -/
def artifactReferenceFromDocument : Json ExactDecimal → Except ArtifactFailure ArtifactReference
  | .object document =>
    if Json.hasFields document ["id", "version", "format", "sha256"] then
      match Json.field document "id", Json.field document "version", Json.field document "format",
        Json.field document "sha256" with
      | some (.string id), some (.string version), some (.string format), some (.string sha256) =>
        match artifactReferenceError ⟨id, version, format, sha256⟩ with
        | some invalid => .error (.installation "metadata-invalid" invalid)
        | none => .ok (ArtifactIdentity.reference ⟨id, version, format, sha256⟩)
      | _, _, _, _ => .error (.installation "metadata-invalid" "artifact reference is invalid")
    else .error (.installation "metadata-invalid" "artifact reference has invalid fields")
  | _ => .error (.installation "metadata-invalid" "artifact reference has invalid fields")

namespace ArtifactInstaller

def documentVersion : Int := 1

/-- An entry of the activation of an artifact. -/
def parseEntry (artifactId label : String) :
    Json ExactDecimal → Except ArtifactFailure (Option ArtifactReference)
  | .null => .ok none
  | document =>
    match artifactReferenceFromDocument document with
    | .error failure => .error failure
    | .ok reference =>
      if reference.id ≠ artifactId then
        .error (.installation "activation-state-invalid" (label ++ " artifact id does not match"))
      else .ok (some reference)

/-- The activation of an artifact in a document. -/
def parseActivation (document : Json ExactDecimal) (artifactId : String) :
    Except ArtifactFailure ArtifactActivation :=
  match document with
  | .object members =>
    match Json.hasFields members ["version", "artifactId", "active", "rollback"],
      Json.field members "version", Json.field members "artifactId", Json.field members "active",
      Json.field members "rollback" with
    | true, some version, some (.string id), some active, some rollback =>
      if !version.equalsInt documentVersion || id ≠ artifactId then
        .error (.installation "activation-state-invalid" "activation identity is invalid")
      else do
        let active ← parseEntry artifactId "active" active
        let rollback ← parseEntry artifactId "rollback" rollback
        return ⟨active, rollback⟩
    | true, _, _, _, _ =>
      .error (.installation "activation-state-invalid" "activation identity is invalid")
    | false, _, _, _, _ =>
      .error (.installation "activation-state-invalid" "activation has invalid fields")
  | _ => .error (.installation "activation-state-invalid" "activation has invalid fields")

/-- Read strict activation state; absence means no version is active. -/
def activation (disk : ArtifactDisk) (artifactId : String) :
    Except ArtifactFailure ArtifactActivation :=
  if !Pattern.identifier artifactId then
    .error (.installation "reference-invalid" "invalid artifact id")
  else
    match disk.activation with
    | none => .ok ⟨none, none⟩
    | some (.unreadable error) =>
      .error (.installation "activation-state-invalid" ("cannot read activation: " ++ error))
    | some (.json document) => parseActivation document artifactId

/-- The entry of a reference as it is written. -/
def entryDocument (reference : Option ArtifactReference) : Json ExactDecimal :=
  match reference with
  | none => .null
  | some reference => artifactReferenceDocument reference.toArtifactIdentity

def activationDocument (artifactId : String) (state : ArtifactActivation) : Json ExactDecimal :=
  .object [("version", .int documentVersion), ("artifactId", .string artifactId),
    ("active", entryDocument state.active), ("rollback", entryDocument state.rollback)]

/-- The store with another activation. -/
def writeActivation (disk : ArtifactDisk) (artifactId : String) (state : ArtifactActivation) :
    ArtifactDisk :=
  { disk with activation := some (.json (activationDocument artifactId state)) }

/-! ### Companions -/

/-- The digests an installed artifact recorded for its companions, or why they cannot be read. -/
def recordedCompanions : Option StoredDocument → Except String (JsonFields ExactDecimal)
  | none => .ok []
  | some (.unreadable error) => .error ("artifact metadata is unreadable: " ++ error)
  | some (.json (.object document)) =>
    match Json.field document "companions" with
    | none => .ok []
    | some (.object recorded) => .ok recorded
    | some _ => .error "artifact metadata records no usable companion digests"
  | some (.json _) => .error "artifact metadata is not a metadata document"

variable {Provenance : Type} (installer : ArtifactInstaller Provenance)

/-- Why a companion is not what was recorded, if it is not. -/
def companionError (directory : VersionDirectory) (recorded : String × Json ExactDecimal) :
    Option String :=
  match directory.file? recorded.1 with
  | none => some ("companion file is missing: " ++ recorded.1)
  | some file =>
    if !file.content.isFile then some ("companion file is missing: " ++ recorded.1)
    else
      match file.content.digest installer.maxArtifactBytes, recorded.2 with
      | .error error, _ => some ("companion file is unreadable: " ++ recorded.1 ++ ": " ++ error)
      | .ok observed, .string expected =>
        if observed = expected then none
        else some ("companion file does not match its recorded digest: " ++ recorded.1)
      | .ok _, _ => some ("companion file does not match its recorded digest: " ++ recorded.1)

/-- Re-check installed companions against the digests recorded for them: why they are not, if they
are not. -/
def verifyCompanions : Option VersionDirectory → Option String
  | none => none
  | some directory =>
    match recordedCompanions directory.metadata with
    | .error error => some error
    | .ok recorded =>
      (recorded.mergeSort fun first second => decide (first.1 ≤ second.1)).findSome?
        (installer.companionError directory)

/-- Why a record of provenance is not trusted, if it is not. -/
def recordTrust (identity : ArtifactIdentity) (record : Option StoredDocument) : Option String :=
  installer.trustVerifier.bind fun verifier => verifier.verifyInstalled identity record

/-- Why an installed version is not trusted, if it is not. -/
def storedTrust (disk : ArtifactDisk) (identity : ArtifactIdentity) : Option String :=
  installer.recordTrust identity ((disk.versions identity.version).bind VersionDirectory.provenance)

/-- Resolve an identity in the root of the installer. -/
def resolve (disk : ArtifactDisk) (identity : ArtifactIdentity) : Except String StoredFile :=
  ArtifactResolver.resolve installer.root installer.maxArtifactBytes disk identity

/-- Resolve the active pointer through the same immutable digest gate. -/
def resolveActive (disk : ArtifactDisk) (artifactId : String) :
    Except ArtifactFailure (Except String StoredFile) := do
  let current ← activation disk artifactId
  match current.active with
  | none => return .error ("artifact has no active version: " ++ artifactId)
  | some active =>
    match installer.storedTrust disk active.toArtifactIdentity with
    | some untrusted => return .error untrusted
    | none =>
      match installer.verifyCompanions (disk.versions active.version) with
      | some companion => return .error companion
      | none => return installer.resolve disk active.toArtifactIdentity

/-! ### Staging -/

/-- A file that is to be installed. -/
inductive SourceFile where
  | regular (digest : String) (size : Nat)
  | unreadable (error : String)

/-- Which operations of an install fail. -/
structure InstallFaults where
  stage : Bool
  replace : Bool
  activation : Bool

/-- The path of a file of a version. -/
def storePath (identity : ArtifactIdentity) (name : String) : String :=
  installer.root ++ "/" ++ identity.id ++ "/" ++ identity.version ++ "/" ++ name

/-- The companions supplied are those the format needs and accepts. -/
def checkCompanions (format : String) (supplied : List String) : Except ArtifactFailure Unit :=
  match (companionFilenames format).filter fun name => decide (name ∉ supplied),
    (supplied.filter fun name => decide (name ∉ permittedCompanionFilenames format)).mergeSort with
  | [], [] => .ok ()
  | [], name :: _ =>
    .error (.installation "companion-unexpected" (format ++ " accepts no companion named " ++ name))
  | missing, _ =>
    .error (.installation "companion-missing"
      (format ++ " requires " ++ ", ".intercalate missing ++ " beside its primary file"))

/-- Copy the primary file, if it has the digest of the reference. -/
def copyVerified (source : SourceFile) (expectedDigest : String) :
    Except ArtifactFailure FileContent :=
  match source with
  | .unreadable error => .error (.installation "source-invalid" ("cannot open artifact: " ++ error))
  | .regular digest size =>
    if installer.maxArtifactBytes < size then
      .error (.installation "artifact-too-large"
        ("artifact exceeds " ++ toString installer.maxArtifactBytes ++ " bytes"))
    else if digest ≠ expectedDigest then
      .error (.installation "digest-mismatch" "artifact sha256 mismatch")
    else .ok (.regular digest size)

/-- Copy a companion. -/
def copyDigested (companion : String × SourceFile) :
    Except ArtifactFailure (String × String × Nat) :=
  match companion.2 with
  | .unreadable error =>
    .error (.installation "companion-unreadable"
      ("could not read companion " ++ companion.1 ++ ": " ++ error))
  | .regular digest size =>
    if installer.maxArtifactBytes < size then
      .error (.installation "companion-too-large"
        ("companion exceeds " ++ toString installer.maxArtifactBytes ++ " bytes"))
    else .ok (companion.1, digest, size)

/-- The metadata of an artifact with companions of these digests. -/
def metadataDocument (identity : ArtifactIdentity) (digests : List (String × String)) :
    Json ExactDecimal :=
  .object [("version", .int documentVersion), ("artifact", artifactReferenceDocument identity),
    ("companions", .object (digests.map fun companion => (companion.1, .string companion.2)))]

/-- A name, and a file of that name in the directory of a version. -/
def stagedFile (identity : ArtifactIdentity) (record : Option StoredDocument) (name : String)
    (content : FileContent) : String × StoredFile :=
  (name, ⟨installer.storePath identity name, true, content, record⟩)

/-- Fill the directory of a version: the primary file and then the companions by name. -/
def stage (reference : ArtifactReference) (filename : String) (source : SourceFile)
    (companions : Dict String SourceFile) (provenance : Option Provenance) :
    Except ArtifactFailure VersionDirectory := do
  let identity := reference.toArtifactIdentity
  let primary ← installer.copyVerified source reference.sha256
  let copied ← (companions.sortBy fun first second => decide (first ≤ second)).entries.mapM
    installer.copyDigested
  match installer.trustVerifier.bind fun verifier => verifier.verify identity provenance with
  | some untrusted => .error (.installation "artifact-untrusted" untrusted)
  | none =>
    let record := installer.trustVerifier.map fun verifier =>
      StoredDocument.json (verifier.provenanceDocument identity provenance)
    return {
      files := (copied.map fun companion =>
          installer.stagedFile identity record companion.1
            (.regular companion.2.1 companion.2.2)).foldl
        (fun files named => files.set named.1 named.2)
        (Dict.empty.set filename (installer.stagedFile identity record filename primary).2)
      others := fun _ => none
      metadata := some (.json (metadataDocument identity
        (copied.map fun companion => (companion.1, companion.2.1))))
      provenance := record }

/-! ### Installing -/

/-- Every artifact file in one directory, by name and content. -/
def fileDigests (directory : VersionDirectory) : Except ArtifactFailure (List (String × String)) :=
  (directory.files.entries.filter fun entry => entry.2.content.isFile).mapM fun entry =>
    match entry.2.content.digest installer.maxArtifactBytes with
    | .ok digest => .ok (entry.1, digest)
    | .error error => .error (.system error)

/-- What an install would change of the files of a version. -/
def companionChanges (staged installed : List (String × String)) : List String :=
  let added := ((staged.map Prod.fst).filter fun name => (installed.lookup name).isNone).mergeSort
  let altered := ((staged.filter fun file =>
    (installed.lookup file.1).any fun digest => decide (file.2 ≠ digest)).map Prod.fst).mergeSort
  (if added = [] then [] else ["gain " ++ ", ".intercalate added]) ++
    if altered = [] then [] else ["replace " ++ ", ".intercalate altered]

def versionImmutable (identity : ArtifactIdentity) (staged installed : List (String × String)) : String :=
  let names := (installed.map Prod.fst).mergeSort
  let changes := companionChanges staged installed
  identity.id ++ " " ++ identity.version ++ " is already installed with " ++
    (if names = [] then "no files" else ", ".intercalate names) ++ "; it cannot " ++
    (if changes = [] then "change its file set" else " and ".intercalate changes) ++
    " without a new version"

/-- Refuse an install that the version cannot absorb. -/
def refuseChangedCompanions (staged installed : VersionDirectory) (identity : ArtifactIdentity) :
    Except ArtifactFailure Unit := do
  let staged ← installer.fileDigests staged
  let installed ← installer.fileDigests installed
  if staged.isPerm installed then return ()
  else .error (.installation "version-immutable" (versionImmutable identity staged installed))

/-- Put a stage in place, or go on with the version that is installed: the file that is active. -/
def activateVersion (staged : VersionDirectory) (reference : ArtifactReference)
    (replaceFails : Bool) (disk : ArtifactDisk) :
    Except ArtifactFailure StoredFile × ArtifactDisk :=
  match disk.versions reference.version with
  | some installed =>
    match installer.resolve disk reference.toArtifactIdentity with
    | .error _ =>
      (.error (.installation "version-conflict"
        ("installed version is not the requested immutable artifact: " ++ reference.version)), disk)
    | .ok file =>
      match installer.refuseChangedCompanions staged installed reference.toArtifactIdentity with
      | .error failure => (.error failure, disk)
      | .ok _ => (.ok file, disk)
  | none =>
    if replaceFails then
      (.error (.installation "activation-failed" "could not activate artifact version"), disk)
    else
      match (artifactFilename reference.format).bind staged.file? with
      | none => (.error (.system "no primary file"), disk)
      | some file =>
        (.ok file,
          { disk with versions := Function.update disk.versions reference.version (some staged) })

/-- Stage and verify a source before atomically activating its version. -/
def install (reference : ArtifactReference) (source : SourceFile)
    (companions : Dict String SourceFile) (provenance : Option Provenance) (faults : InstallFaults)
    (disk : ArtifactDisk) : Except ArtifactFailure ArtifactInstallation × ArtifactDisk :=
  let prepared : Except ArtifactFailure (ArtifactActivation × VersionDirectory) := do
    match artifactReferenceError reference.toArtifactIdentity, artifactFilename reference.format with
    | none, some filename =>
      checkCompanions reference.format companions.keys
      let current ← activation disk reference.id
      if faults.stage then .error (.system "could not write the stage")
      else
        let staged ← installer.stage reference filename source companions provenance
        return (current, staged)
    | invalid, _ => .error (.installation "reference-invalid" (invalid.getD ""))
  match prepared with
  | .error failure => (.error failure, disk)
  | .ok (current, staged) =>
    match installer.activateVersion staged reference faults.replace disk with
    | (.error failure, disk) => (.error failure, disk)
    | (.ok file, disk) =>
      match installer.recordTrust reference.toArtifactIdentity file.beside with
      | some untrusted => (.error (.installation "artifact-untrusted" untrusted), disk)
      | none =>
        let previous := if current.active ≠ some reference then current.active else current.rollback
        if faults.activation then
          (.error (.installation "activation-failed" "could not persist active version"), disk)
        else
          (.ok ⟨reference, file.path, current.active⟩,
            writeActivation disk reference.id ⟨some reference, previous⟩)

/-! ### Rolling back and uninstalling -/

/-- Atomically swap active and rollback versions after re-verification. -/
def rollback (artifactId : String) (writeFails : Bool) (disk : ArtifactDisk) :
    Except ArtifactFailure ArtifactInstallation × ArtifactDisk :=
  match activation disk artifactId with
  | .error failure => (.error failure, disk)
  | .ok current =>
    match current.active, current.rollback with
    | some active, some target =>
      match installer.storedTrust disk target.toArtifactIdentity,
        installer.resolve disk target.toArtifactIdentity with
      | some untrusted, _ => (.error (.installation "rollback-invalid" untrusted), disk)
      | none, .error reason => (.error (.installation "rollback-invalid" reason), disk)
      | none, .ok file =>
        if writeFails then (.error (.system "could not write the activation"), disk)
        else
          (.ok ⟨target, file.path, some active⟩,
            writeActivation disk artifactId ⟨some target, some active⟩)
    | _, _ =>
      (.error (.installation "rollback-unavailable"
        ("artifact has no rollback version: " ++ artifactId)), disk)

/-- Remove one installed version and undo the activation that named it. What the removal leaves of
the directory, if anything, is given. -/
def uninstall (reference : ArtifactReference) (writeFails : Bool)
    (left : Option VersionDirectory) (disk : ArtifactDisk) :
    Except ArtifactFailure Bool × ArtifactDisk :=
  match activation disk reference.id with
  | .error failure => (.error failure, disk)
  | .ok current =>
    let undone : Option ArtifactActivation :=
      if current.active = some reference then some ⟨current.rollback, none⟩
      else if current.rollback = some reference then some ⟨current.active, none⟩
      else none
    if undone.isSome && writeFails then (.error (.system "could not write the activation"), disk)
    else
      let disk := undone.elim disk (writeActivation disk reference.id)
      match disk.versions reference.version with
      | none => (.ok false, disk)
      | some _ =>
        (.ok true, { disk with versions := Function.update disk.versions reference.version left })

end ArtifactInstaller

end ArtifactStore

end Omnitensor
