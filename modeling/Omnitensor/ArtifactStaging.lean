/-
This file says what the installer of artifacts writes.

An activation is read back as what is stored of its references. A stage holds the primary file under
the digest of the reference and companions that the format accepts, and its metadata records the
digests that the companions have; so whatever the companions are, the directory passes its own
checks.
-/

import Omnitensor.ArtifactStore

namespace Omnitensor

namespace ArtifactStore

/-! ### File names -/

variable {format filename : String}

theorem mem_artifactFilenames (found : artifactFilename format = some filename) :
    (format, filename) ∈ artifactFilenames := by
  obtain ⟨entry, first, rfl⟩ := Option.map_eq_some_iff.mp found
  have same := List.find?_some first
  rw [decide_eq_true_eq] at same
  exact same ▸ List.mem_of_find?_eq_some first

/-- The primary file of a format is none of its companions. -/
theorem filename_not_mem_permitted (found : artifactFilename format = some filename) :
    filename ∉ permittedCompanionFilenames format := by
  have table : ∀ entry ∈ artifactFilenames, entry.2 ∉ permittedCompanionFilenames entry.1 := by
    decide
  exact table _ (mem_artifactFilenames found)

/-- Of two formats, not both accept the primary file of the other as a companion. -/
theorem not_mem_permitted_both {first second firstName secondName : String}
    (firstFound : artifactFilename first = some firstName)
    (secondFound : artifactFilename second = some secondName)
    (accepted : firstName ∈ permittedCompanionFilenames second) :
    secondName ∉ permittedCompanionFilenames first := by
  have table : ∀ entry ∈ artifactFilenames, ∀ other ∈ artifactFilenames,
      entry.2 ∈ permittedCompanionFilenames other.1 →
        other.2 ∉ permittedCompanionFilenames entry.1 := by decide
  exact table _ (mem_artifactFilenames firstFound) _ (mem_artifactFilenames secondFound) accepted

theorem identifier_of_valid {identity : ArtifactIdentity}
    (valid : artifactReferenceError identity = none) : Pattern.identifier identity.id = true := by
  rw [artifactReferenceError] at valid
  split at valid
  · cases valid
  · rename_i known
    simpa using known

/-! ### Activations -/

/-- What is left of a reference when it is stored. -/
def ArtifactReference.stored (reference : ArtifactReference) : ArtifactReference :=
  reference.toArtifactIdentity.reference

namespace ArtifactInstaller

/-- A reference may be an entry of the activation of an artifact. -/
structure Names (artifactId : String) (reference : ArtifactReference) : Prop where
  valid : artifactReferenceError reference.toArtifactIdentity = none
  id_eq : reference.id = artifactId

variable {artifactId label filename : String} {disk after : ArtifactDisk}
  {entry : Option ArtifactReference} {state : ArtifactActivation} {reference : ArtifactReference}
  {staged : VersionDirectory}

theorem parseEntry_entryDocument (names : ∀ reference ∈ entry, Names artifactId reference) :
    parseEntry artifactId label (entryDocument entry) =
      .ok (entry.map ArtifactReference.stored) := by
  cases entry with
  | none => rfl
  | some reference =>
    obtain ⟨valid, rfl⟩ := names reference rfl
    have read : artifactReferenceFromDocument
        (artifactReferenceDocument reference.toArtifactIdentity) = .ok reference.stored := by
      rw [artifactReferenceDocument, artifactReferenceFromDocument]
      have fields : @Json.hasFields ExactDecimal String _
          [("id", .string reference.id), ("version", .string reference.version),
            ("format", .string reference.format), ("sha256", .string reference.sha256)]
          ["id", "version", "format", "sha256"] = true := rfl
      simp [fields, Json.field, valid, ArtifactReference.stored]
    show parseEntry reference.id label (artifactReferenceDocument reference.toArtifactIdentity) = _
    rw [parseEntry, read]
    · exact if_neg (not_not.mpr rfl)
    · exact nofun

/-- An activation is read as what is stored of its references. -/
theorem parseActivation_activationDocument
    (active : ∀ reference ∈ state.active, Names artifactId reference)
    (rollback : ∀ reference ∈ state.rollback, Names artifactId reference) :
    parseActivation (activationDocument artifactId state) artifactId =
      .ok ⟨state.active.map ArtifactReference.stored,
        state.rollback.map ArtifactReference.stored⟩ := by
  rw [activationDocument, parseActivation]
  have fields : @Json.hasFields ExactDecimal String _
      [("version", .int documentVersion), ("artifactId", .string artifactId),
        ("active", entryDocument state.active), ("rollback", entryDocument state.rollback)]
      ["version", "artifactId", "active", "rollback"] = true := rfl
  simp [fields, Json.field, Json.equalsInt, parseEntry_entryDocument active,
    parseEntry_entryDocument rollback, bind, Except.bind, pure, Except.pure]

theorem activation_writeActivation (known : Pattern.identifier artifactId = true)
    (active : ∀ reference ∈ state.active, Names artifactId reference)
    (rollback : ∀ reference ∈ state.rollback, Names artifactId reference) :
    activation (writeActivation disk artifactId state) artifactId =
      .ok ⟨state.active.map ArtifactReference.stored,
        state.rollback.map ArtifactReference.stored⟩ := by
  rw [activation, known]
  exact parseActivation_activationDocument active rollback

/-- A reference that is read from an activation. -/
structure Entry (artifactId : String) (reference : ArtifactReference) : Prop
    extends Names artifactId reference where
  stored_eq : reference.stored = reference

theorem entry_of_parseEntry {document : Json ExactDecimal}
    (parsed : parseEntry artifactId label document = .ok entry) :
    ∀ reference ∈ entry, Entry artifactId reference := by
  rintro reference member
  obtain rfl := Option.mem_def.mp member
  rw [parseEntry.eq_def] at parsed
  split at parsed
  · cases parsed
  · split at parsed
    · cases parsed
    · rename_i found read
      split at parsed
      · cases parsed
      · rename_i same
        cases parsed
        rw [artifactReferenceFromDocument.eq_def] at read
        split at read
        · split at read
          · split at read
            · split at read
              · cases read
              · rename_i valid
                cases read
                exact ⟨⟨valid, not_not.mp same⟩, rfl⟩
            · cases read
          · cases read
        · cases read

/-- What is read from an activation are entries. -/
theorem entries_of_activation {current : ArtifactActivation}
    (read : activation disk artifactId = .ok current) :
    Pattern.identifier artifactId = true ∧
      (∀ reference ∈ current.active, Entry artifactId reference) ∧
      ∀ reference ∈ current.rollback, Entry artifactId reference := by
  rw [activation] at read
  split at read
  · cases read
  · rename_i known
    refine ⟨by simpa using known, ?_⟩
    split at read
    · cases read
      exact ⟨nofun, nofun⟩
    · cases read
    · rw [parseActivation.eq_def] at read
      split at read
      · split at read
        · split at read
          · cases read
          · obtain ⟨active, first, read⟩ := bind_eq_ok.mp read
            obtain ⟨rollback, second, same⟩ := bind_eq_ok.mp read
            cases same
            exact ⟨entry_of_parseEntry first, entry_of_parseEntry second⟩
        · cases read
        · cases read
      · cases read

/-! ### Stages -/

variable {Provenance : Type} {installer : ArtifactInstaller Provenance}

/-- A companion that is copied has its name, and is not too large. -/
theorem copyDigested_eq_ok {companion : String × SourceFile} {copy : String × String × Nat}
    (copied : installer.copyDigested companion = .ok copy) :
    copy.1 = companion.1 ∧ copy.2.2 ≤ installer.maxArtifactBytes := by
  rw [copyDigested] at copied
  split at copied
  · cases copied
  · split at copied
    · cases copied
    · rename_i small
      cases copied
      exact ⟨rfl, Nat.le_of_not_lt small⟩

variable {source : SourceFile} {companions : Dict String SourceFile}
  {provenance : Option Provenance} {result : Except ArtifactFailure ArtifactInstallation}

theorem copyVerified_eq_ok {expectedDigest : String} {content : FileContent}
    (copied : installer.copyVerified source expectedDigest = .ok content) :
    ∃ size, content = .regular expectedDigest size ∧ size ≤ installer.maxArtifactBytes := by
  rw [copyVerified.eq_def] at copied
  split at copied
  · cases copied
  · split at copied
    · cases copied
    · rename_i small
      split at copied
      · cases copied
      · rename_i same
        cases copied
        exact ⟨_, by rw [not_not.mp same], Nat.le_of_not_lt small⟩

theorem mem_permitted_of_checkCompanions {format : String} {supplied : List String}
    (checked : checkCompanions format supplied = .ok ()) {name : String}
    (member : name ∈ supplied) : name ∈ permittedCompanionFilenames format := by
  rw [checkCompanions] at checked
  split at checked
  · rename_i nothing
    by_contra refused
    have unexpected : name ∈ (supplied.filter fun name =>
        decide (name ∉ permittedCompanionFilenames format)).mergeSort :=
      List.mem_mergeSort.mpr (List.mem_filter.mpr ⟨member, decide_eq_true refused⟩)
    rw [nothing] at unexpected
    cases unexpected
  · cases checked
  · cases checked

/-- The files of a stage. -/
def stagedEntries (installer : ArtifactInstaller Provenance) (identity : ArtifactIdentity)
    (record : Option StoredDocument) (filename : String) (primary : FileContent)
    (copied : List (String × String × Nat)) : List (String × StoredFile) :=
  installer.stagedFile identity record filename primary ::
    copied.map fun companion =>
      installer.stagedFile identity record companion.1 (.regular companion.2.1 companion.2.2)

/-- What a stage of a reference is good for. -/
structure Staged (installer : ArtifactInstaller Provenance) (reference : ArtifactReference)
    (filename : String) (staged : VersionDirectory) : Prop where
  primary : ∃ size, staged.file? filename = some
      ⟨installer.storePath reference.toArtifactIdentity filename, true,
        .regular reference.sha256 size, staged.provenance⟩ ∧
    size ≤ installer.maxArtifactBytes
  digests : ∃ companions, installer.fileDigests staged =
      .ok ((filename, reference.sha256) :: companions) ∧
    ∀ companion ∈ companions, companion.1 ∈ permittedCompanionFilenames reference.format
  verified : installer.verifyCompanions (some staged) = none

/-- A directory with the files of a stage and their digests is good for the reference. -/
theorem staged_of_entries {size : Nat} {copied : List (String × String × Nat)}
    (small : size ≤ installer.maxArtifactBytes)
    (entries : staged.files.entries = installer.stagedEntries reference.toArtifactIdentity
      staged.provenance filename (.regular reference.sha256 size) copied)
    (accepted : ∀ companion ∈ copied,
      companion.1 ∈ permittedCompanionFilenames reference.format ∧
        companion.2.2 ≤ installer.maxArtifactBytes)
    (metadata : staged.metadata = some (.json (metadataDocument reference.toArtifactIdentity
      (copied.map fun companion => (companion.1, companion.2.1))))) :
    Staged installer reference filename staged where
  primary := by
    refine ⟨size, ?_, small⟩
    rw [VersionDirectory.file?, Dict.get?_eq_some_iff.mpr (by
      rw [entries]
      exact List.mem_cons_self)]
    rfl
  digests := by
    refine ⟨copied.map fun companion => (companion.1, companion.2.1), ?_, fun companion member => ?_⟩
    · have all : (staged.files.entries.filter fun entry => entry.2.content.isFile) =
          staged.files.entries := by
        rw [entries, List.filter_eq_self]
        simp only [stagedEntries, List.mem_cons, List.mem_map]
        rintro entry (rfl | ⟨companion, _, rfl⟩) <;> rfl
      rw [fileDigests, all, entries, stagedEntries]
      refine mapM_eq_ok.mpr (.cons ?_ ?_)
      · simp only [stagedFile, FileContent.digest, if_neg (Nat.not_lt.mpr small)]
      · rw [List.forall₂_map_left_iff, List.forall₂_map_right_iff, List.forall₂_same]
        intro companion member
        simp only [stagedFile, FileContent.digest,
          if_neg (Nat.not_lt.mpr (accepted companion member).2)]
    · obtain ⟨copy, among, rfl⟩ := List.mem_map.mp member
      exact (accepted copy among).1
  verified := by
    have recorded : recordedCompanions staged.metadata = .ok
        ((copied.map fun companion => (companion.1, companion.2.1)).map fun companion =>
          (companion.1, .string companion.2)) := by
      rw [metadata]
      rfl
    rw [verifyCompanions, recorded]
    refine List.findSome?_eq_none_iff.mpr fun member among => ?_
    simp only [List.mem_mergeSort, List.mem_map, exists_exists_and_eq_and] at among
    obtain ⟨companion, present, rfl⟩ := among
    have found : staged.file? companion.1 = some
        (installer.stagedFile reference.toArtifactIdentity staged.provenance companion.1
          (.regular companion.2.1 companion.2.2)).2 := by
      rw [VersionDirectory.file?, Dict.get?_eq_some_iff.mpr (by
        rw [entries]
        exact List.mem_cons_of_mem _ (List.mem_map.mpr ⟨companion, present, rfl⟩))]
      rfl
    simp only [companionError, found, stagedFile, FileContent.isFile, FileContent.digest,
      if_neg (Nat.not_lt.mpr (accepted companion present).2), Bool.not_true, Bool.false_eq_true,
      if_false, if_true]

/-- What is staged is good for its reference. -/
theorem staged_of_stage {reference : ArtifactReference} {filename : String}
    {staged : VersionDirectory} (named : artifactFilename reference.format = some filename)
    (checked : checkCompanions reference.format companions.keys = .ok ())
    (stages : installer.stage reference filename source companions provenance = .ok staged) :
    Staged installer reference filename staged := by
  obtain ⟨primary, copiesPrimary, stages⟩ := bind_eq_ok.mp stages
  obtain ⟨copied, copies, stages⟩ := bind_eq_ok.mp stages
  obtain ⟨size, rfl, small⟩ := copyVerified_eq_ok copiesPrimary
  have keys : copied.map Prod.fst =
      (companions.sortBy fun first second => decide (first ≤ second)).keys := by
    have same : List.Forall₂ (fun first second => first = second) (copied.map Prod.fst)
        (companions.sortBy fun first second => decide (first ≤ second)).keys := by
      rw [Dict.keys, List.forall₂_map_left_iff, List.forall₂_map_right_iff]
      exact (mapM_eq_ok.mp copies).flip.imp fun _ _ copy => (copyDigested_eq_ok copy).1
    rwa [List.forall₂_eq_eq_eq] at same
  have accepted : ∀ companion ∈ copied,
      companion.1 ∈ permittedCompanionFilenames reference.format ∧
        companion.2.2 ≤ installer.maxArtifactBytes := by
    intro companion member
    obtain ⟨source, among, copy⟩ := exists_of_mem_mapM copies companion member
    obtain ⟨same, small⟩ := copyDigested_eq_ok copy
    refine ⟨mem_permitted_of_checkCompanions checked ?_, small⟩
    rw [same]
    exact List.mem_map_of_mem (List.mem_mergeSort.mp among)
  split at stages
  · cases stages
  · cases stages
    refine staged_of_entries small ?_ accepted rfl
    show (List.foldl _ _ _ : Dict String StoredFile).entries = _
    rw [Dict.entries_foldl_set]
    · rfl
    · have names : (copied.map fun companion => installer.stagedFile reference.toArtifactIdentity
          (installer.trustVerifier.map fun verifier => StoredDocument.json
            (verifier.provenanceDocument reference.toArtifactIdentity provenance)) companion.1
          (.regular companion.2.1 companion.2.2)).map Prod.fst = copied.map Prod.fst := by
        rw [List.map_map]
        rfl
      rw [names]
      refine List.nodup_cons.mpr ⟨fun present => ?_, keys ▸ Dict.nodup_keys _⟩
      obtain ⟨companion, member, same⟩ := List.mem_map.mp present
      replace same : companion.1 = filename := same
      exact filename_not_mem_permitted named (same ▸ (accepted companion member).1)

/-! ### Calls -/

/-- How the version of a reference comes to be the one that is active. -/
inductive Placed (installer : ArtifactInstaller Provenance) (reference : ArtifactReference)
    (filename : String) (staged : VersionDirectory) (disk : ArtifactDisk) :
    StoredFile → ArtifactDisk → Prop
  | existing {installed : VersionDirectory} {file : StoredFile}
      (present : disk.versions reference.version = some installed)
      (resolves : installer.resolve disk reference.toArtifactIdentity = .ok file)
      (absorbs : installer.refuseChangedCompanions staged installed
        reference.toArtifactIdentity = .ok ()) :
      Placed installer reference filename staged disk file disk
  | fresh {file : StoredFile} (absent : disk.versions reference.version = none)
      (found : staged.file? filename = some file) :
      Placed installer reference filename staged disk file
        { disk with versions := Function.update disk.versions reference.version (some staged) }

theorem activateVersion_cases {fails : Bool} {result : Except ArtifactFailure StoredFile}
    (named : artifactFilename reference.format = some filename)
    (activates : installer.activateVersion staged reference fails disk = (result, after)) :
    (∃ failure, result = .error failure ∧ after = disk) ∨
      ∃ file, result = .ok file ∧
        Placed installer reference filename staged disk file after := by
  rw [activateVersion] at activates
  split at activates
  · rename_i installed present
    split at activates
    · cases activates
      exact .inl ⟨_, rfl, rfl⟩
    · rename_i file resolves
      split at activates
      · cases activates
        exact .inl ⟨_, rfl, rfl⟩
      · rename_i absorbs
        cases activates
        exact .inr ⟨file, rfl, .existing present resolves absorbs⟩
  · rename_i absent
    split at activates
    · cases activates
      exact .inl ⟨_, rfl, rfl⟩
    · rw [named, Option.bind_some] at activates
      split at activates
      · cases activates
        exact .inl ⟨_, rfl, rfl⟩
      · rename_i file found
        cases activates
        exact .inr ⟨file, rfl, .fresh absent found⟩

/-- What an install has established when it has placed its version. -/
structure Prepared (installer : ArtifactInstaller Provenance) (reference : ArtifactReference)
    (disk : ArtifactDisk) (filename : String) (current : ArtifactActivation)
    (staged : VersionDirectory) : Prop where
  valid : artifactReferenceError reference.toArtifactIdentity = none
  named : artifactFilename reference.format = some filename
  read : activation disk reference.id = .ok current
  good : Staged installer reference filename staged

/-- An install fails where it starts, or places its version; then it fails, or activates it. -/
theorem install_cases {reference : ArtifactReference} {faults : InstallFaults}
    {disk after : ArtifactDisk}
    (installs : installer.install reference source companions provenance faults disk =
      (result, after)) :
    (∃ failure, result = .error failure ∧ after = disk) ∨
      ∃ filename current staged file placed,
        Prepared installer reference disk filename current staged ∧
        Placed installer reference filename staged disk file placed ∧
        ((∃ failure, result = .error failure ∧ after = placed) ∨
          installer.recordTrust reference.toArtifactIdentity file.beside = none ∧
          result = .ok ⟨reference, file.path, current.active⟩ ∧
          after = writeActivation placed reference.id ⟨some reference,
            if current.active ≠ some reference then current.active else current.rollback⟩) := by
  rw [install] at installs
  split at installs
  · cases installs
    exact .inl ⟨_, rfl, rfl⟩
  · rename_i current staged prepares
    split at prepares
    · rename_i filename valid named
      obtain ⟨checked, checks, prepares⟩ := bind_eq_ok.mp prepares
      obtain ⟨read, reads, prepares⟩ := bind_eq_ok.mp prepares
      split at prepares
      · cases prepares
      · obtain ⟨staged, stages, same⟩ := bind_eq_ok.mp prepares
        cases same
        have prepared : Prepared installer reference disk filename current staged :=
          ⟨valid, named, reads, staged_of_stage named checks stages⟩
        split at installs
        · rename_i failure middle activates
          cases installs
          obtain ⟨_, same, rfl⟩ | ⟨_, same, _⟩ := activateVersion_cases named activates
          · exact .inl ⟨_, rfl, rfl⟩
          · cases same
        · rename_i file middle activates
          obtain ⟨_, same, _⟩ | ⟨_, same, placed⟩ := activateVersion_cases named activates
          · cases same
          · cases same
            refine .inr ⟨filename, current, staged, file, middle, prepared, placed, ?_⟩
            split at installs
            · cases installs
              exact .inl ⟨_, rfl, rfl⟩
            · rename_i trusted
              cases fails : faults.activation with
              | true =>
                rw [fails] at installs
                cases installs
                exact .inl ⟨_, rfl, rfl⟩
              | false =>
                rw [fails] at installs
                cases installs
                exact .inr ⟨trusted, rfl, rfl⟩
    · cases prepares

/-- A rollback fails, or swaps the entries. -/
theorem rollback_cases {fails : Bool}
    (rolls : installer.rollback artifactId fails disk = (result, after)) :
    (∃ failure, result = .error failure ∧ after = disk) ∨
      ∃ active target file,
        activation disk artifactId = .ok ⟨some active, some target⟩ ∧
        installer.storedTrust disk target.toArtifactIdentity = none ∧
        installer.resolve disk target.toArtifactIdentity = .ok file ∧
        result = .ok ⟨target, file.path, some active⟩ ∧
        after = writeActivation disk artifactId ⟨some target, some active⟩ := by
  rw [rollback] at rolls
  split at rolls
  · cases rolls
    exact .inl ⟨_, rfl, rfl⟩
  · rename_i current read
    split at rolls
    · rename_i active target isActive isTarget
      split at rolls
      · cases rolls
        exact .inl ⟨_, rfl, rfl⟩
      · cases rolls
        exact .inl ⟨_, rfl, rfl⟩
      · rename_i file trusted resolves
        split at rolls
        · cases rolls
          exact .inl ⟨_, rfl, rfl⟩
        · cases rolls
          refine .inr ⟨active, target, file, ?_, trusted, resolves, rfl, rfl⟩
          rw [read, ← isActive, ← isTarget]
    · cases rolls
      exact .inl ⟨_, rfl, rfl⟩

/-! ### A detector -/

def detectorInstaller : ArtifactInstaller Unit := ⟨"/store", 4096, none⟩

def detectorDigest : String := "".pushn 'a' 64

/-- A version of a detector, of which the manifest says nothing more. -/
def detector (version : String) : ArtifactReference :=
  { id := "detector", version, format := "ncnn", sha256 := detectorDigest, companions := [],
    sourceUri := "", licenseSpdx := "" }

def detectorCompanions : Dict String SourceFile := Dict.empty.set "model.bin" (.regular "weights" 1024)

end ArtifactInstaller

end ArtifactStore

end Omnitensor
