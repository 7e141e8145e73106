/-
This file says when what the installer reports active resolves.

An install into a new version always does: a stage passes the checks that resolving makes. An
install of a version that is there goes by the primary file and the digests of what is there, and a
rollback by the primary file and the trust; neither looks at what the metadata of the version
recorded. So what they report resolves as long as that is intact.
-/

import Omnitensor.ArtifactStaging

namespace Omnitensor

namespace ArtifactStore

/-! ### Calls that report a version active -/

/-- A call that makes a version active. -/
inductive ActivationCall (Provenance : Type) where
  | install (reference : ArtifactReference) (source : ArtifactInstaller.SourceFile)
    (companions : Dict String ArtifactInstaller.SourceFile) (provenance : Option Provenance)
    (faults : ArtifactInstaller.InstallFaults)
  | rollback (artifactId : String) (writeFails : Bool)

namespace ArtifactInstaller

variable {Provenance : Type}

/-- What a call returns or raises, and the store after it. -/
def activate (installer : ArtifactInstaller Provenance) (call : ActivationCall Provenance)
    (disk : ArtifactDisk) : Except ArtifactFailure ArtifactInstallation × ArtifactDisk :=
  match call with
  | .install reference source companions provenance faults =>
    installer.install reference source companions provenance faults disk
  | .rollback artifactId writeFails => installer.rollback artifactId writeFails disk

/-- The artifact of a call. -/
def artifactOf : ActivationCall Provenance → String
  | .install reference _ _ _ _ => reference.id
  | .rollback artifactId _ => artifactId

/-- The active version of an artifact is ready at a path. -/
def Resolves (installer : ArtifactInstaller Provenance) (disk : ArtifactDisk)
    (artifactId path : String) : Prop :=
  ∃ file, installer.resolveActive disk artifactId = .ok (.ok file) ∧ file.path = path

/-- The metadata of a directory is readable, and every companion it recorded is there with the
digest recorded for it. -/
def Intact (installer : ArtifactInstaller Provenance) (directory : VersionDirectory) : Prop :=
  ∃ recorded, recordedCompanions directory.metadata = .ok recorded ∧
    ∀ companion ∈ recorded, ∃ file digest, directory.file? companion.1 = some file ∧
      file.content.digest installer.maxArtifactBytes = .ok digest ∧ companion.2 = .string digest

/-- The version that a call makes active is new, or it is intact and trusted as far as the call does
not find out itself. -/
def Sound (installer : ArtifactInstaller Provenance) (disk : ArtifactDisk) :
    ActivationCall Provenance → Prop
  | .install reference _ _ _ _ => ∀ directory ∈ disk.versions reference.version,
      installer.recordTrust reference.toArtifactIdentity directory.provenance = none ∧
        installer.Intact directory
  | .rollback artifactId _ => ∀ current, activation disk artifactId = .ok current →
      ∀ target ∈ current.rollback, ∀ directory ∈ disk.versions target.version,
        installer.Intact directory

/-! ### Resolving -/

variable {installer : ArtifactInstaller Provenance}

variable {disk after : ArtifactDisk} {directory : VersionDirectory} {reference : ArtifactReference}
  {installation : ArtifactInstallation}

theorem companionError_eq_none {companion : String × Json ExactDecimal} :
    installer.companionError directory companion = none ↔
      ∃ file digest, directory.file? companion.1 = some file ∧
        file.content.digest installer.maxArtifactBytes = .ok digest ∧
        companion.2 = .string digest := by
  rw [companionError]
  cases found : directory.file? companion.1 with
  | none => simp
  | some file =>
    cases content : file.content with
    | special => simp [content, FileContent.isFile, FileContent.digest]
    | unreadable error => simp [content, FileContent.isFile, FileContent.digest]
    | regular digest size =>
      by_cases large : installer.maxArtifactBytes < size
      · simp [content, FileContent.isFile, FileContent.digest, large]
      · cases companion.2 <;> simp [content, FileContent.isFile, FileContent.digest, large, eq_comm]

/-- The companions of a directory pass when it is intact. -/
theorem verifyCompanions_eq_none :
    installer.verifyCompanions (some directory) = none ↔ installer.Intact directory := by
  rw [verifyCompanions, Intact]
  cases recordedCompanions directory.metadata with
  | error error => simp
  | ok recorded =>
    simp only [List.findSome?_eq_none_iff, List.mem_mergeSort, companionError_eq_none,
      Except.ok.injEq, exists_eq_left']

/-- What an activation names is ready when it is trusted, its companions pass and its primary file
resolves. -/
theorem resolves_writeActivation {artifactId path : String} {rollback : Option ArtifactReference}
    (names : Names artifactId reference) (others : ∀ other ∈ rollback, Names artifactId other) :
    installer.Resolves (writeActivation disk artifactId ⟨some reference, rollback⟩) artifactId
        path ↔
      installer.storedTrust disk reference.toArtifactIdentity = none ∧
        installer.verifyCompanions (disk.versions reference.version) = none ∧
        ∃ file, installer.resolve disk reference.toArtifactIdentity = .ok file ∧
          file.path = path := by
  have known : Pattern.identifier artifactId = true :=
    names.id_eq ▸ identifier_of_valid names.valid
  have read : activation (writeActivation disk artifactId ⟨some reference, rollback⟩) artifactId =
      .ok ⟨some reference.stored, rollback.map ArtifactReference.stored⟩ :=
    activation_writeActivation known (fun other member => Option.mem_some_iff.mp member ▸ names)
      others
  have trust : installer.storedTrust (writeActivation disk artifactId ⟨some reference, rollback⟩)
      reference.stored.toArtifactIdentity = installer.storedTrust disk reference.toArtifactIdentity := rfl
  have companions : installer.verifyCompanions ((writeActivation disk artifactId
      ⟨some reference, rollback⟩).versions reference.stored.version) =
      installer.verifyCompanions (disk.versions reference.version) := rfl
  have resolves : installer.resolve (writeActivation disk artifactId ⟨some reference, rollback⟩)
      reference.stored.toArtifactIdentity = installer.resolve disk reference.toArtifactIdentity := rfl
  rw [Resolves, resolveActive, read, ok_bind]
  dsimp only
  rw [trust, companions, resolves]
  cases installer.storedTrust disk reference.toArtifactIdentity with
  | some untrusted => simp [pure, Except.pure]
  | none =>
    cases installer.verifyCompanions (disk.versions reference.version) with
    | some companion => simp [pure, Except.pure]
    | none => simp [pure, Except.pure]

/-- A stage that is put in place resolves to its primary file. -/
theorem resolve_update {reference : ArtifactReference} {filename : String} {disk : ArtifactDisk}
    {staged : VersionDirectory} {file : StoredFile}
    (valid : artifactReferenceError reference.toArtifactIdentity = none)
    (named : artifactFilename reference.format = some filename)
    (good : Staged installer reference filename staged)
    (found : staged.file? filename = some file) :
    file.beside = staged.provenance ∧
      installer.resolve
        { disk with versions := Function.update disk.versions reference.version (some staged) }
        reference.toArtifactIdentity = .ok file := by
  obtain ⟨size, primary, small⟩ := good.primary
  cases found.symm.trans primary
  refine ⟨rfl, ?_⟩
  rw [resolve, ArtifactResolver.resolve, valid]
  simp [named, primary, ArtifactResolver.verify, Nat.not_lt.mpr small]

/-! ### Calls that return -/

theorem resolves_of_install {source : SourceFile} {companions : Dict String SourceFile}
    {provenance : Option Provenance} {faults : InstallFaults}
    (returns : installer.install reference source companions provenance faults disk =
      (.ok installation, after)) :
    installer.Resolves after reference.id installation.path ↔
      ∀ directory ∈ disk.versions reference.version,
        installer.recordTrust reference.toArtifactIdentity directory.provenance = none ∧
          installer.Intact directory := by
  obtain ⟨_, fails, _⟩ | ⟨filename, current, staged, file, placed, prepared, places,
    ⟨_, fails, _⟩ | ⟨trusted, same, rfl⟩⟩ := install_cases returns
  · cases fails
  · cases fails
  cases same
  have names : Names reference.id reference := ⟨prepared.valid, rfl⟩
  obtain ⟨_, actives, rollbacks⟩ := entries_of_activation prepared.read
  have others : ∀ other ∈ (if current.active ≠ some reference then current.active
      else current.rollback), Names reference.id other := by
    intro other member
    split at member
    · exact (actives other member).toNames
    · exact (rollbacks other member).toNames
  rw [resolves_writeActivation names others]
  cases places with
  | existing present resolves absorbs =>
    rw [storedTrust, present, Option.bind_some, verifyCompanions_eq_none]
    simp [resolves]
  | fresh absent found =>
    obtain ⟨beside, resolves⟩ := @resolve_update _ installer _ _ disk _ _ prepared.valid prepared.named
      prepared.good found
    rw [beside] at trusted
    rw [storedTrust, absent]
    simp [trusted, prepared.good.verified, resolves]

theorem resolves_of_rollback {artifactId : String} {fails : Bool}
    (returns : installer.rollback artifactId fails disk = (.ok installation, after)) :
    installer.Resolves after artifactId installation.path ↔
      ∀ current, activation disk artifactId = .ok current → ∀ target ∈ current.rollback,
        ∀ directory ∈ disk.versions target.version, installer.Intact directory := by
  obtain ⟨_, failed, _⟩ | ⟨active, target, file, read, trusted, resolves, same, rfl⟩ :=
    rollback_cases returns
  · cases failed
  cases same
  obtain ⟨_, actives, rollbacks⟩ := entries_of_activation read
  have names : Names artifactId target := (rollbacks target rfl).toNames
  have others : ∀ other ∈ some active, Names artifactId other :=
    fun other member => (actives other member).toNames
  rw [resolves_writeActivation names others, read]
  simp only [trusted, resolves, true_and, Except.ok.injEq, exists_eq_left', and_true,
    forall_eq', Option.mem_some_iff]
  cases disk.versions target.version with
  | none => simp [verifyCompanions]
  | some directory => simp [verifyCompanions_eq_none]

/-- What a call that returns reports active resolves to the path it returned exactly when the
version was new, or was intact and trusted. -/
theorem resolves_of_returns {call : ActivationCall Provenance} {disk after : ArtifactDisk}
    {installation : ArtifactInstallation}
    (returns : installer.activate call disk = (.ok installation, after)) :
    installer.Resolves after (artifactOf call) installation.path ↔ installer.Sound disk call := by
  cases call with
  | install reference source companions provenance faults => exact resolves_of_install returns
  | rollback artifactId writeFails => exact resolves_of_rollback returns

/-! ### A detector with two versions -/

/-- A call returns, and what it reports is ready as given. -/
def reports (installer : ArtifactInstaller Provenance) (call : ActivationCall Provenance)
    (disk : ArtifactDisk) (ready : Bool) : Bool :=
  match installer.activate call disk with
  | (.error _, _) => false
  | (.ok _, after) =>
    match installer.resolveActive after (artifactOf call) with
    | .error _ => false
    | .ok resolution => resolution.toBool == ready

theorem exists_of_reports {call : ActivationCall Provenance} {disk : ArtifactDisk} {ready : Bool}
    (passes : reports installer call disk ready = true) :
    ∃ installation after, installer.activate call disk = (.ok installation, after) ∧
      (ready = false → ¬ installer.Resolves after (artifactOf call) installation.path) := by
  rw [reports] at passes
  split at passes
  · cases passes
  · rename_i installation after returns
    refine ⟨installation, after, returns, ?_⟩
    rintro rfl ⟨file, resolves, _⟩
    rw [resolves] at passes
    cases passes

/-- Install a version of the detector with its weights. -/
def installDetector (version : String) : ActivationCall Unit :=
  .install (detector version) (.regular detectorDigest 64)
    detectorCompanions none ⟨false, false, false⟩

/-- A store after installs of versions of the detector. -/
def detectorDisk (versions : List String) : ArtifactDisk :=
  versions.foldl (fun disk version => (detectorInstaller.activate (installDetector version) disk).2)
    ⟨none, fun _ => none⟩

/-- The store with other metadata in a version. -/
def damageMetadata (version : String) (disk : ArtifactDisk) : ArtifactDisk :=
  let damaged := (disk.versions version).map fun directory =>
    { directory with metadata := some (.json (.array [])) }
  { disk with versions := Function.update disk.versions version damaged }

/-- The version to roll back to is as it was installed. -/
theorem sound_rollback :
    detectorInstaller.Sound (detectorDisk ["1.0.0", "2.0.0"]) (.rollback "detector" false) := by
  have passes : (activation (detectorDisk ["1.0.0", "2.0.0"]) "detector").toOption.all (fun current =>
      current.rollback.all fun target =>
        ((detectorDisk ["1.0.0", "2.0.0"]).versions target.version).all fun directory =>
          (detectorInstaller.verifyCompanions (some directory)).isNone) = true := by decide +kernel
  intro current read target toTarget directory stored
  rw [read, Except.toOption, Option.all_some, Option.mem_def.mp toTarget, Option.all_some,
    Option.mem_def.mp stored, Option.all_some] at passes
  exact verifyCompanions_eq_none.mp (Option.isNone_iff_eq_none.mp passes)

/-- After a second version is installed, a rollback to the first resolves. -/
theorem resolves_of_returns_installed : ∃ installation after,
    detectorInstaller.activate (.rollback "detector" false) (detectorDisk ["1.0.0", "2.0.0"]) =
        (.ok installation, after) ∧
      detectorInstaller.Resolves after "detector" installation.path := by
  obtain ⟨installation, after, returns, _⟩ := @exists_of_reports _ detectorInstaller
    (.rollback "detector" false) (detectorDisk ["1.0.0", "2.0.0"]) true (by decide +kernel)
  exact ⟨installation, after, returns, (resolves_of_returns returns).mpr sound_rollback⟩

/-- When the metadata of the version is damaged, a rollback to it and another install of it return,
and what they report does not resolve. -/
theorem not_resolves_of_returns :
    (∃ installation after,
      detectorInstaller.activate (.rollback "detector" false)
          (damageMetadata "1.0.0" (detectorDisk ["1.0.0", "2.0.0"])) = (.ok installation, after) ∧
        ¬ detectorInstaller.Resolves after "detector" installation.path) ∧
    ∃ installation after,
      detectorInstaller.activate (installDetector "1.0.0")
          (damageMetadata "1.0.0" (detectorDisk ["1.0.0"])) = (.ok installation, after) ∧
        ¬ detectorInstaller.Resolves after "detector" installation.path := by
  obtain ⟨rolled, rolledDisk, rolls, rolledUnready⟩ := @exists_of_reports _ detectorInstaller
    (.rollback "detector" false) (damageMetadata "1.0.0" (detectorDisk ["1.0.0", "2.0.0"])) false
    (by decide +kernel)
  obtain ⟨installed, installedDisk, installs, installedUnready⟩ := @exists_of_reports _ detectorInstaller
    (installDetector "1.0.0") (damageMetadata "1.0.0" (detectorDisk ["1.0.0"])) false (by decide +kernel)
  exact ⟨⟨rolled, rolledDisk, rolls, rolledUnready rfl⟩,
    installed, installedDisk, installs, installedUnready rfl⟩

end ArtifactInstaller

end ArtifactStore

end Omnitensor
