/-
This file says when the store of an artifact keeps a version to roll back to.

The activation holds what is stored of its references, and calls compare it with the references they
are given. One that declares companions or where it comes from is none of the entries, even if it
was the one that was installed: so another install of it takes the version from the rollback, and
uninstalling it leaves the entry. As long as the references given are those that are stored, the two
entries are different versions, both in place.
-/

import Omnitensor.ArtifactStaging
import Omnitensor.Machine

namespace Omnitensor

namespace ArtifactStore

/-- The references of an activation. -/
def ArtifactActivation.entries (current : ArtifactActivation) : List ArtifactReference :=
  current.active.toList ++ current.rollback.toList

theorem ArtifactActivation.mem_entries {current : ArtifactActivation}
    {entry : ArtifactReference} :
    entry ∈ current.entries ↔ current.active = some entry ∨ current.rollback = some entry := by
  rw [entries, List.mem_append, Option.mem_toList, Option.mem_toList]

/-- A call on the store of an artifact. -/
inductive StoreCall (Provenance : Type) (artifactId : String) where
  | install (reference : ArtifactReference) (same : reference.id = artifactId)
    (source : ArtifactInstaller.SourceFile) (companions : Dict String ArtifactInstaller.SourceFile)
    (provenance : Option Provenance) (faults : ArtifactInstaller.InstallFaults)
  | rollback (writeFails : Bool)
  | uninstall (reference : ArtifactReference)
    (names : ArtifactInstaller.Names artifactId reference) (writeFails : Bool)
    (left : Option VersionDirectory)

namespace ArtifactInstaller

variable {Provenance : Type} {artifactId : String}

/-! ### Calls on one artifact -/

/-- What a call raises, if it does. -/
def raised {Result : Type} : Except ArtifactFailure Result → Option ArtifactFailure
  | .error failure => some failure
  | .ok _ => none

/-- What a call raises, and the store after it. -/
def perform (installer : ArtifactInstaller Provenance) (call : StoreCall Provenance artifactId)
    (disk : ArtifactDisk) : Option ArtifactFailure × ArtifactDisk :=
  match call with
  | .install reference _ source companions provenance faults =>
    (installer.install reference source companions provenance faults disk).map raised id
  | .rollback writeFails => (installer.rollback artifactId writeFails disk).map raised id
  | .uninstall reference _ writeFails left => (uninstall reference writeFails left disk).map raised id

/-- A store takes any call. -/
def step (installer : ArtifactInstaller Provenance) (disk : ArtifactDisk)
    (call : StoreCall Provenance artifactId) : Option ArtifactDisk :=
  some (installer.perform call disk).2

/-- A store without artifacts. -/
def emptyStore : ArtifactDisk := ⟨none, fun _ => none⟩

/-- An entry that a call is about is the reference that it is given: for an install, the active one
if it is a version of the same primary file; for an uninstall, any that names the version. -/
def Exact (disk : ArtifactDisk) : StoreCall Provenance artifactId → Prop
  | .install reference _ _ _ _ _ => ∀ current, activation disk artifactId = .ok current →
      ∀ active ∈ current.active, active.version = reference.version →
        active.sha256 = reference.sha256 →
        artifactFilename active.format = artifactFilename reference.format → active = reference
  | .rollback _ => True
  | .uninstall reference _ _ _ => ∀ current, activation disk artifactId = .ok current →
      ∀ entry ∈ current.entries, entry.version = reference.version → entry = reference

variable {disk after placed : ArtifactDisk} {reference : ArtifactReference}
  {staged installed : VersionDirectory} {current : ArtifactActivation} {filename : String}
  {writeFails : Bool} {left : Option VersionDirectory}

theorem forall_read_iff {holds : ArtifactActivation → Prop} :
    (∀ current ∈ (activation disk artifactId).toOption, holds current) ↔
      ∀ current, activation disk artifactId = .ok current → holds current := by
  cases activation disk artifactId <;> simp [Except.toOption]

instance decidableExact (disk : ArtifactDisk) :
    (call : StoreCall Provenance artifactId) → Decidable (Exact disk call)
  | .install _ _ _ _ _ _ => decidable_of_iff _ forall_read_iff
  | .rollback _ => inferInstanceAs (Decidable True)
  | .uninstall _ _ _ _ => decidable_of_iff _ forall_read_iff

/-- A directory holds the primary file of a reference, and companions that its format accepts. -/
def Holds (installer : ArtifactInstaller Provenance) (directory : VersionDirectory)
    (reference : ArtifactReference) : Prop :=
  ∃ filename digests companions, artifactFilename reference.format = some filename ∧
    installer.fileDigests directory = .ok digests ∧
    digests.Perm ((filename, reference.sha256) :: companions) ∧
    ∀ companion ∈ companions, companion.1 ∈ permittedCompanionFilenames reference.format

/-- The version of a reference is in place. -/
def Installed (installer : ArtifactInstaller Provenance) (disk : ArtifactDisk)
    (reference : ArtifactReference) : Prop :=
  ∃ directory, disk.versions reference.version = some directory ∧
    installer.Holds directory reference

/-- The activation is readable, and its entries are different versions in place. -/
structure Usable (installer : ArtifactInstaller Provenance) (artifactId : String)
    (disk : ArtifactDisk) : Prop where
  readable : Pattern.identifier artifactId = true →
    ∃ current, activation disk artifactId = .ok current
  distinct : ∀ current, activation disk artifactId = .ok current →
    ∀ active ∈ current.active, ∀ rollback ∈ current.rollback, active.version ≠ rollback.version
  installed : ∀ current, activation disk artifactId = .ok current →
    ∀ entry ∈ current.entries, installer.Installed disk entry

/-- An install of the version that is active leaves what to roll back to, and no entry names a
version after it is uninstalled. -/
def Accounted (before after : ArtifactDisk) : StoreCall Provenance artifactId → Prop
  | .install reference _ _ _ _ _ => ∀ current next, activation before artifactId = .ok current →
      activation after artifactId = .ok next → ∀ active ∈ current.active,
        active.version = reference.version → next.rollback = current.rollback
  | .rollback _ => True
  | .uninstall reference _ _ _ => ∀ next, activation after artifactId = .ok next →
      ∀ entry ∈ next.entries, entry.version ≠ reference.version

/-! ### Directories -/

variable {installer : ArtifactInstaller Provenance}

theorem holds_of_staged (named : artifactFilename reference.format = some filename)
    (good : Staged installer reference filename staged) : installer.Holds staged reference := by
  obtain ⟨companions, digests, accepted⟩ := good.digests
  exact ⟨filename, _, companions, named, digests, List.Perm.refl _, accepted⟩

/-- A directory that absorbs a stage has its files. -/
theorem perm_of_absorbs {identity : ArtifactIdentity} {digests : List (String × String)}
    (stagedDigests : installer.fileDigests staged = .ok digests)
    (absorbs : installer.refuseChangedCompanions staged installed identity = .ok ()) :
    ∃ others, installer.fileDigests installed = .ok others ∧ digests.Perm others := by
  rw [refuseChangedCompanions, stagedDigests] at absorbs
  obtain ⟨_, same, absorbs⟩ := bind_eq_ok.mp absorbs
  cases same
  obtain ⟨others, read, absorbs⟩ := bind_eq_ok.mp absorbs
  refine ⟨others, read, ?_⟩
  split at absorbs
  · rename_i same
    exact List.isPerm_iff.mp same
  · cases absorbs

theorem holds_of_absorbs (named : artifactFilename reference.format = some filename)
    (good : Staged installer reference filename staged)
    (absorbs : installer.refuseChangedCompanions staged installed
      reference.toArtifactIdentity = .ok ()) : installer.Holds installed reference := by
  obtain ⟨companions, digests, accepted⟩ := good.digests
  obtain ⟨others, read, same⟩ := perm_of_absorbs digests absorbs
  exact ⟨filename, others, companions, named, read, same.symm, accepted⟩

/-- Two references that a directory holds have one primary file. -/
theorem same_of_holds {directory : VersionDirectory} {first second : ArtifactReference}
    (holdsFirst : installer.Holds directory first)
    (holdsSecond : installer.Holds directory second) :
    first.sha256 = second.sha256 ∧
      artifactFilename first.format = artifactFilename second.format := by
  obtain ⟨firstName, firstDigests, firstOthers, firstNamed, firstRead, firstPerm, firstAccepted⟩ :=
    holdsFirst
  obtain ⟨secondName, secondDigests, secondOthers, secondNamed, secondRead, secondPerm,
    secondAccepted⟩ := holdsSecond
  obtain rfl := Except.ok.inj (firstRead.symm.trans secondRead)
  have among : (firstName, first.sha256) ∈ (secondName, second.sha256) :: secondOthers :=
    secondPerm.mem_iff.mp (firstPerm.mem_iff.mpr List.mem_cons_self)
  have amongFirst : (secondName, second.sha256) ∈ (firstName, first.sha256) :: firstOthers :=
    firstPerm.mem_iff.mp (secondPerm.mem_iff.mpr List.mem_cons_self)
  rw [firstNamed, secondNamed]
  rcases List.mem_cons.mp among with same | other
  · obtain ⟨rfl, digest⟩ := Prod.mk.inj same
    exact ⟨digest, rfl⟩
  · rcases List.mem_cons.mp amongFirst with same | otherFirst
    · obtain ⟨rfl, digest⟩ := Prod.mk.inj same
      exact ⟨digest.symm, rfl⟩
    · exact absurd (firstAccepted _ otherFirst)
        (not_mem_permitted_both firstNamed secondNamed (secondAccepted _ other))

/-! ### Stores -/

/-- A store that is read is usable when its entries are different versions in place. -/
theorem usable_of_reads (read : activation disk artifactId = .ok current)
    (distinct : ∀ active ∈ current.active, ∀ rollback ∈ current.rollback,
      active.version ≠ rollback.version)
    (installed : ∀ entry ∈ current.entries, installer.Installed disk entry) :
    Usable installer artifactId disk where
  readable _ := ⟨current, read⟩
  distinct _ readAgain := Except.ok.inj (read.symm.trans readAgain) ▸ distinct
  installed _ readAgain := Except.ok.inj (read.symm.trans readAgain) ▸ installed

theorem usable_emptyStore : Usable installer artifactId emptyStore := by
  have reads : Pattern.identifier artifactId = true →
      activation emptyStore artifactId = .ok ⟨none, none⟩ := fun known => by
    rw [activation, known]
    rfl
  refine ⟨fun known => ⟨_, reads known⟩, fun current read => ?_, fun current read => ?_⟩
  · cases (reads (entries_of_activation read).1).symm.trans read
    rintro active ⟨⟩
  · cases (reads (entries_of_activation read).1).symm.trans read
    rintro entry ⟨⟩

/-- A store with the activation of another one and its directories is as usable. -/
theorem Usable.mono (usable : Usable installer artifactId disk)
    (same : after.activation = disk.activation)
    (kept : ∀ version directory, disk.versions version = some directory →
      after.versions version = some directory) : Usable installer artifactId after := by
  have reads : activation after artifactId = activation disk artifactId := by
    rw [activation, activation, same]
  refine ⟨fun known => ?_, fun current read => ?_, fun current read entry member => ?_⟩
  · rw [reads]
    exact usable.readable known
  · exact usable.distinct current (reads ▸ read)
  · obtain ⟨directory, present, holds⟩ := usable.installed current (reads ▸ read) entry member
    exact ⟨directory, kept _ _ present, holds⟩

/-- What is read from an activation is stored as it is. -/
theorem map_stored {entry : Option ArtifactReference}
    (entries : ∀ reference ∈ entry, Entry artifactId reference) :
    entry.map ArtifactReference.stored = entry := by
  cases entry with
  | none => rfl
  | some reference => exact congrArg some (entries reference rfl).stored_eq

/-- Entries are read as they are written. -/
theorem activation_of_entries {state : ArtifactActivation}
    (known : Pattern.identifier artifactId = true)
    (entries : ∀ entry ∈ state.entries, Entry artifactId entry) :
    activation (writeActivation disk artifactId state) artifactId = .ok state := by
  have actives : ∀ entry ∈ state.active, Entry artifactId entry := fun entry member =>
    entries entry (ArtifactActivation.mem_entries.mpr (.inl member))
  have rollbacks : ∀ entry ∈ state.rollback, Entry artifactId entry := fun entry member =>
    entries entry (ArtifactActivation.mem_entries.mpr (.inr member))
  rw [activation_writeActivation known (fun entry member => (actives entry member).toNames)
    fun entry member => (rollbacks entry member).toNames, map_stored actives, map_stored rollbacks]

/-! ### Installing -/

/-- What one call does to a usable store. -/
structure Performs (installer : ArtifactInstaller Provenance) (disk : ArtifactDisk)
    (call : StoreCall Provenance artifactId) : Prop where
  usable : Usable installer artifactId (installer.perform call disk).2
  unchanged : (installer.perform call disk).1.isSome = true →
    (installer.perform call disk).2.activation = disk.activation
  accounted : (installer.perform call disk).1 = none →
    Accounted disk (installer.perform call disk).2 call

/-- A version that is put in place leaves the others. -/
theorem kept_of_placed {file : StoredFile}
    (places : Placed installer reference filename staged disk file placed) :
    placed.activation = disk.activation ∧ ∀ version directory,
      disk.versions version = some directory → placed.versions version = some directory := by
  cases places with
  | existing => exact ⟨rfl, fun _ _ present => present⟩
  | fresh absent =>
    refine ⟨rfl, fun version directory present => ?_⟩
    have other : version ≠ reference.version := by
      rintro rfl
      cases absent.symm.trans present
    exact (Function.update_of_ne other _ _).trans present

/-- A version that is put in place is the one of its reference. -/
theorem installed_of_placed {file : StoredFile}
    (named : artifactFilename reference.format = some filename)
    (good : Staged installer reference filename staged)
    (places : Placed installer reference filename staged disk file placed) :
    installer.Installed placed reference := by
  cases places with
  | existing present resolves absorbs =>
    exact ⟨_, present, holds_of_absorbs named good absorbs⟩
  | fresh absent =>
    exact ⟨staged, Function.update_self _ _ _, holds_of_staged named good⟩

/-- What an install leaves to roll back to. -/
def replaced (reference : ArtifactReference) (current : ArtifactActivation) :
    Option ArtifactReference :=
  if current.active ≠ some reference then current.active else current.rollback

/-- What an install leaves to roll back to is an entry of another version, as long as no other
active entry names the version. -/
theorem mem_replaced {other : ArtifactReference}
    (distinct : ∀ active ∈ current.active, ∀ rollback ∈ current.rollback,
      active.version ≠ rollback.version)
    (same : ∀ active ∈ current.active, active.version = reference.version → active = reference)
    (member : other ∈ replaced reference current) :
    other ∈ current.entries ∧ reference.version ≠ other.version := by
  rw [replaced] at member
  split at member
  · rename_i inactive
    refine ⟨ArtifactActivation.mem_entries.mpr (.inl member), fun version => inactive ?_⟩
    rw [← same other member version.symm]
    exact member
  · rename_i active
    exact ⟨ArtifactActivation.mem_entries.mpr (.inr member),
      distinct reference (not_not.mp active) other member⟩

/-- What is read after an install: its reference, and what it leaves to roll back to. -/
theorem activation_installed (placed : ArtifactDisk)
    (valid : artifactReferenceError reference.toArtifactIdentity = none)
    (read : activation disk reference.id = .ok current) :
    activation (writeActivation placed reference.id ⟨some reference, replaced reference current⟩)
      reference.id = .ok ⟨some reference.stored, replaced reference current⟩ := by
  obtain ⟨known, actives, rollbacks⟩ := entries_of_activation read
  have previous : ∀ other ∈ replaced reference current, Entry reference.id other := by
    intro other member
    rw [replaced] at member
    split at member
    · exact actives other member
    · exact rollbacks other member
  have written : activation (writeActivation placed reference.id
      ⟨some reference, replaced reference current⟩) reference.id =
        .ok ⟨some reference.stored, (replaced reference current).map ArtifactReference.stored⟩ :=
    activation_writeActivation known
      (fun other member => Option.mem_some_iff.mp member ▸ ⟨valid, rfl⟩)
      fun other member => (previous other member).toNames
  rwa [map_stored previous] at written

theorem performs_install {same : reference.id = artifactId} {source : SourceFile}
    {companions : Dict String SourceFile} {provenance : Option Provenance} {faults : InstallFaults}
    (usable : Usable installer artifactId disk) (exact : Exact disk
      (.install reference same source companions provenance faults : StoreCall Provenance artifactId)) :
    Performs installer disk (.install reference same source companions provenance faults) := by
  subst same
  obtain ⟨result, after, installs⟩ : ∃ result after,
      installer.install reference source companions provenance faults disk = (result, after) :=
    ⟨_, _, rfl⟩
  have performed : installer.perform
      (.install reference rfl source companions provenance faults) disk = (raised result, after) := by
    rw [perform, installs]
    rfl
  obtain ⟨failure, rfl, rfl⟩ | ⟨filename, current, staged, file, placed, prepared, places, ends⟩ :=
    install_cases installs
  · refine ⟨?_, ?_, ?_⟩ <;> rw [performed]
    · exact usable
    · exact fun _ => rfl
    · exact nofun
  obtain ⟨unchanged, kept⟩ := kept_of_placed places
  obtain ⟨failure, rfl, rfl⟩ | ⟨trusted, rfl, rfl⟩ := ends
  · refine ⟨?_, ?_, ?_⟩ <;> rw [performed]
    · exact usable.mono unchanged kept
    · exact fun _ => unchanged
    · exact nofun
  obtain ⟨known, actives, rollbacks⟩ := entries_of_activation prepared.read
  have installed := installed_of_placed prepared.named prepared.good places
  have survives : ∀ entry ∈ current.entries, installer.Installed placed entry := by
    intro entry member
    obtain ⟨directory, present, holds⟩ := usable.installed current prepared.read entry member
    exact ⟨directory, kept _ _ present, holds⟩
  -- The active entry is the reference as soon as it names its version.
  have same : ∀ active ∈ current.active, active.version = reference.version →
      active = reference := by
    intro active isActive version
    obtain ⟨directory, present, holds⟩ :=
      survives active (ArtifactActivation.mem_entries.mpr (.inl isActive))
    obtain ⟨other, presentOther, holdsOther⟩ := installed
    obtain rfl := Option.some.inj (present.symm.trans (version ▸ presentOther))
    obtain ⟨digest, filename⟩ := same_of_holds holds holdsOther
    exact exact current prepared.read active isActive version digest filename
  have reads := activation_installed placed prepared.valid prepared.read
  refine ⟨?_, ?_, ?_⟩ <;> rw [performed]
  · refine usable_of_reads reads (fun active isActive => ?_) fun entry member => ?_
    · cases isActive
      exact fun rollback isRollback =>
        (mem_replaced (usable.distinct current prepared.read) same isRollback).2
    · rcases ArtifactActivation.mem_entries.mp member with stored | stored
      · cases stored
        exact installed
      · exact survives entry
          (mem_replaced (usable.distinct current prepared.read) same stored).1
  · exact nofun
  · rintro - before next read readNext active isActive version
    cases prepared.read.symm.trans read
    cases reads.symm.trans readNext
    cases same active isActive version
    exact if_neg (not_not.mpr isActive)

/-! ### Rolling back -/

theorem performs_rollback (usable : Usable installer artifactId disk) :
    Performs installer disk (.rollback writeFails : StoreCall Provenance artifactId) := by
  obtain ⟨result, after, rolls⟩ : ∃ result after,
      installer.rollback artifactId writeFails disk = (result, after) := ⟨_, _, rfl⟩
  have performed : installer.perform (.rollback writeFails : StoreCall Provenance artifactId)
      disk = (raised result, after) := by
    rw [perform, rolls]
    rfl
  obtain ⟨failure, rfl, rfl⟩ | ⟨active, target, file, read, trusted, resolves, rfl, rfl⟩ :=
    rollback_cases rolls
  · refine ⟨?_, ?_, ?_⟩ <;> rw [performed]
    · exact usable
    · exact fun _ => rfl
    · rintro ⟨⟩
  obtain ⟨known, actives, rollbacks⟩ := entries_of_activation read
  have reads : activation (writeActivation disk artifactId ⟨some target, some active⟩)
      artifactId = .ok ⟨some target, some active⟩ := by
    refine activation_of_entries known fun entry member => ?_
    rcases ArtifactActivation.mem_entries.mp member with stored | stored
    · exact rollbacks entry stored
    · exact actives entry stored
  refine ⟨?_, ?_, ?_⟩ <;> rw [performed]
  · refine usable_of_reads reads (fun other isTarget previous isActive => ?_)
      fun entry member => ?_
    · exact (usable.distinct _ read previous isActive other isTarget).symm
    · exact usable.installed _ read entry
        (ArtifactActivation.mem_entries.mpr (ArtifactActivation.mem_entries.mp member).symm)
  · exact nofun
  · exact fun _ => trivial

/-! ### Uninstalling -/

/-- What an uninstall makes of an activation, if it changes it. -/
def undone (reference : ArtifactReference) (current : ArtifactActivation) :
    Option ArtifactActivation :=
  if current.active = some reference then some ⟨current.rollback, none⟩
  else if current.rollback = some reference then some ⟨current.active, none⟩
  else none

/-- An uninstall leaves entries that are not its reference, in their order. -/
theorem mem_undone {entry : ArtifactReference}
    (distinct : ∀ active ∈ current.active, ∀ rollback ∈ current.rollback,
      active.version ≠ rollback.version)
    (member : entry ∈ ((undone reference current).getD current).entries) :
    entry ∈ current.entries ∧ entry ≠ reference := by
  rw [undone] at member
  split at member
  · rename_i active
    obtain stored : current.rollback = some entry := by
      simpa [ArtifactActivation.mem_entries] using member
    refine ⟨ArtifactActivation.mem_entries.mpr (.inr stored), ?_⟩
    rintro rfl
    exact distinct entry active entry stored rfl
  · rename_i inactive
    split at member
    · obtain stored : current.active = some entry := by
        simpa [ArtifactActivation.mem_entries] using member
      refine ⟨ArtifactActivation.mem_entries.mpr (.inl stored), ?_⟩
      rintro rfl
      exact inactive stored
    · rename_i kept
      refine ⟨member, ?_⟩
      rintro rfl
      exact (ArtifactActivation.mem_entries.mp member).elim inactive kept

theorem distinct_undone (distinct : ∀ active ∈ current.active, ∀ rollback ∈ current.rollback,
      active.version ≠ rollback.version) :
    ∀ active ∈ ((undone reference current).getD current).active,
      ∀ rollback ∈ ((undone reference current).getD current).rollback,
        active.version ≠ rollback.version := by
  rw [undone]
  split
  · exact fun _ _ => nofun
  · split
    · exact fun _ _ => nofun
    · exact distinct

/-- An uninstall fails where it starts, or undoes the activation and leaves other versions. -/
theorem uninstall_cases {result : Except ArtifactFailure Bool}
    (uninstalls : uninstall reference writeFails left disk = (result, after)) :
    (∃ failure, result = .error failure ∧ after = disk) ∨
      ∃ current, activation disk reference.id = .ok current ∧ (∃ removed, result = .ok removed) ∧
        after.activation =
          ((undone reference current).elim disk (writeActivation disk reference.id)).activation ∧
        ∀ version, version ≠ reference.version →
          after.versions version = disk.versions version := by
  rw [uninstall] at uninstalls
  split at uninstalls
  · cases uninstalls
    exact .inl ⟨_, rfl, rfl⟩
  rename_i current read
  have written : ((undone reference current).elim disk (writeActivation disk reference.id)).versions
      = disk.versions := by
    cases undone reference current <;> rfl
  dsimp only at uninstalls
  rw [← undone] at uninstalls
  split at uninstalls
  · cases uninstalls
    exact .inl ⟨_, rfl, rfl⟩
  refine .inr ⟨current, read, ?_⟩
  split at uninstalls
  · cases uninstalls
    exact ⟨⟨_, rfl⟩, rfl, fun version _ => congrFun written version⟩
  · cases uninstalls
    exact ⟨⟨_, rfl⟩, rfl, fun version other =>
      (Function.update_of_ne other _ _).trans (congrFun written version)⟩

theorem performs_uninstall {names : Names artifactId reference}
    (usable : Usable installer artifactId disk)
    (exact : Exact disk (.uninstall reference names writeFails left : StoreCall Provenance artifactId)) :
    Performs installer disk (.uninstall reference names writeFails left) := by
  have same := names.id_eq
  subst same
  obtain ⟨result, after, uninstalls⟩ : ∃ result after,
      uninstall reference writeFails left disk = (result, after) := ⟨_, _, rfl⟩
  have performed : installer.perform (.uninstall reference names writeFails left) disk =
      (raised result, after) := by
    rw [perform, uninstalls]
    rfl
  obtain ⟨failure, rfl, rfl⟩ | ⟨current, read, ⟨removed, rfl⟩, written, kept⟩ :=
    uninstall_cases uninstalls
  · refine ⟨?_, ?_, ?_⟩ <;> rw [performed]
    · exact usable
    · exact fun _ => rfl
    · rintro ⟨⟩
  obtain ⟨known, actives, rollbacks⟩ := entries_of_activation read
  have distinct := usable.distinct current read
  have others : ∀ entry ∈ ((undone reference current).getD current).entries,
      entry ∈ current.entries ∧ entry.version ≠ reference.version := by
    intro entry member
    obtain ⟨among, other⟩ := mem_undone distinct member
    exact ⟨among, fun version => other (exact current read entry among version)⟩
  have reads : activation after reference.id = .ok ((undone reference current).getD current) := by
    have same : activation after reference.id = activation
        ((undone reference current).elim disk (writeActivation disk reference.id))
        reference.id := by
      rw [activation, activation, written]
    rw [same]
    cases undoes : undone reference current with
    | none => exact read
    | some next =>
      refine activation_of_entries known fun entry member => ?_
      rw [undoes] at others
      rcases ArtifactActivation.mem_entries.mp (others entry member).1 with stored | stored
      · exact actives entry stored
      · exact rollbacks entry stored
  refine ⟨?_, ?_, ?_⟩ <;> rw [performed]
  · refine usable_of_reads reads (distinct_undone distinct) fun entry member => ?_
    obtain ⟨among, other⟩ := others entry member
    obtain ⟨directory, present, holds⟩ := usable.installed current read entry among
    exact ⟨directory, (kept _ other).trans present, holds⟩
  · rintro ⟨⟩
  · rintro - next readNext entry member
    cases reads.symm.trans readNext
    exact (others entry member).2

/-! ### Runs -/

theorem performs {call : StoreCall Provenance artifactId}
    (usable : Usable installer artifactId disk) (exact : Exact disk call) :
    Performs installer disk call := by
  cases call with
  | install => exact performs_install usable exact
  | rollback => exact performs_rollback usable
  | uninstall => exact performs_uninstall usable exact

/-- Whatever is installed, rolled back and uninstalled in a store that starts empty: as long as the
entries that calls are about are the references that they are given, the activation names different
versions in place, another install of the active version leaves what to roll back to, an uninstall
leaves no entry of its version, and a call that raises leaves the activation. -/
theorem usable_of_exact {calls : List (StoreCall Provenance artifactId)} {disk : ArtifactDisk}
    (exact : Machine.Throughout (step installer) Exact emptyStore calls)
    (runs : Machine.run (step installer) emptyStore calls = some disk) :
    Usable installer artifactId disk ∧ ∀ call : StoreCall Provenance artifactId,
      Exact disk call → Performs installer disk call := by
  have usable : Usable installer artifactId disk := by
    refine Machine.invariant_run_throughout (Usable installer artifactId)
      (fun before call after usable exact steps => ?_) usable_emptyStore exact runs
    obtain rfl := Option.some.inj steps
    exact (performs usable exact).usable
  exact ⟨usable, fun call exact => performs usable exact⟩

/-- Install a version of the detector that may come from somewhere. -/
def installFrom (sourceUri version : String) : StoreCall Unit "detector" :=
  .install { detector version with sourceUri } rfl (.regular detectorDigest 64) detectorCompanions
    none ⟨false, false, false⟩

/-- Two versions are installed, the second one again, and the first is rolled back to. -/
theorem usable_of_exact_upgrade : ∃ disk,
    Machine.run (step detectorInstaller) emptyStore
        [installFrom "" "1.0.0", installFrom "" "2.0.0", installFrom "" "2.0.0", .rollback false] =
      some disk ∧
    activation disk "detector" = .ok ⟨some (detector "1.0.0"), some (detector "2.0.0")⟩ ∧
    Usable detectorInstaller "detector" disk := by
  have passes : (Machine.run (step detectorInstaller) emptyStore
      [installFrom "" "1.0.0", installFrom "" "2.0.0", installFrom "" "2.0.0",
        .rollback false]).any fun disk => decide (activation disk "detector" =
          .ok ⟨some (detector "1.0.0"), some (detector "2.0.0")⟩) := by decide +kernel
  obtain ⟨disk, runs, read⟩ := Machine.exists_run_of_any passes
  exact ⟨disk, runs, of_decide_eq_true read, (usable_of_exact (by decide +kernel) runs).1⟩

/-- A version that comes from somewhere is to roll back to itself when it is installed again, and is
still active when it is uninstalled. -/
theorem not_usable_of_run :
    (∃ disk, Machine.run (step detectorInstaller) emptyStore
        [installFrom "hub" "1.0.0", installFrom "hub" "1.0.0"] = some disk ∧
      ¬ Usable detectorInstaller "detector" disk) ∧
    ∃ disk, Machine.run (step detectorInstaller) emptyStore [installFrom "hub" "1.0.0"] =
        some disk ∧
      ∃ names, ¬ Performs detectorInstaller disk
        (.uninstall { detector "1.0.0" with sourceUri := "hub" } names false none :
          StoreCall Unit "detector") := by
  have again : (Machine.run (step detectorInstaller) emptyStore
      [installFrom "hub" "1.0.0", installFrom "hub" "1.0.0"]).any fun disk =>
        decide (activation disk "detector" =
          .ok ⟨some (detector "1.0.0"), some (detector "1.0.0")⟩) := by decide +kernel
  have once : (Machine.run (step detectorInstaller) emptyStore
      [installFrom "hub" "1.0.0"]).any fun disk =>
        decide ((uninstall { detector "1.0.0" with sourceUri := "hub" } false none disk).1 =
            .ok true ∧
          activation (uninstall { detector "1.0.0" with sourceUri := "hub" } false none disk).2
            "detector" = .ok ⟨some (detector "1.0.0"), none⟩) := by decide +kernel
  constructor
  · obtain ⟨disk, runs, read⟩ := Machine.exists_run_of_any again
    refine ⟨disk, runs, fun usable => ?_⟩
    exact usable.distinct _ (of_decide_eq_true read) _ rfl _ rfl rfl
  · obtain ⟨disk, runs, outcome⟩ := Machine.exists_run_of_any once
    obtain ⟨removed, read⟩ := of_decide_eq_true outcome
    have names : Names "detector" { detector "1.0.0" with sourceUri := "hub" } :=
      ⟨by decide +kernel, rfl⟩
    refine ⟨disk, runs, names, fun performs => ?_⟩
    have returns : (detectorInstaller.perform (.uninstall _ names false none :
        StoreCall Unit "detector") disk).1 = none := by
      show raised (uninstall _ _ _ _).1 = none
      rw [removed]
      rfl
    exact performs.accounted returns _ read (detector "1.0.0") List.mem_cons_self rfl

end ArtifactInstaller

end ArtifactStore

end Omnitensor
