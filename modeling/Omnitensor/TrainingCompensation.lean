/-
This file says when a publication that fails leaves the model store as it was.

Uninstalling a version removes its directory, whoever installed it, and leaves no version to roll
back to; and it recognizes the entries of the activation only if what is stored of its reference is
all of it. So an install is taken back exactly when the version was new and either nothing was to be
rolled back to, or, for a reference that declares companions, both entries named the version already.
An install that fails after its version is in place is not taken back at all. The variants of a
report have different identifiers; so what is said of one install holds of all.
-/

import Omnitensor.TrainingPublication
import Omnitensor.ArtifactActivations

namespace Omnitensor

namespace ArtifactStore

/-- The versions and the entries of an artifact are what they were. -/
structure ArtifactDisk.Unchanged (artifactId : String) (before after : ArtifactDisk) : Prop where
  versions : after.versions = before.versions
  activation : ArtifactInstaller.activation after artifactId =
    ArtifactInstaller.activation before artifactId

theorem ArtifactDisk.Unchanged.refl (artifactId : String) (disk : ArtifactDisk) :
    disk.Unchanged artifactId disk := ⟨rfl, rfl⟩

namespace ArtifactInstaller

variable {Provenance : Type} {installer : ArtifactInstaller Provenance}

/-- An install of a reference is one that an uninstall takes back. -/
structure Reversible (reference : ArtifactStore.ArtifactReference) (disk : ArtifactDisk) : Prop where
  absent : disk.versions reference.version = none
  entries : ∀ current, activation disk reference.id = .ok current →
    if reference.stored = reference then
      current.rollback = none ∧ current.active ≠ some reference
    else current.active = some reference.stored ∧ current.rollback = some reference.stored

/-- An install puts a new directory in place. -/
structure PutsInPlace (installer : ArtifactInstaller Provenance) (reference : ArtifactStore.ArtifactReference)
    (source : SourceFile) (companions : Dict String SourceFile) (provenance : Option Provenance)
    (faults : InstallFaults) (disk : ArtifactDisk) : Prop where
  valid : artifactReferenceError reference.toArtifactIdentity = none
  accepted : checkCompanions reference.format companions.keys = .ok ()
  readable : ∃ current, activation disk reference.id = .ok current
  written : faults.stage = false
  staged : ∃ filename staged, artifactFilename reference.format = some filename ∧
    installer.stage reference filename source companions provenance = .ok staged
  absent : disk.versions reference.version = none
  moved : faults.replace = false

/-! ### Uninstalling what was installed -/

variable {reference : ArtifactStore.ArtifactReference} {disk after : ArtifactDisk}
  {current : ArtifactActivation} {source : SourceFile} {companions : Dict String SourceFile}
  {provenance : Option Provenance} {faults : InstallFaults} {directory : VersionDirectory}

/-- What an uninstall of an installed version does when nothing fails. -/
theorem uninstall_of_present (read : activation disk reference.id = .ok current)
    (present : disk.versions reference.version = some directory) :
    uninstall reference false none disk = (.ok true,
      { (undone reference current).elim disk (writeActivation disk reference.id) with
        versions := Function.update disk.versions reference.version none }) := by
  have written : ((undone reference current).elim disk (writeActivation disk reference.id)).versions
      = disk.versions := by
    cases undone reference current <;> rfl
  rw [uninstall, read]
  dsimp only
  rw [Bool.and_false, if_neg Bool.false_ne_true]
  split
  · rename_i missing
    replace missing : ((undone reference current).elim disk
      (writeActivation disk reference.id)).versions reference.version = none := missing
    rw [written, present] at missing
    cases missing
  · show (_, { (undone reference current).elim disk (writeActivation disk reference.id) with
      versions := Function.update ((undone reference current).elim disk
        (writeActivation disk reference.id)).versions reference.version none }) = _
    rw [written]

/-- The activation after an uninstall has what is left of its entries. -/
theorem activation_uninstall (read : activation disk reference.id = .ok current)
    (present : disk.versions reference.version = some directory) :
    activation (uninstall reference false none disk).2 reference.id =
      .ok ((undone reference current).getD current) := by
  obtain ⟨known, actives, rollbacks⟩ := entries_of_activation read
  rw [uninstall_of_present read present]
  have same : activation { (undone reference current).elim disk
      (writeActivation disk reference.id) with
        versions := Function.update disk.versions reference.version none } reference.id =
      activation ((undone reference current).elim disk
        (writeActivation disk reference.id)) reference.id := rfl
  rw [same]
  rw [undone]
  split
  · refine activation_of_entries known fun entry member => rollbacks entry ?_
    simpa [ArtifactActivation.mem_entries] using member
  · split
    · refine activation_of_entries known fun entry member => actives entry ?_
      simpa [ArtifactActivation.mem_entries] using member
    · exact read

/-- What an uninstall leaves of what an install wrote is what was there before in two cases. -/
theorem undone_replaced_iff (entries : ∀ entry ∈ current.entries, entry.stored = entry) :
    (undone reference ⟨some reference.stored, replaced reference current⟩).getD
        ⟨some reference.stored, replaced reference current⟩ = current ↔
      if reference.stored = reference then
        current.rollback = none ∧ current.active ≠ some reference
      else current.active = some reference.stored ∧ current.rollback = some reference.stored := by
  obtain ⟨active, rollback⟩ := current
  simp only [ArtifactActivation.mem_entries] at entries
  by_cases whole : reference.stored = reference
  · rw [undone, if_pos whole, if_pos (congrArg some whole), Option.getD_some,
      ArtifactActivation.mk.injEq, replaced]
    dsimp only
    split
    · rename_i inactive
      constructor
      · rintro ⟨-, left⟩
        exact ⟨left.symm, inactive⟩
      · rintro ⟨left, -⟩
        exact ⟨rfl, left.symm⟩
    · rename_i isActive
      obtain rfl : active = some reference := not_not.mp isActive
      constructor
      · rintro ⟨rfl, same⟩
        cases same
      · rintro ⟨-, other⟩
        exact absurd rfl other
  · have foreign : ∀ entry, entry.stored = entry → entry ≠ reference := by
      rintro entry same rfl
      exact whole same
    have inactive : active ≠ some reference := fun same =>
      foreign reference (entries reference (.inl same)) rfl
    have kept : undone reference ⟨some reference.stored, active⟩ = none := by
      rw [undone, if_neg (fun same => whole (Option.some.inj same)), if_neg inactive]
    rw [if_neg whole, replaced, if_pos inactive, kept, Option.getD_none,
      ArtifactActivation.mk.injEq]
    show some reference.stored = active ∧ active = rollback ↔
      active = some reference.stored ∧ rollback = some reference.stored
    constructor
    · rintro ⟨rfl, rfl⟩
      exact ⟨rfl, rfl⟩
    · rintro ⟨rfl, rfl⟩
      exact ⟨rfl, rfl⟩

/-- An install that returned is taken back by an uninstall if it is reversible, and else is not. -/
theorem unchanged_uninstall_iff {installation : ArtifactInstallation}
    (installs : installer.install reference source companions provenance faults disk =
      (.ok installation, after)) :
    disk.Unchanged reference.id (uninstall reference false none after).2 ↔
      Reversible reference disk := by
  obtain ⟨_, fails, _⟩ | ⟨filename, current, staged, file, placed, prepared, places,
    ⟨_, fails, _⟩ | ⟨_, _, rfl⟩⟩ := install_cases installs
  · cases fails
  · cases fails
  obtain ⟨known, actives, rollbacks⟩ := entries_of_activation prepared.read
  have entries : ∀ entry ∈ current.entries, Entry reference.id entry := by
    intro entry member
    rcases ArtifactActivation.mem_entries.mp member with stored | stored
    · exact actives entry stored
    · exact rollbacks entry stored
  have read := activation_installed placed prepared.valid prepared.read
  obtain ⟨directory, present⟩ : ∃ directory,
      placed.versions reference.version = some directory := by
    cases places with
    | existing present => exact ⟨_, present⟩
    | fresh => exact ⟨staged, Function.update_self _ _ _⟩
  have versions : Function.update placed.versions reference.version none = disk.versions ↔
      disk.versions reference.version = none := by
    cases places with
    | existing =>
      rw [Function.update_eq_self_iff]
      exact eq_comm
    | fresh absent =>
      rw [Function.update_idem, Function.update_eq_self_iff]
      exact eq_comm
  have removed : (uninstall reference false none (writeActivation placed reference.id
      ⟨some reference, replaced reference current⟩)).2.versions =
        Function.update placed.versions reference.version none := by
    rw [uninstall_of_present read present]
    rfl
  have left := activation_uninstall read present
  constructor
  · rintro ⟨sameVersions, sameActivation⟩
    refine ⟨versions.mp (removed.symm.trans sameVersions), fun other readOther => ?_⟩
    cases prepared.read.symm.trans readOther
    refine (undone_replaced_iff fun entry member => (entries entry member).stored_eq).mp ?_
    exact Except.ok.inj (left.symm.trans (sameActivation.trans prepared.read))
  · rintro ⟨absent, returns⟩
    refine ⟨removed.trans (versions.mpr absent), left.trans ?_⟩
    rw [(undone_replaced_iff fun entry member => (entries entry member).stored_eq).mpr
      (returns current prepared.read), prepared.read]

/-! ### Installs that fail -/

/-- Where an install puts a directory in place, the version is there whatever comes after. -/
theorem present_of_putsInPlace
    (puts : PutsInPlace installer reference source companions provenance faults disk) :
    ((installer.install reference source companions provenance faults disk).2.versions
      reference.version).isSome = true := by
  obtain ⟨valid, accepted, ⟨current, read⟩, written, ⟨filename, staged, named, stages⟩, absent,
    moved⟩ := puts
  obtain ⟨size, found, _⟩ := (staged_of_stage named accepted stages).primary
  have activates : installer.activateVersion staged reference faults.replace disk =
      (.ok ⟨installer.storePath reference.toArtifactIdentity filename, true,
        .regular reference.sha256 size, staged.provenance⟩,
        { disk with versions := Function.update disk.versions reference.version (some staged) }) := by
    rw [activateVersion, absent, moved, named, Option.bind_some, found]
    rfl
  have there : ((Function.update disk.versions reference.version (some staged))
      reference.version).isSome = true := by
    rw [Function.update_self]
    rfl
  rw [install, valid, named]
  simp only [accepted, read, written, stages, ok_bind, Bool.false_eq_true, if_false, pure,
    Except.pure, activates]
  split
  · exact there
  · split
    · exact there
    · exact there

/-- An install that failed changed the store exactly if it put a directory in place. -/
theorem unchanged_of_failed_iff {failure : ArtifactFailure}
    (installs : installer.install reference source companions provenance faults disk =
      (.error failure, after)) :
    disk.Unchanged reference.id after ↔
      ¬ PutsInPlace installer reference source companions provenance faults disk := by
  constructor
  · intro unchanged puts
    have present := present_of_putsInPlace puts
    rw [installs, unchanged.versions, puts.absent] at present
    cases present
  · intro nothing
    rw [install] at installs
    split at installs
    · cases installs
      exact .refl _ _
    rename_i current staged prepares
    split at prepares
    · rename_i filename valid named
      obtain ⟨checked, accepted, prepares⟩ := bind_eq_ok.mp prepares
      obtain ⟨read, reads, prepares⟩ := bind_eq_ok.mp prepares
      split at prepares
      · cases prepares
      rename_i written
      obtain ⟨staged, stages, same⟩ := bind_eq_ok.mp prepares
      cases same
      -- Only a new directory changes the store, and there is none.
      have activated : (installer.activateVersion staged reference faults.replace disk).2 =
          disk := by
        rw [activateVersion]
        split
        · split
          · rfl
          · split <;> rfl
        · rename_i absent
          split
          · rfl
          · rename_i moved
            exact absurd ⟨valid, accepted, ⟨current, reads⟩, by simpa using written,
              ⟨filename, staged, named, stages⟩, absent, by simpa using moved⟩ nothing
      split at installs
      · rename_i activates
        cases installs
        rw [activates] at activated
        exact activated ▸ .refl _ _
      · rename_i activates
        rw [activates] at activated
        obtain rfl := activated
        split at installs
        · cases installs
          exact .refl _ _
        · cases fails : faults.activation with
          | true =>
            rw [fails] at installs
            cases installs
            exact .refl _ _
          | false =>
            rw [fails] at installs
            cases installs
    · cases prepares

end ArtifactInstaller

end ArtifactStore

namespace Training

open ArtifactStore
open ArtifactInstaller (Reversible PutsInPlace)

variable {Provenance Evidence : Type}

/-- The artifacts and the binding are what they were. -/
structure TrainingStore.Unchanged (before after : TrainingStore) : Prop where
  artifacts : ∀ artifactId,
    (before.artifacts artifactId).Unchanged artifactId (after.artifacts artifactId)
  binding : after.binding = before.binding

/-- Nothing fails of an uninstall. -/
def UninstallFaults.clean : UninstallFaults := ⟨false, none⟩

/-- Of the variants that a publication comes to, each one whose install succeeds is new and can be
taken back, and one whose install fails has not put a directory in place by then. -/
def Publication.Undoable (publication : Publication Provenance Evidence) :
    List (PreparedVariant Evidence) → TrainingStore → Prop
  | [], _ => True
  | variant :: variants, store =>
    ∀ provenance, publication.sign variant.artifact.reference = .ok provenance →
      match (installPrepared publication.installer variant provenance
        (store.artifacts variant.id)).1 with
      | .error _ => ¬ PutsInPlace publication.installer variant.artifact.reference
          variant.landing.source variant.companions provenance variant.landing.faults
          (store.artifacts variant.id)
      | .ok _ => Reversible variant.artifact.reference (store.artifacts variant.id) ∧
          ∀ fragment, publication.fragment variant = .ok fragment →
            publication.Undoable variants store

/-! ### Stores -/

theorem TrainingStore.setArtifact_self (store : TrainingStore) (artifactId : String)
    (disk : ArtifactDisk) : (store.setArtifact artifactId disk).artifacts artifactId = disk :=
  Function.update_self _ _ _

variable {artifactId target : String} {store : TrainingStore}
  {variants : List (PreparedVariant Evidence)} {failure : TrainingFailure}
  {targets selected : List String} {faults : ArtifactStore.ArtifactReference → UninstallFaults}
  {compilers : List TargetCompiler} {compiler : TargetCompiler}

theorem TrainingStore.setArtifact_of_ne (store : TrainingStore) {other : String}
    (disk : ArtifactDisk) (different : other ≠ artifactId) :
    (store.setArtifact artifactId disk).artifacts other = store.artifacts other :=
  Function.update_of_ne different _ _

/-- When one artifact is put back after others were, it and the others are what they were. -/
theorem TrainingStore.unchanged_setArtifact_iff {middle : TrainingStore} {disk last : ArtifactDisk}
    (taken : middle.artifacts artifactId = disk) :
    store.Unchanged (middle.setArtifact artifactId last) ↔
      (store.artifacts artifactId).Unchanged artifactId last ∧
        (store.setArtifact artifactId disk).Unchanged middle := by
  constructor
  · intro unchanged
    have same := unchanged.artifacts artifactId
    rw [TrainingStore.setArtifact_self] at same
    refine ⟨same, fun other => ?_, unchanged.binding⟩
    by_cases different : other = artifactId
    · rw [different, TrainingStore.setArtifact_self, taken]
      exact .refl _ _
    · have kept := unchanged.artifacts other
      rw [TrainingStore.setArtifact_of_ne _ _ different] at kept
      rwa [TrainingStore.setArtifact_of_ne _ _ different]
  · rintro ⟨same, others⟩
    refine ⟨fun other => ?_, others.binding⟩
    by_cases different : other = artifactId
    · rwa [different, TrainingStore.setArtifact_self]
    · have kept := others.artifacts other
      rw [TrainingStore.setArtifact_of_ne _ _ different] at kept
      rwa [TrainingStore.setArtifact_of_ne _ _ different]

/-- A store with another artifact is unchanged if that artifact is. -/
theorem TrainingStore.unchanged_setArtifact_self_iff {disk : ArtifactDisk} :
    store.Unchanged (store.setArtifact artifactId disk) ↔
      (store.artifacts artifactId).Unchanged artifactId disk := by
  refine (TrainingStore.unchanged_setArtifact_iff rfl).trans (and_iff_left ?_)
  have same : store.setArtifact artifactId (store.artifacts artifactId) = store := by
    rw [TrainingStore.setArtifact, Function.update_eq_self]
  rw [same]
  exact ⟨fun _ => .refl _ _, rfl⟩

/-! ### Taking back what landed -/

variable {publication : Publication Provenance Evidence}

/-- The store after what landed is uninstalled and nothing fails. -/
def Landed.takenBack (landed : Landed) : TrainingStore :=
  removeLandedArtifacts (fun _ => .clean) landed.references landed.store

/-- What landed first is taken back last. -/
theorem takenBack_after (rest : Landed) (variant : PreparedVariant Evidence) (installedAt : String)
    (fragment : Document) :
    (rest.after variant installedAt fragment).takenBack =
      rest.takenBack.setArtifact variant.id (ArtifactInstaller.uninstall variant.artifact.reference
        false none (rest.takenBack.artifacts variant.id)).2 := by
  rw [Landed.takenBack, Landed.after, removeLandedArtifacts, List.reverse_cons, List.foldl_append]
  rfl

/-- Installing and taking back leaves the artifacts of other identifiers. -/
theorem takenBack_of_not_mem (other : artifactId ∉ variants.map PreparedVariant.id) :
    (publication.landVariants variants store).takenBack.artifacts artifactId =
      store.artifacts artifactId := by
  induction variants generalizing store with
  | nil => rfl
  | cons variant variants inductionHypothesis =>
    have different : artifactId ≠ variant.id := List.ne_of_not_mem_cons other
    rw [Publication.landVariants]
    split
    · rfl
    split
    · exact TrainingStore.setArtifact_of_ne _ _ different
    split
    · exact (TrainingStore.setArtifact_of_ne _ _ different).trans
        (TrainingStore.setArtifact_of_ne _ _ different)
    · rw [takenBack_after, TrainingStore.setArtifact_of_ne _ _ different]
      exact (inductionHypothesis (List.not_mem_of_not_mem_cons other)).trans
        (TrainingStore.setArtifact_of_ne _ _ different)

/-- Whether variants can be taken back depends on their own artifacts. -/
theorem undoable_congr {first second : TrainingStore}
    (same : ∀ variant ∈ variants, first.artifacts variant.id = second.artifacts variant.id) :
    publication.Undoable variants first ↔ publication.Undoable variants second := by
  induction variants with
  | nil => exact Iff.rfl
  | cons variant variants inductionHypothesis =>
    have rest := inductionHypothesis fun other member => same other (List.mem_cons_of_mem _ member)
    rw [Publication.Undoable, Publication.Undoable, same variant List.mem_cons_self]
    refine forall_congr' fun provenance => forall_congr' fun _ => ?_
    split
    · exact Iff.rfl
    · exact and_congr_right fun _ => forall_congr' fun _ => forall_congr' fun _ => rest

/-- Taking back what landed leaves the store as it was exactly if every step can be taken back. -/
theorem unchanged_takenBack_iff (distinct : (variants.map PreparedVariant.id).Nodup) :
    store.Unchanged (publication.landVariants variants store).takenBack ↔
      publication.Undoable variants store := by
  induction variants generalizing store with
  | nil => exact iff_of_true ⟨fun _ => .refl _ _, rfl⟩ trivial
  | cons variant variants inductionHypothesis =>
    obtain ⟨new, distinct⟩ := List.nodup_cons.mp distinct
    rw [Publication.landVariants, Publication.Undoable]
    cases signed : publication.sign variant.artifact.reference with
    | error failure => exact iff_of_true ⟨fun _ => .refl _ _, rfl⟩ nofun
    | ok provenance =>
      simp only [Except.ok.injEq, forall_eq']
      obtain ⟨result, disk, installs⟩ : ∃ result disk, installPrepared publication.installer variant
        provenance (store.artifacts variant.id) = (result, disk) := ⟨_, _, rfl⟩
      rw [installs]
      cases result with
      | error failure =>
        exact TrainingStore.unchanged_setArtifact_self_iff.trans
          (ArtifactInstaller.unchanged_of_failed_iff installs)
      | ok landed =>
        have reversed := ArtifactInstaller.unchanged_uninstall_iff installs
        dsimp only
        cases described : publication.fragment variant with
        | error failure =>
          have alone : (⟨.error failure, [variant.artifact.reference],
              store.setArtifact variant.id disk⟩ : Landed).takenBack =
                (store.setArtifact variant.id disk).setArtifact variant.id
                  (ArtifactInstaller.uninstall variant.artifact.reference false none
                    ((store.setArtifact variant.id disk).artifacts variant.id)).2 := rfl
          rw [alone, TrainingStore.setArtifact_self, TrainingStore.unchanged_setArtifact_iff
            (TrainingStore.setArtifact_self store variant.id disk), reversed]
          exact and_congr_right fun _ => iff_of_true ⟨fun _ => .refl _ _, rfl⟩ nofun
        | ok fragment =>
          have untouched : (publication.landVariants variants
              (store.setArtifact variant.id disk)).takenBack.artifacts variant.id = disk :=
            (takenBack_of_not_mem new).trans (TrainingStore.setArtifact_self store variant.id disk)
          have others : ∀ other ∈ variants, (store.setArtifact variant.id disk).artifacts other.id =
              store.artifacts other.id := fun other member =>
            TrainingStore.setArtifact_of_ne store disk fun same =>
              new (same ▸ List.mem_map_of_mem member)
          rw [takenBack_after, untouched, TrainingStore.unchanged_setArtifact_iff untouched,
            reversed, inductionHypothesis distinct, undoable_congr others]
          simp only [Except.ok.injEq, forall_eq']

/-! ### Publications that fail -/

theorem publishBinding_error {installed : List InstalledVariant} {after : TrainingStore}
    (fails : publication.publishBinding installed store = (.error failure, after)) :
    after = store := by
  rw [Publication.publishBinding] at fails
  split at fails
  · cases fails
    rfl
  · split at fails
    · cases fails
      rfl
    · cases fails

/-- A publication that fails takes back what landed. -/
theorem publish_error (fails : (publication.publish faults variants store).1 = .error failure) :
    (publication.publish faults variants store).2 =
      removeLandedArtifacts faults (publication.landVariants variants store).references
        (publication.landVariants variants store).store := by
  rw [Publication.publish] at fails ⊢
  cases landed : (publication.landVariants variants store).result with
  | error failure => rfl
  | ok installed =>
    rw [landed] at fails
    dsimp only at fails ⊢
    obtain ⟨result, after, binds⟩ : ∃ result after, publication.publishBinding installed
      (publication.landVariants variants store).store = (result, after) := ⟨_, _, rfl⟩
    cases result with
    | ok training =>
      rw [binds] at fails
      cases fails
    | error failure =>
      rw [binds, ← publishBinding_error binds]

/-- A publication that fails, where no uninstall does, leaves the store as it was exactly if every
step can be taken back. -/
theorem unchanged_publish_iff (clean : ∀ reference, faults reference = .clean)
    (distinct : (variants.map PreparedVariant.id).Nodup)
    (fails : (publication.publish faults variants store).1 = .error failure) :
    store.Unchanged (publication.publish faults variants store).2 ↔
      publication.Undoable variants store := by
  obtain rfl : faults = fun _ => .clean := funext clean
  rw [publish_error fails]
  exact unchanged_takenBack_iff distinct

/-! ### Variants of a report -/

theorem nodup_validatedTargets (validated : validatedTargets targets = .ok selected) :
    selected.Nodup := by
  rw [validatedTargets] at validated
  split at validated
  · cases validated
  split at validated
  · cases validated
  split at validated
  · cases validated
  · cases validated
    exact List.Nodup.filter _ (by decide)

/-- What is added to a catalog is there for its own target. -/
theorem accelerator_of_addCompilers {start catalog : Dict String TargetCompiler}
    (keyed : ∀ target compiler, start.get? target = some compiler → compiler.accelerator = target)
    (valid : compilers.foldlM addCompiler start = .ok catalog)
    (found : catalog.get? target = some compiler) : compiler.accelerator = target := by
  induction compilers generalizing start with
  | nil =>
    cases valid
    exact keyed _ _ found
  | cons first rest inductionHypothesis =>
    rw [List.foldlM_cons] at valid
    obtain ⟨next, adds, valid⟩ := bind_eq_ok.mp valid
    refine inductionHypothesis (fun target compiler member => ?_) valid
    rw [addCompiler] at adds
    split at adds
    · cases adds
    split at adds
    · cases adds
    cases adds
    rw [Dict.get?_set] at member
    split at member
    · rename_i same
      cases member
      exact same.symm
    · exact keyed _ _ member

theorem accelerator_of_catalog {catalog : Dict String TargetCompiler}
    (valid : compilerCatalog compilers = .ok catalog) (found : catalog.get? target = some compiler) :
    compiler.accelerator = target := by
  refine accelerator_of_addCompilers (fun target compiler absent => ?_) valid found
  rw [Dict.get?_empty] at absent
  cases absent

/-- A prepared artifact has the identifier that it is given, and does not say where it comes from. -/
theorem reference_of_prepareArtifact {primary : ModelFile} {beside : String → ModelFile}
    {version format : String} {artifact : PreparedArtifact}
    (prepares : prepareArtifact primary beside artifactId version format = .ok artifact) :
    artifact.reference.id = artifactId ∧ artifact.reference.sourceUri = "" ∧
      artifact.reference.licenseSpdx = "" := by
  rw [prepareArtifact.eq_def] at prepares
  split at prepares
  · cases prepares
  split at prepares
  · cases prepares
  split at prepares
  · cases prepares
  split at prepares
  · cases prepares
  · cases prepares
  split at prepares
  · cases prepares
  · obtain ⟨companions, _, prepares⟩ := bind_eq_ok.mp prepares
    obtain ⟨digests, _, same⟩ := bind_eq_ok.mp prepares
    cases same
    exact ⟨rfl, rfl, rfl⟩

/-- Variants whose identifiers end in their targets have different ones. -/
theorem nodup_ids (artifactId : String) (distinct : selected.Nodup)
    (named : variants.map PreparedVariant.id =
      selected.map fun target => artifactId ++ "-" ++ target) :
    (variants.map PreparedVariant.id).Nodup := by
  rw [named]
  refine distinct.map fun first second same => ?_
  exact String.append_right_inj _ |>.mp same

theorem nodup_of_prepare {spec : TrainingSpec} {host : TrainingHost}
    {variants : List (PreparedVariant Unit)} (prepares : spec.prepare host targets = .ok variants) :
    (variants.map PreparedVariant.id).Nodup := by
  obtain ⟨selected, validated, prepares⟩ := bind_eq_ok.mp prepares
  obtain ⟨catalog, valid, prepares⟩ := bind_eq_ok.mp prepares
  refine nodup_ids spec.artifactId (nodup_validatedTargets validated)
    (map_eq_of_mapM prepares fun target variant prepared => ?_)
  obtain ⟨compiled, compiles, prepared⟩ := bind_eq_ok.mp prepared
  obtain ⟨artifact, describes, same⟩ := bind_eq_ok.mp prepared
  cases same
  refine (reference_of_prepareArtifact describes).1.trans ?_
  rw [compileTarget] at compiles
  split at compiles
  · cases compiles
  · rename_i compiler found
    rw [compiler.same _ compiles, accelerator_of_catalog valid found]

theorem NumericTrainingReport.nodup_of_prepare {report : NumericTrainingReport}
    {promotion : Promotion Provenance} {host : TrainingHost}
    {variants : List (PreparedVariant NativeParityEvidence)}
    (prepares : report.prepare promotion host targets = .ok variants) :
    (variants.map PreparedVariant.id).Nodup := by
  obtain ⟨selected, validated, prepares⟩ := bind_eq_ok.mp prepares
  split at prepares
  · cases prepares
  split at prepares
  · cases prepares
  obtain ⟨catalog, valid, prepares⟩ := bind_eq_ok.mp prepares
  refine nodup_ids promotion.artifactId (nodup_validatedTargets validated)
    (map_eq_of_mapM prepares fun target variant prepared => ?_)
  obtain ⟨compiled, _, prepared⟩ := bind_eq_ok.mp prepared
  obtain ⟨artifact, describes, prepared⟩ := bind_eq_ok.mp prepared
  obtain ⟨evidence, _, prepared⟩ := bind_eq_ok.mp prepared
  obtain ⟨_, _, same⟩ := bind_eq_ok.mp prepared
  cases same
  exact (reference_of_prepareArtifact describes).1

/-! ### Training and promotion -/

/-- Whatever the reports, hosts and stores: where no uninstall fails, a publication that fails after
its variants are prepared leaves the versions and the entries of every artifact, and the binding, as
they were exactly if every step that it took can be taken back. -/
theorem unchanged_iff_undoable {host : TrainingHost}
    (clean : ∀ reference, host.uninstall reference = .clean) :
    (∀ (spec : TrainingSpec) (targets : List String) (store : TrainingStore)
      (variants : List (PreparedVariant Unit)) (failure : TrainingFailure),
      spec.prepare host targets = .ok variants →
      (installTraining spec host targets store).1 = .error failure →
        (store.Unchanged (installTraining spec host targets store).2 ↔
          (spec.publication host : Publication Unit Unit).Undoable variants store)) ∧
    ∀ (report : NumericTrainingReport) (promotion : Promotion Provenance) (targets : List String)
      (store : TrainingStore) (variants : List (PreparedVariant NativeParityEvidence))
      (failure : TrainingFailure),
      report.prepare promotion host targets = .ok variants →
      (promoteNumericTraining report promotion host targets store).1 = .error failure →
        (store.Unchanged (promoteNumericTraining report promotion host targets store).2 ↔
          (report.publication promotion host).Undoable variants store) := by
  constructor
  · intro spec targets store variants failure prepares fails
    rw [installTraining, prepares] at fails ⊢
    exact unchanged_publish_iff clean (nodup_of_prepare prepares) fails
  · intro report promotion targets store variants failure prepares fails
    rw [promoteNumericTraining, prepares] at fails ⊢
    exact unchanged_publish_iff clean (NumericTrainingReport.nodup_of_prepare prepares) fails

/-! ### A forecast -/

def forecastSpec : TrainingSpec :=
  ⟨"energy-forecast", "energy-model", "1.0.0", ["load"], "load", 4, 1⟩

/-- A compiler whose output has a format. -/
def gpuCompiler (format : String) : TargetCompiler where
  accelerator := "gpu"
  compile := .ok ⟨"gpu", .regular ArtifactInstaller.detectorDigest 64,
    fun _ => .regular "weights" 1024, format, false, none⟩
  same compiled returned := by
    cases returned
    rfl

/-- A host on which the binding may fail to be written. -/
def forecastHost (format : String) (writeFails : Bool) : TrainingHost where
  root := "/store"
  compilers := [gpuCompiler format]
  landing _ := ⟨.regular ArtifactInstaller.detectorDigest 64, fun _ => .regular "weights" 1024,
    ⟨false, false, false⟩⟩
  manifests := ⟨.ok (Dict.empty.set "energy-forecast" ⟨Dict.empty, Dict.empty⟩), fun _ => []⟩
  writeFails
  uninstall _ := .clean

def emptyTrainingStore : TrainingStore := ⟨fun _ => ArtifactInstaller.emptyStore, none⟩

def forecastReport : NumericTrainingReport :=
  ⟨"energy-forecast", "metadata-risk-ranking-v1", "portable", "report", "semantics", .null, .null⟩

def zeroError : ExactDecimal where
  val := { Numeral.ofInt 0 with fraction := ['0'] }
  property := ⟨⟨(Numeral.wellFormed_ofInt 0).whole, List.forall_mem_singleton.mpr rfl, nofun⟩, rfl⟩

/-- A promotion that anyone may sign. -/
def forecastPromotion : Promotion Unit where
  artifactId := "energy-model"
  variantVersions := Dict.empty.set "gpu" "1.0.0"
  verifyParity _ := .ok ⟨8, zeroError, "portable", ArtifactInstaller.detectorDigest⟩
  parityError _ := none
  maxParityError := zeroError
  signer _ _ := .ok ()
  trustVerifier := ⟨fun _ _ => none, fun _ _ => none, fun _ _ => .null⟩

/-- What a call raised, if it did. -/
def raised (result : Except TrainingFailure InstalledTraining) : Option TrainingFailure :=
  match result with
  | .error failure => some failure
  | .ok _ => none

theorem error_of_raised {result : Except TrainingFailure InstalledTraining}
    (raises : raised result = some failure) : result = .error failure := by
  cases result with
  | error other =>
    cases raises
    rfl
  | ok training => cases raises

/-- The store after an earlier version of the model was published. -/
def earlierStore : TrainingStore :=
  (installTraining { forecastSpec with artifactVersion := "0.9.0" } (forecastHost "onnx" false) ["gpu"]
    emptyTrainingStore).2

/-- Where the binding cannot be written, training and promotion of the next version fail, and leave the
store as it was if their only step can be taken back. -/
theorem unchanged_iff_undoable_forecast :
    ((earlierStore.artifacts "energy-model-gpu").versions "0.9.0").isSome = true ∧
    ∃ variants promoted failure,
      forecastSpec.prepare (forecastHost "onnx" true) ["gpu"] = .ok variants ∧
        forecastReport.prepare forecastPromotion (forecastHost "onnx" true) ["gpu"] = .ok promoted ∧
        (installTraining forecastSpec (forecastHost "onnx" true) ["gpu"] earlierStore).1 =
          .error failure ∧
        (earlierStore.Unchanged
            (installTraining forecastSpec (forecastHost "onnx" true) ["gpu"] earlierStore).2 ↔
          (forecastSpec.publication (forecastHost "onnx" true) : Publication Unit Unit).Undoable
            variants earlierStore) ∧
        (earlierStore.Unchanged (promoteNumericTraining forecastReport forecastPromotion
            (forecastHost "onnx" true) ["gpu"] earlierStore).2 ↔
          (forecastReport.publication forecastPromotion (forecastHost "onnx" true)).Undoable
            promoted earlierStore) := by
  have prepared : (forecastSpec.prepare (forecastHost "onnx" true) ["gpu"]).toOption.any
      (fun _ => true) = true := by decide +kernel
  have compared : (forecastReport.prepare forecastPromotion (forecastHost "onnx" true)
      ["gpu"]).toOption.any (fun _ => true) = true := by decide +kernel
  obtain ⟨variants, prepares, _⟩ := exists_ok_of_any prepared
  obtain ⟨promoted, promotes, _⟩ := exists_ok_of_any compared
  have trainingFails : (installTraining forecastSpec (forecastHost "onnx" true) ["gpu"]
      earlierStore).1 = .error (.system "could not write the binding") :=
    error_of_raised (by decide +kernel)
  have promotionFails : (promoteNumericTraining forecastReport forecastPromotion
      (forecastHost "onnx" true) ["gpu"] earlierStore).1 =
        .error (.system "could not write the binding") := error_of_raised (by decide +kernel)
  have both := @unchanged_iff_undoable Unit (forecastHost "onnx" true) fun _ => rfl
  exact ⟨by decide +kernel, variants, promoted, _, prepares, promotes, trainingFails,
    both.1 _ _ _ _ _ prepares trainingFails, both.2 _ _ _ _ _ _ promotes promotionFails⟩

/-- The store after the model was published. -/
def publishedStore : TrainingStore :=
  (installTraining forecastSpec (forecastHost "onnx" false) ["gpu"] emptyTrainingStore).2

/-- Where the model that is in use is published again and the binding cannot be written, the model is
gone; and where a model with weights beside it is published for the first time, its entry stays. -/
theorem not_every_failure_unchanged :
    ((installTraining forecastSpec (forecastHost "onnx" true) ["gpu"] publishedStore).1 =
        .error (.system "could not write the binding") ∧
      ¬ publishedStore.Unchanged
        (installTraining forecastSpec (forecastHost "onnx" true) ["gpu"] publishedStore).2) ∧
    (installTraining forecastSpec (forecastHost "ncnn" true) ["gpu"] emptyTrainingStore).1 =
        .error (.system "could not write the binding") ∧
      ¬ emptyTrainingStore.Unchanged
        (installTraining forecastSpec (forecastHost "ncnn" true) ["gpu"] emptyTrainingStore).2 := by
  have before : ((publishedStore.artifacts "energy-model-gpu").versions "1.0.0").isSome = true := by
    decide +kernel
  have after : (((installTraining forecastSpec (forecastHost "onnx" true) ["gpu"]
      publishedStore).2.artifacts "energy-model-gpu").versions "1.0.0").isSome = false := by
    decide +kernel
  have entry : decide (ArtifactInstaller.activation ((installTraining forecastSpec
      (forecastHost "ncnn" true) ["gpu"] emptyTrainingStore).2.artifacts "energy-model-gpu")
        "energy-model-gpu" = .ok ⟨none, none⟩) = false := by decide +kernel
  refine ⟨⟨error_of_raised (by decide +kernel), fun unchanged => ?_⟩,
    error_of_raised (by decide +kernel), fun unchanged => ?_⟩
  · rw [(unchanged.artifacts "energy-model-gpu").versions, before] at after
    cases after
  · refine of_decide_eq_false entry ?_
    rw [(unchanged.artifacts "energy-model-gpu").activation]
    decide +kernel

end Training

end Omnitensor
