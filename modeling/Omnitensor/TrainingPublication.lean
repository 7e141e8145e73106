/-
This file models how the variants of a training report are published.

The variants are installed one after another, and then the binding that names them is written. When
anything fails on the way, the variants that were installed are uninstalled, the last one first, and
the failure is raised again. The numeric promotion has every variant signed and installs it with the
trust verifier; it uninstalls without it, like the other.
-/

import Omnitensor.TrainingVariants

namespace Omnitensor

namespace Training

open ArtifactStore
open ArtifactInstaller (SourceFile InstallFaults)

variable {Provenance Evidence : Type}

/-! ### What is published -/

/-- What an install of a variant finds, and which of its operations fail. -/
structure Landing where
  source : SourceFile
  companion : String → SourceFile
  faults : InstallFaults

/-- A variant that is compiled and prepared. -/
structure PreparedVariant (Evidence : Type) where
  compiled : CompiledTarget
  artifact : PreparedArtifact
  evidence : Evidence
  landing : Landing

namespace PreparedVariant

abbrev id (variant : PreparedVariant Evidence) : String := variant.artifact.reference.id

/-- The files that are installed beside the primary one. -/
def companions (variant : PreparedVariant Evidence) : Dict String SourceFile :=
  variant.artifact.companions.foldl
    (fun companions name => companions.set name (variant.landing.companion name)) Dict.empty

end PreparedVariant

structure InstalledVariant where
  accelerator : String
  artifactId : String
  modelFormat : String
  installedAt : String
  manifestFragment : Document

structure InstalledTraining where
  profileId : String
  variants : List InstalledVariant

/-- The artifact store, and the binding of a profile. -/
structure TrainingStore where
  artifacts : String → ArtifactDisk
  binding : Option StoredDocument

/-- The store with another store of one artifact. -/
def TrainingStore.setArtifact (store : TrainingStore) (artifactId : String) (disk : ArtifactDisk) :
    TrainingStore :=
  { store with artifacts := Function.update store.artifacts artifactId disk }

/-- How variants are published: who installs and signs them, what a manifest says of one, and which
profile they are bound to. -/
structure Publication (Provenance Evidence : Type) where
  installer : ArtifactInstaller Provenance
  sign : ArtifactStore.ArtifactReference → Except TrainingFailure (Option Provenance)
  fragment : PreparedVariant Evidence → Except TrainingFailure Document
  profileId : String
  laneOrder : List String
  manifests : Manifests
  /-- The binding cannot be written. -/
  writeFails : Bool

/-- What fails of an uninstall: that the activation is written, and that the directory is removed
whole. -/
structure UninstallFaults where
  write : Bool
  left : Option VersionDirectory

/-! ### Installing and uninstalling -/

/-- Install a prepared artifact into the store dispatch reads from. -/
def installPrepared (installer : ArtifactInstaller Provenance)
    (variant : PreparedVariant Evidence) (provenance : Option Provenance) (disk : ArtifactDisk) :
    Except ArtifactFailure ArtifactInstallation × ArtifactDisk :=
  installer.install variant.artifact.reference variant.landing.source variant.companions provenance
    variant.landing.faults disk

/-- Undo a part-finished publication, reporting nothing it cannot undo. -/
def removeLandedArtifacts (faults : ArtifactStore.ArtifactReference → UninstallFaults)
    (references : List ArtifactStore.ArtifactReference) (store : TrainingStore) : TrainingStore :=
  references.reverse.foldl (fun store reference =>
    store.setArtifact reference.id (ArtifactInstaller.uninstall reference (faults reference).write
      (faults reference).left (store.artifacts reference.id)).2) store

/-! ### Publishing -/

/-- How far the installs of some variants came: what was raised or installed, and the references of
what landed. -/
structure Landed where
  result : Except TrainingFailure (List InstalledVariant)
  references : List ArtifactStore.ArtifactReference
  store : TrainingStore

/-- What landed with one more variant, which landed before. -/
def Landed.after (rest : Landed) (variant : PreparedVariant Evidence) (installedAt : String)
    (fragment : Document) : Landed :=
  let installed : InstalledVariant := ⟨variant.compiled.accelerator, variant.id,
    variant.artifact.reference.format, installedAt, fragment⟩
  ⟨(installed :: ·) <$> rest.result, variant.artifact.reference :: rest.references, rest.store⟩

namespace Publication

variable (publication : Publication Provenance Evidence)

/-- Sign and install variants one after another. -/
def landVariants : List (PreparedVariant Evidence) → TrainingStore → Landed
  | [], store => ⟨.ok [], [], store⟩
  | variant :: variants, store =>
    match publication.sign variant.artifact.reference with
    | .error failure => ⟨.error failure, [], store⟩
    | .ok provenance =>
      match installPrepared publication.installer variant provenance
        (store.artifacts variant.id) with
      | (.error failure, disk) =>
        ⟨.error (.installation failure), [], store.setArtifact variant.id disk⟩
      | (.ok landed, disk) =>
        match publication.fragment variant with
        | .error failure =>
          ⟨.error failure, [variant.artifact.reference], store.setArtifact variant.id disk⟩
        | .ok fragment =>
          (landVariants variants (store.setArtifact variant.id disk)).after variant landed.path
            fragment

/-- Build the binding of installed variants and write it. -/
def publishBinding (installed : List InstalledVariant) (store : TrainingStore) :
    Except TrainingFailure InstalledTraining × TrainingStore :=
  match bindingManifest publication.profileId
    (installed.foldl (fun variants variant =>
      variants.set variant.accelerator variant.manifestFragment) Dict.empty)
    publication.laneOrder true publication.manifests with
  | .error failure => (.error failure, store)
  | .ok manifest =>
    if publication.writeFails then (.error (.system "could not write the binding"), store)
    else
      (.ok ⟨publication.profileId, installed⟩, { store with binding := some (.json manifest.json) })

/-- Install the variants and bind them, or undo what landed. -/
def publish (faults : ArtifactStore.ArtifactReference → UninstallFaults)
    (variants : List (PreparedVariant Evidence)) (store : TrainingStore) :
    Except TrainingFailure InstalledTraining × TrainingStore :=
  let landed := publication.landVariants variants store
  match landed.result with
  | .error failure => (.error failure, removeLandedArtifacts faults landed.references landed.store)
  | .ok installed =>
    match publication.publishBinding installed landed.store with
    | (.error failure, store) =>
      (.error failure, removeLandedArtifacts faults landed.references store)
    | published => published

end Publication

/-! ### Training -/

def defaultMaxArtifactBytes : Nat := 6 * 1024 * 1024 * 1024

/-- What is outside of the reports: the compilers, the installs, the manifests, whether the binding
can be written, and what fails when variants are uninstalled. -/
structure TrainingHost where
  root : String
  compilers : List TargetCompiler
  landing : String → Landing
  manifests : Manifests
  writeFails : Bool
  uninstall : ArtifactStore.ArtifactReference → UninstallFaults

/-- The output of the compiler of a target. -/
def compileTarget (catalog : Dict String TargetCompiler) (target : String) :
    Except TrainingFailure CompiledTarget :=
  match catalog.get? target with
  | none => .error (.training "compiler-missing" ("no compiler provider for " ++ target))
  | some compiler => compiler.compile

/-- The publication of trained variants, which are not signed. -/
def TrainingSpec.publication (spec : TrainingSpec) (host : TrainingHost) :
    Publication Provenance Unit where
  installer := ⟨host.root, defaultMaxArtifactBytes, none⟩
  sign _ := .ok none
  fragment variant := .ok (modelFragment variant.artifact.manifestFragment
    variant.compiled.fullyQuantized "0.0.0" "0.0.0" spec.tensorContract TrainingSpec.outputContract
    (some spec.featureContract) none none)
  profileId := spec.profileId
  laneOrder := targetOrder
  manifests := host.manifests
  writeFails := host.writeFails

/-- Compile and prepare the targets of a report. -/
def TrainingSpec.prepare (spec : TrainingSpec) (host : TrainingHost) (targets : List String) :
    Except TrainingFailure (List (PreparedVariant Unit)) := do
  let selected ← validatedTargets targets
  let catalog ← compilerCatalog host.compilers
  selected.mapM fun target => do
    let compiled ← compileTarget catalog target
    let artifact ← prepareArtifact compiled.primary compiled.beside
      (spec.artifactId ++ "-" ++ compiled.accelerator) spec.artifactVersion compiled.modelFormat
    return ⟨compiled, artifact, (), host.landing target⟩

/-- Compile, digest-install, then atomically publish a restricted binding. -/
def installTraining (spec : TrainingSpec) (host : TrainingHost) (targets : List String)
    (store : TrainingStore) : Except TrainingFailure InstalledTraining × TrainingStore :=
  match spec.prepare host targets with
  | .error failure => (.error failure, store)
  | .ok variants =>
    (spec.publication host : Publication Unit Unit).publish host.uninstall variants store

/-! ### Numeric promotion -/

/-- Portable/native comparison supplied by a producer-side lane runner. -/
structure NativeParityEvidence where
  samples : Int
  maximumAbsoluteError : ExactDecimal
  portableSha256 : String
  nativeSha256 : String

/-- What a promotion is given: the name and the versions of the variants, who compares, signs and
trusts them, and the largest error of a comparison. -/
structure Promotion (Provenance : Type) where
  artifactId : String
  variantVersions : Dict String String
  verifyParity : CompiledTarget → Except TrainingFailure NativeParityEvidence
  /-- What is wrong with an error of a comparison, if anything is. -/
  parityError : ExactDecimal → Option TrainingFailure
  maxParityError : ExactDecimal
  signer : ArtifactStore.ArtifactReference → String → Except TrainingFailure Provenance
  trustVerifier : ArtifactTrustVerifier Provenance

namespace NumericTrainingReport

variable (report : NumericTrainingReport)

def validateParity (promotion : Promotion Provenance) (artifact : PreparedArtifact)
    (evidence : NativeParityEvidence) : Except TrainingFailure Unit :=
  if evidence.samples < 1 then
    .error (.training "parity-invalid" "native parity samples must be positive")
  else
    match promotion.parityError evidence.maximumAbsoluteError with
    | some failure => .error failure
    | none =>
      if evidence.portableSha256 ≠ report.modelSha256 then
        .error (.training "parity-invalid" "parity evidence names another portable model")
      else if evidence.nativeSha256 ≠ artifact.reference.sha256 then
        .error (.training "parity-invalid" "parity evidence names another native model")
      else .ok ()

/-- Build the common portable/native proof block in canonical field order. -/
def nativeEvidence (promotion : Promotion Provenance) (evidence : NativeParityEvidence)
    (compilerReportSha256 : Option String) : Json ExactDecimal :=
  .object [("portableSha256", .string evidence.portableSha256),
    ("nativeSha256", .string evidence.nativeSha256), ("reportSha256", .string report.reportSha256),
    ("samples", .int evidence.samples),
    ("maximumAbsoluteError", .float evidence.maximumAbsoluteError),
    ("tolerance", .float promotion.maxParityError),
    ("compilerReportSha256", compilerReportSha256.elim .null .string),
    ("namedDeviceAccepted", .bool false)]

def modelFragment (promotion : Promotion Provenance)
    (variant : PreparedVariant NativeParityEvidence) : Except TrainingFailure Document := do
  let digest ← match variant.compiled.compilerReport with
    | none => .ok none
    | some (.ok digest) => .ok (some digest)
    | some (.error error) => .error (.system error)
  return Training.modelFragment variant.artifact.manifestFragment variant.compiled.fullyQuantized
    "0.0.0" "0.0.0" report.tensorContract report.outputContract none
    (some report.trainingContract)
    (some (report.nativeEvidence promotion variant.evidence digest))

/-- The publication of a promotion, signed over its report. -/
def publication (promotion : Promotion Provenance) (host : TrainingHost) :
    Publication Provenance NativeParityEvidence where
  installer := ⟨host.root, defaultMaxArtifactBytes, some promotion.trustVerifier⟩
  sign reference := some <$> promotion.signer reference report.reportSha256
  fragment := report.modelFragment promotion
  profileId := report.profileId
  laneOrder := ["gpu", "npu"]
  manifests := host.manifests
  writeFails := host.writeFails

/-- Compile, prepare and compare the targets of a report. -/
def prepare (promotion : Promotion Provenance) (host : TrainingHost) (targets : List String) :
    Except TrainingFailure (List (PreparedVariant NativeParityEvidence)) := do
  let selected ← validatedTargets targets
  if "tpu" ∈ selected then
    .error (.training "source-incompatible"
      "numeric ONNX reports need a separate representative fully-int8 TPU export")
  else if ¬ (promotion.variantVersions.keys ⊆ selected ∧
      selected ⊆ promotion.variantVersions.keys) then
    .error (.training "versions-invalid" "variant versions must exactly match targets")
  else
    let catalog ← compilerCatalog host.compilers
    selected.mapM fun target => do
      let compiled ← compileTarget catalog target
      let artifact ← prepareArtifact compiled.primary compiled.beside
        (promotion.artifactId ++ "-" ++ target)
        ((promotion.variantVersions.get? target).getD "") compiled.modelFormat
      let evidence ← promotion.verifyParity compiled
      report.validateParity promotion artifact evidence
      return ⟨compiled, artifact, evidence, host.landing target⟩

end NumericTrainingReport

/-- Compile, parity-gate, sign, install, and bind one numeric report. -/
def promoteNumericTraining (report : NumericTrainingReport) (promotion : Promotion Provenance)
    (host : TrainingHost) (targets : List String) (store : TrainingStore) :
    Except TrainingFailure InstalledTraining × TrainingStore :=
  match report.prepare promotion host targets with
  | .error failure => (.error failure, store)
  | .ok variants => (report.publication promotion host).publish host.uninstall variants store

end Training

end Omnitensor
