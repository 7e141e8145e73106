/-
This file models how a training report becomes variants of a model and a binding for them.

Every target has a compiler, whose output is described as an artifact: its digest, and the digests of
the files its format needs beside it. The identifier of the artifact ends in the accelerator, so the
variants of a report have different identifiers. A binding is the manifest of a profile, restricted
to the accelerators that there are variants for.

What a compiler makes of the portable model is given, and so are the bundled manifests and what the
validation says of a manifest.
-/

import Omnitensor.ArtifactStaging

namespace Omnitensor

namespace Training

open ArtifactStore

/-- A JSON object. -/
abbrev Document : Type := Dict String (Json ExactDecimal)

/-- What a call raises: a stable failure, one of the artifact store, or an error of the system. -/
inductive TrainingFailure where
  | training (code detail : String)
  | installation (failure : ArtifactFailure)
  | system (error : String)
  deriving DecidableEq

/-! ### Reports -/

/-- Identity and exact tensor shape of one local forecasting fit. -/
structure TrainingSpec where
  profileId : String
  artifactId : String
  artifactVersion : String
  featureNames : List String
  targetFeature : String
  window : Nat
  horizon : Nat

namespace TrainingSpec

def inputWidth (spec : TrainingSpec) : Nat := spec.featureNames.length * spec.window

/-- One row of as many numbers as a model takes. -/
def tensorContract (spec : TrainingSpec) : Json ExactDecimal :=
  .object [("inputs", .array [.object [("shape", .array [.int 1, .int spec.inputWidth]),
    ("dtype", .string "float32"), ("layout", .string "NC")]])]

def outputContract : Json ExactDecimal := .object [("kind", .string "raw")]

/-- Machine-readable ordering and meaning of the flattened input. -/
def featureContract (spec : TrainingSpec) : Json ExactDecimal :=
  .object [("version", .int 1), ("recipe", .string "forecast-v1"),
    ("featureNames", .array (spec.featureNames.map .string)),
    ("targetFeature", .string spec.targetFeature), ("window", .int spec.window),
    ("horizon", .int spec.horizon), ("observationOrder", .string "oldest-first"),
    ("flattenOrder", .string "observations-then-features")]

end TrainingSpec

/-- What the promotion reads of a numeric report. -/
structure NumericTrainingReport where
  profileId : String
  recipe : String
  modelSha256 : String
  reportSha256 : String
  semanticsSha256 : String
  tensorContract : Json ExactDecimal
  outputContract : Json ExactDecimal

def NumericTrainingReport.trainingContract (report : NumericTrainingReport) : Json ExactDecimal :=
  .object [("version", .int 1), ("profileId", .string report.profileId),
    ("recipe", .string report.recipe), ("reportSha256", .string report.reportSha256),
    ("taskSemanticsSha256", .string report.semanticsSha256)]

/-! ### Targets and compilers -/

def targetOrder : List String := ["gpu", "npu", "tpu"]

def validatedTargets (targets : List String) : Except TrainingFailure (List String) :=
  if targets = [] then .error (.training "targets-invalid" "at least one target is required")
  else if ¬ targets.Nodup then .error (.training "targets-invalid" "targets must be unique")
  else
    match targets.find? fun target => decide (target ∉ targetOrder) with
    | some unsupported =>
      .error (.training "targets-invalid" ("unsupported target: " ++ unsupported))
    | none => .ok (targetOrder.filter fun target => decide (target ∈ targets))

/-- A file that is to be described. -/
inductive ModelFile where
  | regular (digest : String) (size : Nat)
  | unreadable (error : String)
  /-- It is not a regular file, or there is none. -/
  | missing

/-- One compiler output, before artifact preparation and installation. -/
structure CompiledTarget where
  accelerator : String
  primary : ModelFile
  /-- The files beside the primary one that have its name and another suffix. -/
  beside : String → ModelFile
  modelFormat : String
  fullyQuantized : Bool
  /-- The digest of the report of the compiler, or why there is none. -/
  compilerReport : Option (Except String String)

/-- A compiler of one accelerator, and what it makes of the portable model. -/
structure TargetCompiler where
  accelerator : String
  compile : Except TrainingFailure CompiledTarget
  /-- Its output is for its accelerator. -/
  same : ∀ compiled, compile = .ok compiled → compiled.accelerator = accelerator

/-- Add a compiler to a catalog. -/
def addCompiler (catalog : Dict String TargetCompiler) (compiler : TargetCompiler) :
    Except TrainingFailure (Dict String TargetCompiler) :=
  if compiler.accelerator ∉ targetOrder then
    .error (.training "compiler-invalid" ("unsupported compiler target: " ++ compiler.accelerator))
  else if catalog.contains compiler.accelerator then
    .error (.training "compiler-invalid" ("duplicate compiler target: " ++ compiler.accelerator))
  else .ok (catalog.set compiler.accelerator compiler)

/-- Validate one unambiguous provider per supported accelerator. -/
def compilerCatalog (compilers : List TargetCompiler) :
    Except TrainingFailure (Dict String TargetCompiler) :=
  compilers.foldlM addCompiler Dict.empty

/-! ### Preparing -/

/-- One model file, described exactly as a manifest must declare it. -/
structure PreparedArtifact where
  reference : ArtifactStore.ArtifactReference
  /-- The names of the files that are to be installed beside it. -/
  companions : List String

/-- The formats that can be prepared. -/
def formatAccelerators : List (String × String) :=
  [("ncnn", "gpu"), ("onnx", "gpu"), ("openvino", "npu"), ("tflite-edgetpu", "tpu")]

/-- How to find each companion beside the primary source file. -/
def companionSourceSuffix (format name : String) : Option String :=
  if format ∈ ["ncnn", "openvino"] ∧ name = "model.bin" then some ".bin" else none

/-- The digest of a file, or why there is none. -/
def fileDigest : ModelFile → Except TrainingFailure String
  | .regular digest _ => .ok digest
  | .unreadable error => .error (.system error)
  | .missing => .error (.system "no such file")

/-- Find the files this format needs beside the primary one. -/
def discoverCompanions (beside : String → ModelFile) (format : String) :
    Except TrainingFailure (List (String × ModelFile)) :=
  (companionFilenames format).mapM fun name =>
    match (companionSourceSuffix format name).map beside with
    | none | some .missing =>
      .error (.training "companion-missing" (format ++ " needs " ++ name))
    | some found => .ok (name, found)

/-- Describe a model file as the artifact contract requires. -/
def prepareArtifact (primary : ModelFile) (beside : String → ModelFile)
    (artifactId version format : String) : Except TrainingFailure PreparedArtifact :=
  if format ∉ formatAccelerators.map Prod.fst then
    .error (.training "format-unsupported" (format ++ " is not one of " ++
      ", ".intercalate ["ncnn", "onnx", "openvino", "tflite-edgetpu"]))
  else if ¬ (1 ≤ artifactId.length ∧ artifactId.length ≤ 120) then
    .error (.training "identity-invalid" "artifact id must be a bounded string")
  else if version = "" then
    .error (.training "identity-invalid" "artifact version is required")
  else
    match primary with
    | .missing => .error (.training "source-invalid" "not a regular file")
    | .unreadable error => .error (.training "source-invalid" ("cannot read: " ++ error))
    | .regular digest size =>
      if size = 0 then .error (.training "source-invalid" "an empty file is not a model")
      else do
        let companions ← discoverCompanions beside format
        let digests ← companions.mapM fun companion => do
          return (companion.1, ← fileDigest companion.2)
        let reference : ArtifactStore.ArtifactReference :=
          { id := artifactId, version, format, sha256 := digest,
            companions := digests.mergeSort fun first second => decide (first.1 ≤ second.1),
            sourceUri := "", licenseSpdx := "" }
        return ⟨reference, companions.map Prod.fst⟩

/-- The `requirements.model` block a workload manifest needs. -/
def PreparedArtifact.manifestFragment (artifact : PreparedArtifact) : Document :=
  let reference := artifact.reference
  let fragment : Document := (((Dict.empty.set "id" (.string reference.id)).set "version"
    (.string reference.version)).set "format" (.string reference.format)).set "sha256"
      (.string reference.sha256)
  if reference.companions = [] then fragment
  else fragment.set "companions"
    (.object (reference.companions.map fun companion => (companion.1, .string companion.2)))

/-! ### Bindings -/

/-- Add a field, if it is stated. -/
def setStated (document : Document) (field : String) (value : Option (Json ExactDecimal)) :
    Document :=
  value.elim document (document.set field)

/-- Combine an immutable artifact identity with one family's contracts. -/
def modelFragment (artifact : Document) (fullyQuantized : Bool)
    (minimumCompilerVersion minimumRuntimeVersion : String)
    (tensorContract outputContract : Json ExactDecimal)
    (featureContract trainingContract evidence : Option (Json ExactDecimal)) : Document :=
  let fragment := (((artifact.set "fullyQuantized" (.bool fullyQuantized)).set
    "minimumCompilerVersion" (.string minimumCompilerVersion)).set
      "minimumRuntimeVersion" (.string minimumRuntimeVersion)).set "tensorContract" tensorContract
  let fragment := (setStated fragment "featureContract" featureContract).set
    "outputContract" outputContract
  setStated (setStated fragment "trainingContract" trainingContract) "nativeEvidence" evidence

/-- The manifest of a workload: its requirements, and its other fields. -/
structure Manifest where
  fields : Document
  requirements : Document

def Manifest.json (manifest : Manifest) : Json ExactDecimal :=
  .object (manifest.fields.set "requirements" (.object manifest.requirements.entries)).entries

/-- Where manifests come from and what is said against one. -/
structure Manifests where
  load : Except TrainingFailure (Dict String Manifest)
  validate : Manifest → List String

/-- Restrict a copied profile to available variants in caller-defined order. -/
def bindingManifest (profileId : String) (variants : Dict String Document)
    (laneOrder : List String) (plural : Bool) (manifests : Manifests) :
    Except TrainingFailure Manifest := do
  match (← manifests.load).get? profileId with
  | none => .error (.training "profile-unknown" ("no bundled profile is named " ++ profileId))
  | some workload =>
    let lanes := laneOrder.filterMap fun lane => (variants.get? lane).map fun variant =>
      (lane, variant)
    match lanes with
    | [] => .error (.training "binding-invalid"
        (profileId ++ " has no variant for any of the requested lanes " ++
          if laneOrder = [] then "(none)" else ", ".intercalate laneOrder))
    | first :: _ =>
      let restricted := fun (requirements : Document) =>
        (requirements.set "accelerator" (.string first.1)).set "acceleratorPreference"
          (.array (lanes.map fun lane => .string lane.1))
      let requirements :=
        if plural then
          (restricted (workload.requirements.erase "model")).set "models"
            (.array (lanes.map fun lane => .object lane.2.entries))
        else ((restricted workload.requirements).set "model" (.object first.2.entries)).erase "models"
      let manifest : Manifest := { workload with requirements }
      match manifests.validate manifest with
      | [] => return manifest
      | violations => .error (.training "binding-invalid" ("; ".intercalate violations))

end Training

end Omnitensor
