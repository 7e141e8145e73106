/-
This file says what the admission of a job promises about its inputs.

Admission checks a payload in the submitting call, dispatch checks it again when the job runs.
Inline tensors pass the same validator twice. Referenced ones are verified at admission and loaded
at dispatch, so what was admitted runs as long as the files are as they were, provided that
admission read as many bytes as the declared shapes need. An inline tensor is held against the
declared shape only if it is solid.
-/

import Omnitensor.TensorReference

namespace Omnitensor

/-! ### Data -/

/-- A model of a manifest. -/
structure WorkloadModel where
  id : String
  version : String
  format : String
  sha256 : Option String
  companions : List (String × String)
  tensorContract : Option (List InputSpec)

/-- An entry of the artifacts that a manifest allows. -/
structure ArtifactEntry where
  id : String
  version : String
  format : String
  sha256 : String

/-- A profile with the models it declares. -/
structure InferenceWorkload where
  id : String
  models : List WorkloadModel
  artifacts : List ArtifactEntry

/-- Identity and expected digests of a model. -/
structure ArtifactReference where
  id : String
  version : String
  format : String
  sha256 : String
  companions : List (String × String)

namespace ArtifactReference

/-- The files that must accompany the primary file of a format. -/
def companionFilenames (format : String) : List String :=
  if format = "ncnn" ∨ format = "openvino" then ["model.bin"] else []

/-- Required companions that the manifest does not name. -/
def unpinnedCompanions (reference : ArtifactReference) : List String :=
  (companionFilenames reference.format).filter fun name =>
    decide (name ∉ reference.companions.map Prod.fst)

end ArtifactReference

/-- The artifact of a model that its manifest vouches for, if it declares a digest. -/
def declaredArtifactReference (workload : InferenceWorkload) (model : WorkloadModel) :
    Option ArtifactReference :=
  match workload.artifacts.find? fun entry =>
      decide (entry.id = model.id ∧ entry.version = model.version ∧
        entry.format = model.format) with
  | some entry => some ⟨entry.id, entry.version, entry.format, entry.sha256, model.companions⟩
  | none =>
    (model.sha256.filter fun digest => decide (digest ≠ "")).map fun digest =>
      ⟨model.id, model.version, model.format, digest, model.companions⟩

def refuseUnpinned (workloadId : String) (reference : Option ArtifactReference) :
    Except DispatchFailure Unit :=
  match reference with
  | none => .error (.refused "model-unpinned" (workloadId ++
      ": the manifest declares a model without a sha256, so the " ++
      "runtime cannot tell which file the publisher meant"))
  | some reference =>
    if reference.unpinnedCompanions = [] then .ok ()
    else .error (.refused "companion-unpinned" (workloadId ++
      ": the manifest declares no digest for " ++ ", ".intercalate reference.unpinnedCompanions ++
      ", which is where this format keeps its weights"))

/-- The inputs that a model declares, if it declares any. -/
def declaredInputs (model : Option WorkloadModel) :
    Except DispatchFailure (Option (List InputSpec)) :=
  match model.bind WorkloadModel.tensorContract with
  | none => .ok none
  | some [] => .ok none
  | some specs =>
    if Tensor.maxInputs < specs.length then .error (.crashed "ValueError") else .ok (some specs)

/-- The tensors that a payload carries inline, bounded by count. -/
def inlineInputs (payload : List (String × Json Double)) (maxInputTensors : Nat) :
    Except DispatchFailure (List (Json Double)) :=
  match Json.field payload "inputs" with
  | some (.array inputs) =>
    if maxInputTensors < inputs.length then
      .error (payloadInvalid
        ("At most " ++ toString maxInputTensors ++ " input tensors may be submitted"))
    else .ok inputs
  | _ => .error (payloadInvalid "Job payload must contain an inputs array")

/-- The part of the dispatcher that looks at inputs. The stack takes at least the nesting of a
referenced tensor. -/
structure InferenceJobDispatcher where
  workloads : Dict String InferenceWorkload
  maxInputTensors : Nat
  maxInputElements : Nat
  stack : Nat
  tensorsPositive : 1 ≤ maxInputTensors
  elementsPositive : 1 ≤ maxInputElements
  stackTakesRank : maxRank ≤ stack

namespace InferenceJobDispatcher

variable (dispatcher : InferenceJobDispatcher)

/-! ### Admission -/

/-- The profile that a job names. -/
def runnable (workloadId : String) : Except DispatchFailure InferenceWorkload :=
  match dispatcher.workloads.get? workloadId with
  | none => .error (.refused "workload-unknown" ("No such workload profile: " ++ workloadId))
  | some workload =>
    if workload.models = [] then
      .error (.refused "workload-has-no-model"
        (workloadId ++ " declares no model and cannot run inference"))
    else .ok workload

def pinned (workload : InferenceWorkload) : Except DispatchFailure Unit :=
  workload.models.forM fun model =>
    refuseUnpinned workload.id (declaredArtifactReference workload model)

/-- Inputs that a declared contract does not accept are refused. -/
def agrees (specs : Option (List InputSpec)) (shapes : List (Option (List Nat) × Option Dtype)) :
    Except DispatchFailure Unit :=
  match Tensor.contractError specs shapes with
  | none => .ok ()
  | some mismatch => .error (.refused "input-contract-mismatch" mismatch)

/-- The members of a payload. -/
def members : Json Double → Except DispatchFailure (List (String × Json Double))
  | .object members => .ok members
  | _ => .error (payloadInvalid "Job payload must be an object")

/-- The references that a payload declares. -/
def references (payload : Json Double) : Except DispatchFailure (Option (List TensorReference)) :=
  do TensorReference.parseReferences (← members payload) dispatcher.maxInputTensors

/-- The one place where shapes and elements of tensors are checked. -/
def validated (inputs : List (Json Double)) : Except DispatchFailure (List (Json Double)) := do
  let (encoded, _) ← Tensor.validateItems dispatcher.stack inputs
    (ElementBudget.new dispatcher.maxInputElements)
  return encoded

/-- Verify references in order, each after its elements are paid for. -/
def verifyAll (roots : InputRoots) (digest : List UInt8 → String) :
    List TensorReference → ElementBudget → Except DispatchFailure Unit
  | [], _ => .ok ()
  | reference :: references, budget => do
    let budget ← budget.spend reference.elementCount
    reference.verifyReference roots digest defaultMaxTensorBytes
    verifyAll roots digest references budget

/-- Refuse in the submitting call what a running job would refuse later. -/
def admitPayload (roots : InputRoots) (digest : List UInt8 → String) (workloadId : String)
    (payload : Json Double) : Except DispatchFailure Unit := do
  let workload ← dispatcher.runnable workloadId
  pinned workload
  let specs ← declaredInputs workload.models.head?
  match ← dispatcher.references payload with
  | none =>
    let inputs ← dispatcher.validated
      (← inlineInputs (← members payload) dispatcher.maxInputTensors)
    agrees specs (inputs.map fun tensor => (Tensor.measuredShape tensor, none))
  | some references =>
    agrees specs (references.map fun reference => (some reference.shape, some reference.dtype))
    verifyAll roots digest references (ElementBudget.new dispatcher.maxInputElements)

/-! ### Dispatch -/

/-- Read and check the tensors of a job before it is queued. -/
def inputs (roots : InputRoots) (digest : List UInt8 → String) (payload : Json Double) :
    Except DispatchFailure (List (Json Double)) := do
  match ← TensorReference.referencedInputs (← members payload) roots digest
      dispatcher.maxInputTensors defaultMaxTensorBytes with
  | none =>
    dispatcher.validated (← inlineInputs (← members payload) dispatcher.maxInputTensors)
  | some loaded => dispatcher.validated loaded

/-! ### What admission checked -/

variable {dispatcher}

theorem agrees_eq_ok {specs : Option (List InputSpec)}
    {shapes : List (Option (List Nat) × Option Dtype)} :
    agrees specs shapes = .ok () ↔ Tensor.contractError specs shapes = none := by
  unfold agrees
  cases Tensor.contractError specs shapes with
  | none => exact iff_of_true rfl rfl
  | some mismatch => exact iff_of_false (fun same => by cases same) fun same => by cases same

variable {roots later : InputRoots} {digest : List UInt8 → String}
  {references : List TensorReference} {tensors : List (Json Double)} {payload : Json Double}
  {reference : TensorReference}

/-- The validator returns the tensors it was given, and each of them has a shape. -/
theorem validated_eq_ok {encoded : List (Json Double)}
    (accepted : dispatcher.validated tensors = .ok encoded) :
    encoded = tensors ∧ ∀ tensor ∈ tensors,
      Tensor.HasShape (Tensor.tensorShape tensor) tensor := by
  obtain ⟨⟨kept, after⟩, checked, same⟩ := bind_eq_ok.mp accepted
  obtain ⟨rfl, shaped, _⟩ := Tensor.validateItems_spec tensors checked
  cases same
  exact ⟨rfl, shaped⟩

/-- What an inline payload passed when it was admitted. -/
theorem admit_inline {workloadId : String} (parsed : dispatcher.references payload = .ok none)
    (admitted : dispatcher.admitPayload roots digest workloadId payload = .ok ()) :
    ∃ workload specs fields tensors, dispatcher.runnable workloadId = .ok workload ∧
      declaredInputs workload.models.head? = .ok specs ∧ members payload = .ok fields ∧
      inlineInputs fields dispatcher.maxInputTensors = .ok tensors ∧
      dispatcher.validated tensors = .ok tensors ∧
      agrees specs (tensors.map fun tensor => (Tensor.measuredShape tensor, none)) = .ok () := by
  obtain ⟨workload, known, admitted⟩ := bind_eq_ok.mp admitted
  obtain ⟨_, _, admitted⟩ := bind_eq_ok.mp admitted
  obtain ⟨specs, declares, admitted⟩ := bind_eq_ok.mp admitted
  rw [parsed, ok_bind] at admitted
  obtain ⟨fields, opened, admitted⟩ := bind_eq_ok.mp admitted
  obtain ⟨tensors, inline, admitted⟩ := bind_eq_ok.mp admitted
  obtain ⟨encoded, checked, agreed⟩ := bind_eq_ok.mp admitted
  obtain ⟨rfl, _⟩ := validated_eq_ok checked
  exact ⟨workload, specs, fields, encoded, known, declares, opened, inline, checked, agreed⟩

/-- What a payload with references passed when it was admitted. -/
theorem admit_references {workloadId : String}
    (parsed : dispatcher.references payload = .ok (some references))
    (admitted : dispatcher.admitPayload roots digest workloadId payload = .ok ()) :
    verifyAll roots digest references (ElementBudget.new dispatcher.maxInputElements) =
      .ok () := by
  obtain ⟨_, _, admitted⟩ := bind_eq_ok.mp admitted
  obtain ⟨_, _, admitted⟩ := bind_eq_ok.mp admitted
  obtain ⟨_, _, admitted⟩ := bind_eq_ok.mp admitted
  rw [parsed, ok_bind] at admitted
  obtain ⟨_, _, verified⟩ := bind_eq_ok.mp admitted
  exact verified

theorem declaredInputs_eq_ok {model : Option WorkloadModel} {specs : List InputSpec}
    {declared : Option (List InputSpec)} (given : specs ≠ [])
    (declares : model.bind WorkloadModel.tensorContract = some specs)
    (read : declaredInputs model = .ok declared) : declared = some specs := by
  unfold declaredInputs at read
  rw [declares] at read
  cases specs with
  | nil => exact absurd rfl given
  | cons spec specs =>
    simp only at read
    split at read
    · cases read
    · exact (Except.ok.inj read).symm

theorem inlineInputs_eq_ok {payload : List (String × Json Double)} {maxInputTensors : Nat}
    (inline : inlineInputs payload maxInputTensors = .ok tensors) :
    Json.field payload "inputs" = some (.array tensors) := by
  unfold inlineInputs at inline
  split at inline
  · rename_i found
    split at inline
    · cases inline
    · cases inline
      exact found
  · cases inline

/-! ### The declared contract -/

/-- Inputs are as many as declared, and each has the shape of its position. -/
def MeetsContract (specs : List InputSpec) (tensors : List (Json Double)) : Prop :=
  tensors.length = specs.length ∧ ∀ input ∈ specs.zip tensors,
    Tensor.HasShape input.1.shape input.2 ∧ Tensor.elements input.2 = input.1.shape.prod

theorem forall_zip_map {First Second Third : Type} {change : Second → Third} {first : List First}
    {second : List Second} {holds : First × Third → Prop} :
    (∀ pair ∈ first.zip (second.map change), holds pair) ↔
      ∀ pair ∈ first.zip second, holds (pair.1, change pair.2) := by
  rw [List.zip_map_right, List.forall_mem_map]
  rfl

/-- A measured shape agrees with the declared one exactly if the tensor has it, for tensors that
the validator took. -/
theorem hasShape_iff_measured {spec : InputSpec} {tensor : Json Double}
    (shaped : Tensor.HasShape (Tensor.tensorShape tensor) tensor)
    (agrees : ∀ shape ∈ Tensor.measuredShape tensor, shape = spec.shape) :
    Tensor.HasShape spec.shape tensor ↔ Tensor.solid tensor = true := by
  refine ⟨Tensor.solid_of_hasShape, fun full => ?_⟩
  rw [← agrees _ (Tensor.measuredShape_of_solid full shaped)]
  exact shaped

/-- The inline tensors of an admitted job meet the declared contract exactly if all of them are
arrays and have no empty array in them. -/
theorem meetsContract_iff {roots : InputRoots} {digest : List UInt8 → String}
    {workloadId : String} {workload : InferenceWorkload} {specs : List InputSpec}
    {payload : List (String × Json Double)} {tensors : List (Json Double)}
    (known : dispatcher.workloads.get? workloadId = some workload)
    (declares : workload.models.head?.bind WorkloadModel.tensorContract = some specs)
    (given : specs ≠ [])
    (inline : (Json.field payload "inputRefs").getD .null = .null)
    (carries : Json.field payload "inputs" = some (.array tensors))
    (admitted : dispatcher.admitPayload roots digest workloadId (.object payload) = .ok ()) :
    MeetsContract specs tensors ↔ ∀ tensor ∈ tensors, Tensor.solid tensor = true := by
  have parsed : dispatcher.references (.object payload) = .ok none := by
    rw [references, members, ok_bind]
    cases refs : Json.field payload "inputRefs" with
    | none => simp only [TensorReference.parseReferences, refs]
    | some value =>
      rw [refs, Option.getD_some] at inline
      simp only [TensorReference.parseReferences, refs, inline]
  obtain ⟨runs, declared, fields, found, ran, read, opened, listed, checked, agreed⟩ :=
    admit_inline parsed admitted
  cases opened
  obtain rfl : tensors = found := by
    have same := carries.symm.trans (inlineInputs_eq_ok listed)
    cases same
    rfl
  obtain rfl : workload = runs := by
    rw [runnable, known] at ran
    simp only at ran
    split at ran
    · cases ran
    · exact Except.ok.inj ran
  obtain rfl := declaredInputs_eq_ok given declares read
  obtain ⟨_, shaped⟩ := validated_eq_ok checked
  obtain ⟨length, agree⟩ := (Tensor.contractError_eq_none given).mp (agrees_eq_ok.mp agreed)
  rw [List.length_map] at length
  rw [forall_zip_map] at agree
  have each : ∀ input ∈ specs.zip tensors,
      (Tensor.HasShape input.1.shape input.2 ↔ Tensor.solid input.2 = true) := fun input inside =>
    hasShape_iff_measured (shaped input.2 (List.of_mem_zip inside).2) (agree input inside).1
  constructor
  · rintro ⟨_, all⟩ tensor inside
    obtain ⟨index, small, rfl⟩ := List.mem_iff_getElem.mp inside
    have member : (specs[index], tensors[index]) ∈ specs.zip tensors :=
      List.mem_iff_getElem.mpr ⟨index, by rw [List.length_zip]; omega, List.getElem_zip⟩
    exact (each _ member).mp (all _ member).1
  · intro full
    refine ⟨length, fun input inside => ?_⟩
    have has := (each input inside).mpr (full input.2 (List.of_mem_zip inside).2)
    exact ⟨has, Tensor.elements_of_hasShape has⟩

/-! ### Runs -/

/-- A dispatcher with one profile, whose model takes two numbers. -/
def exampleSpec : InputSpec := ⟨[2], .float32, by decide, by decide⟩

def exampleDispatcher : InferenceJobDispatcher where
  workloads := Dict.empty.set "profile" {
    id := "profile"
    models := [{
      id := "model"
      version := "1.0.0"
      format := "ncnn"
      sha256 := some "digest"
      companions := [("model.bin", "digest")]
      tensorContract := some [exampleSpec] }]
    artifacts := [] }
  maxInputTensors := 64
  maxInputElements := 1048576
  stack := 100
  tensorsPositive := by decide
  elementsPositive := by decide
  stackTakesRank := by decide

/-- A file system with one file, of which a call sees a size and some bytes. -/
def exampleRoots (size : Nat) (content : List UInt8) : InputRoots where
  permits _ := true
  describe := "input roots: /"
  file _ := ⟨some size, some content⟩

/-- The digests of two buffers. -/
def exampleDigest (content : List UInt8) : String :=
  if content = [0, 0, 0, 0] then
    "df3f619804a92fdb4057192dc43dd748ea778adc52bc498ce80524c014b81119"
  else "b9c80b5adeca450753a16950c3cc655d271f7bef7a485bc83f112b72fef21d37"

def exampleInline (tensor : Json Double) : List (String × Json Double) :=
  [("inputs", .array [tensor])]

def exampleReferenced (sha256 : String) : List (String × Json Double) :=
  [("inputRefs", .array [.object [("path", .string "/input"), ("shape", .array [.int 2]),
    ("sha256", .string sha256)]])]

theorem meetsContract_iff_pair :
    exampleDispatcher.admitPayload (exampleRoots 0 []) exampleDigest "profile"
        (.object (exampleInline (.array [.int 1, .int 2]))) = .ok () ∧
      MeetsContract [exampleSpec] [.array [.int 1, .int 2]] := by
  have admitted : exampleDispatcher.admitPayload (exampleRoots 0 []) exampleDigest "profile"
      (.object (exampleInline (.array [.int 1, .int 2]))) = .ok () := by decide +kernel
  exact ⟨admitted, (meetsContract_iff rfl rfl (List.cons_ne_nil _ _) rfl rfl admitted).mpr
    (by decide +kernel)⟩

/-- A bare number is admitted where two numbers are declared. -/
theorem admits_number :
    exampleDispatcher.admitPayload (exampleRoots 0 []) exampleDigest "profile"
        (.object (exampleInline (.int 5))) = .ok () ∧
      ¬ MeetsContract [exampleSpec] [.int 5] :=
  ⟨by decide +kernel, fun meets => (meets.2 (exampleSpec, .int 5) (List.mem_singleton_self _)).1⟩

/-! ### Referenced inputs -/

/-- As many bytes are read of a file as the declared shape needs. -/
def Whole (roots : InputRoots) (reference : TensorReference) : Prop :=
  ∃ content, (roots.file reference.path).content = some content ∧
    content.length = reference.expectedBytes

/-- A file that still holds the bytes that were read, and may still be read. -/
structure Unchanged (roots later : InputRoots) (reference : TensorReference) : Prop where
  permits : later.permits reference.path = true
  content : (later.file reference.path).content = (roots.file reference.path).content
  size : (later.file reference.path).size =
    (roots.file reference.path).content.map List.length

/-- A tensor of the declared shape whose numbers are the bytes of the file. -/
def Carries (roots : InputRoots) (reference : TensorReference) (tensor : Json Double) : Prop :=
  ∃ content, (roots.file reference.path).content = some content ∧
    Tensor.HasShape reference.shape tensor ∧
    TensorReference.leaves tensor =
      TensorReference.elementValues reference.dtype reference.elementCount content

/-- The tensors that a payload stands for. -/
def Delivers (roots : InputRoots) (payload : List (String × Json Double))
    (declared : Option (List TensorReference)) (tensors : List (Json Double)) : Prop :=
  declared.elim (Json.field payload "inputs" = some (.array tensors)) fun references =>
    List.Forall₂ (Carries roots) references tensors

/-- A reference is loaded exactly if it is verified and as many bytes are read as its shape
needs. -/
theorem load_iff_verify {maxTensorBytes : Nat} :
    (∃ tensor, reference.loadReferencedTensor roots digest maxTensorBytes = .ok tensor) ↔
      reference.verifyReference roots digest maxTensorBytes = .ok () ∧ Whole roots reference := by
  simp only [TensorReference.verifyReference_eq_ok, TensorReference.loadReferencedTensor_eq_ok]
  constructor
  · rintro ⟨tensor, content, accepts, length, rfl⟩
    exact ⟨⟨content, accepts⟩, content, accepts.stored, length⟩
  · rintro ⟨⟨content, accepts⟩, other, stored, length⟩
    cases accepts.stored.symm.trans stored
    exact ⟨_, content, accepts, length, rfl⟩

theorem verifyAll_eq_ok {budget : ElementBudget}
    (verified : verifyAll roots digest references budget = .ok ()) :
    (references.map TensorReference.elementCount).sum ≤ budget.remaining ∧
      ∀ reference ∈ references,
        reference.verifyReference roots digest defaultMaxTensorBytes = .ok () := by
  induction references generalizing budget with
  | nil => exact ⟨Nat.zero_le _, fun _ inside => absurd inside List.not_mem_nil⟩
  | cons reference references inductionHypothesis =>
    obtain ⟨after, spent, verified⟩ := bind_eq_ok.mp verified
    obtain ⟨_, one, rest⟩ := bind_eq_ok.mp verified
    obtain ⟨few, others⟩ := inductionHypothesis rest
    have paid := (Tensor.spend_eq_ok spent).1
    rw [List.map_cons, List.sum_cons, List.forall_mem_cons]
    exact ⟨by omega, one, others⟩

/-- What was verified is loaded later, from a file that is whole and unchanged. -/
theorem load_of_verify {maxTensorBytes : Nat}
    (verified : reference.verifyReference roots digest maxTensorBytes = .ok ())
    (unchanged : Unchanged roots later reference) (whole : Whole roots reference) :
    ∃ tensor, reference.loadReferencedTensor later digest maxTensorBytes = .ok tensor ∧
      Carries roots reference tensor := by
  obtain ⟨content, accepts⟩ := TensorReference.verifyReference_eq_ok.mp verified
  obtain ⟨_, stored, length⟩ := whole
  cases accepts.stored.symm.trans stored
  have same : TensorReference.Accepts reference later digest maxTensorBytes content := {
    permits := unchanged.permits
    fits := accepts.fits
    size := by rw [unchanged.size, stored, Option.map_some, length]
    stored := unchanged.content.trans stored
    bounded := accepts.bounded
    finite := accepts.finite
    sha256 := accepts.sha256 }
  exact ⟨_, TensorReference.loadReferencedTensor_eq_ok.mpr ⟨content, same, length, rfl⟩, content,
    stored, TensorReference.shaped_of_accepts accepts length⟩

theorem itemElements_of_carries (carries : List.Forall₂ (Carries roots) references tensors) :
    Tensor.itemElements tensors = (references.map TensorReference.elementCount).sum := by
  induction carries with
  | nil => rfl
  | cons first rest inductionHypothesis =>
    obtain ⟨_, _, shaped, _⟩ := first
    rw [Tensor.itemElements, inductionHypothesis, List.map_cons, List.sum_cons,
      Tensor.elements_of_hasShape shaped]
    rfl

/-- Tensors of declared shapes pass the validator again, if their elements were paid for. -/
theorem validated_of_carries (carries : List.Forall₂ (Carries roots) references tensors)
    (few : (references.map TensorReference.elementCount).sum ≤ dispatcher.maxInputElements) :
    dispatcher.validated tensors = .ok tensors := by
  have each : ∀ tensor ∈ tensors, ∀ budget : ElementBudget,
      Tensor.elements tensor ≤ budget.remaining →
        ∃ after, Tensor.validateInputTensor dispatcher.stack tensor budget = .ok (tensor, after) := by
    intro tensor inside budget
    obtain ⟨reference, _, _, _, shaped, _⟩ := exists_of_mem_forall₂ carries tensor inside
    exact Tensor.validateInputTensor_of_hasShape reference.positive shaped
      (reference.rankBounded.trans dispatcher.stackTakesRank)
  have paid : Tensor.itemElements tensors ≤
      (ElementBudget.new dispatcher.maxInputElements).remaining :=
    (itemElements_of_carries carries).trans_le few
  obtain ⟨after, checked⟩ := Tensor.validateItems_of_validates each paid
  rw [validated, checked]
  rfl

theorem inputs_inline (parsed : dispatcher.references payload = .ok none) :
    dispatcher.inputs later digest payload = (do
      dispatcher.validated (← inlineInputs (← members payload) dispatcher.maxInputTensors)) := by
  obtain ⟨fields, opened, declared⟩ := bind_eq_ok.mp parsed
  rw [inputs, opened, ok_bind, TensorReference.referencedInputs, declared]
  rfl

theorem inputs_references (parsed : dispatcher.references payload = .ok (some references)) :
    dispatcher.inputs later digest payload = (do
      dispatcher.validated (← references.mapM fun reference =>
        reference.loadReferencedTensor later digest defaultMaxTensorBytes)) := by
  obtain ⟨fields, opened, declared⟩ := bind_eq_ok.mp parsed
  rw [inputs, opened, ok_bind, TensorReference.referencedInputs, declared, ok_bind]
  simp only [bind_assoc, pure_bind]

/-- A job that was admitted gets its inputs later, from files that still hold the bytes that
admission read, exactly if admission read as many bytes of each file as its declared shape needs.
Loading a reference differs from verifying it in nothing else. -/
theorem inputs_of_admitted_iff {roots later : InputRoots} {digest : List UInt8 → String}
    {workloadId : String} {payload : List (String × Json Double)}
    {declared : Option (List TensorReference)}
    (admitted : dispatcher.admitPayload roots digest workloadId (.object payload) = .ok ())
    (parsed : dispatcher.references (.object payload) = .ok declared)
    (unchanged : ∀ reference ∈ declared.getD [], Unchanged roots later reference) :
    ((∃ tensors, dispatcher.inputs later digest (.object payload) = .ok tensors ∧
        Delivers roots payload declared tensors) ↔
      ∀ reference ∈ declared.getD [], Whole roots reference) ∧
    ∀ (reference : TensorReference) (seen : InputRoots) (maxTensorBytes : Nat),
      (∃ tensor, reference.loadReferencedTensor seen digest maxTensorBytes = .ok tensor) ↔
        reference.verifyReference seen digest maxTensorBytes = .ok () ∧ Whole seen reference := by
  refine ⟨?_, fun _ _ _ => load_iff_verify⟩
  cases declared with
  | none =>
    obtain ⟨_, _, fields, tensors, _, _, opened, listed, checked, _⟩ := admit_inline parsed admitted
    cases opened
    refine iff_of_true ⟨tensors, ?_, inlineInputs_eq_ok listed⟩ fun _ none =>
      absurd none List.not_mem_nil
    rw [inputs_inline parsed]
    simp only [members, ok_bind, listed, checked]
  | some references =>
    obtain ⟨few, verified⟩ := verifyAll_eq_ok (admit_references parsed admitted)
    rw [inputs_references parsed]
    constructor
    · rintro ⟨tensors, ran, _⟩ reference inside
      obtain ⟨loaded, all, _⟩ := bind_eq_ok.mp ran
      obtain ⟨tensor, one⟩ := exists_result_of_mapM all reference inside
      obtain ⟨content, stored, length⟩ := (load_iff_verify.mp ⟨tensor, one⟩).2
      exact ⟨content, (unchanged reference inside).content.symm.trans stored, length⟩
    · intro whole
      obtain ⟨tensors, loaded, carries⟩ := exists_mapM_eq_ok fun reference inside =>
        load_of_verify (verified reference inside) (unchanged reference inside)
          (whole reference inside)
      refine ⟨tensors, ?_, carries⟩
      rw [loaded, ok_bind, validated_of_carries carries few]

theorem inputs_of_admitted_iff_pair :
    ∃ declared, exampleDispatcher.references (.object (exampleReferenced
        "b9c80b5adeca450753a16950c3cc655d271f7bef7a485bc83f112b72fef21d37")) =
        .ok declared ∧
      ((∃ tensors, exampleDispatcher.inputs (exampleRoots 8 [0, 0, 128, 63, 0, 0, 0, 64])
          exampleDigest (.object (exampleReferenced
            "b9c80b5adeca450753a16950c3cc655d271f7bef7a485bc83f112b72fef21d37")) =
          .ok tensors ∧ Delivers (exampleRoots 8 [0, 0, 128, 63, 0, 0, 0, 64]) (exampleReferenced
            "b9c80b5adeca450753a16950c3cc655d271f7bef7a485bc83f112b72fef21d37") declared
          tensors) ↔
        ∀ reference ∈ declared.getD [],
          Whole (exampleRoots 8 [0, 0, 128, 63, 0, 0, 0, 64]) reference) := by
  have admitted : exampleDispatcher.admitPayload (exampleRoots 8 [0, 0, 128, 63, 0, 0, 0, 64])
      exampleDigest "profile" (.object (exampleReferenced
        "b9c80b5adeca450753a16950c3cc655d271f7bef7a485bc83f112b72fef21d37")) = .ok () := by
    decide +kernel
  have parses : (exampleDispatcher.references (.object (exampleReferenced
      "b9c80b5adeca450753a16950c3cc655d271f7bef7a485bc83f112b72fef21d37"))).isOk = true := by
    decide +kernel
  cases parsed : exampleDispatcher.references (.object (exampleReferenced
      "b9c80b5adeca450753a16950c3cc655d271f7bef7a485bc83f112b72fef21d37")) with
  | error failure =>
    rw [parsed] at parses
    cases parses
  | ok declared =>
    exact ⟨declared, rfl, (inputs_of_admitted_iff admitted parsed fun _ _ => ⟨rfl, rfl, rfl⟩).1⟩

/-- A file that shrinks between admission's look at its size and its reading: what was read is
what the digest promises, the job is admitted, and it is refused when it runs. -/
theorem admits_shrunken_file :
    exampleDispatcher.admitPayload (exampleRoots 8 [0, 0, 0, 0]) exampleDigest "profile"
        (.object (exampleReferenced
          "df3f619804a92fdb4057192dc43dd748ea778adc52bc498ce80524c014b81119")) = .ok () ∧
      (∀ reference, Unchanged (exampleRoots 8 [0, 0, 0, 0]) (exampleRoots 4 [0, 0, 0, 0])
        reference) ∧
      ¬ ∃ tensors, exampleDispatcher.inputs (exampleRoots 4 [0, 0, 0, 0]) exampleDigest
        (.object (exampleReferenced
          "df3f619804a92fdb4057192dc43dd748ea778adc52bc498ce80524c014b81119")) =
        .ok tensors := by
  have refused : (exampleDispatcher.inputs (exampleRoots 4 [0, 0, 0, 0]) exampleDigest
      (.object (exampleReferenced
        "df3f619804a92fdb4057192dc43dd748ea778adc52bc498ce80524c014b81119"))).isOk = false := by
    decide +kernel
  refine ⟨by decide +kernel, fun _ => ⟨rfl, rfl, rfl⟩, ?_⟩
  rintro ⟨tensors, ran⟩
  rw [ran] at refused
  cases refused

end InferenceJobDispatcher

end Omnitensor
