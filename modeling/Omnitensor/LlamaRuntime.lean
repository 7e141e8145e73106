/-
This file models one llama.cpp runtime: its model, its lease, its calls and their threads.

The event loop runs a call from one `await` to the next. Loading, decoding and the release that a
`terminate` asks for run in threads of their own, each under the lock of the runtime, which is held
from the moment a load or a decode begins until it ends. A release closes the model and gives the
lease back. The event loop makes one itself at the end of a `generate` and after a failed load, and
waits for the lock meanwhile.

The native library is whatever a step says it did. Every load opens the lease file anew, so the
lease is free or held by one load, and a load that waits for it waits for all runtimes.
-/

import Mathlib.Data.List.Basic

namespace Omnitensor

/-! ### Calls -/

/-- What a native load reported. -/
structure NativeLoadReport where
  backend : String
  device : String
  totalModelLayers : Nat
  acceleratorLayers : Nat
  cpuFallback : Bool
  deriving DecidableEq

/-- How a call ends. -/
inductive LlamaOutcome where
  | loaded (report : NativeLoadReport)
  | answered
  | terminated
  /-- A provider error, and whether generation had started. -/
  | failed (started : Bool)
  | cancelled
  /-- Any other exception. -/
  | crashed
  deriving DecidableEq

/-- Where the event loop is in a call. -/
inductive LlamaPhase where
  /-- `load` waits for its thread. -/
  | loadWaiting
  /-- `load` releases after a failure. -/
  | loadReleasing
  /-- `generate` waits for the thread of its own load. -/
  | generateLoading
  /-- Its load releases after a failure. -/
  | generateLoadReleasing
  /-- It waits for the first progress report. -/
  | generateStarting
  | generateDecoding
  /-- It waits for the last progress report. -/
  | generateReporting
  /-- It releases before it ends. -/
  | finishing (outcome : LlamaOutcome)
  | terminating
  | returned (outcome : LlamaOutcome)
  deriving DecidableEq

/-- Where the thread of a call is, if it has one. -/
inductive LlamaThread where
  | none
  | loadQueued
  | loadStarted
  /-- It waits for the lease. -/
  | loadLeasing
  /-- The native library reads the model. -/
  | loadReading
  /-- The model is there, and where its layers went is being established. -/
  | loadProving
  | loadDone (report : Option NativeLoadReport)
  | decodeQueued
  | decodeStarted
  | decoding
  | decodeDone (outcome : LlamaOutcome)
  | releaseQueued
  | releaseStarted
  | releaseDone
  deriving DecidableEq

/-- A call of a runtime. -/
structure LlamaCall where
  request : String
  phase : LlamaPhase
  thread : LlamaThread
  deriving DecidableEq

/-- The fields of a runtime. -/
structure LlamaFields (Model : Type) where
  modelPath : Option String
  llama : Option Model
  loadReport : Option NativeLoadReport
  lease : Bool
  activeRequest : String
  stopping : Bool
  /-- A `load` returned its report, and nothing was released since. -/
  kept : Bool
  /-- The thread of a cancelled `load` went on with the lease, and nothing was released since. -/
  left : Bool
  deriving DecidableEq

/-- A runtime with the calls that were made on it, in order. -/
structure LlamaRuntime (Model : Type) where
  fields : LlamaFields Model
  calls : List LlamaCall
  deriving DecidableEq

/-! ### Locks -/

namespace LlamaThread

/-- The thread holds the lock of its runtime. -/
def locks : LlamaThread → Bool
  | .loadLeasing | .loadReading | .loadProving | .decoding => true
  | _ => false

/-- A load that has not ended, or whose end nobody has noticed. -/
def loads : LlamaThread → Bool
  | .loadQueued | .loadStarted | .loadLeasing | .loadReading | .loadProving | .loadDone _ => true
  | _ => false

/-- A load that has not got the lease. -/
def unleased : LlamaThread → Bool
  | .loadQueued | .loadStarted | .loadLeasing => true
  | _ => false

/-- A load that got as far as the lease. -/
def leases (thread : LlamaThread) : Bool := thread.loads && !thread.unleased

/-- A load under way. -/
def loading : LlamaThread → Bool
  | .loadQueued | .loadStarted | .loadLeasing | .loadReading | .loadProving => true
  | _ => false

/-- No thread runs. -/
def ended : LlamaThread → Bool
  | .none | .loadDone _ | .decodeDone _ | .releaseDone => true
  | _ => false

end LlamaThread

/-- The event loop is inside a release. -/
def LlamaPhase.releasing : LlamaPhase → Bool
  | .loadReleasing | .generateLoadReleasing | .finishing _ => true
  | _ => false

/-- The call has not returned. -/
def LlamaPhase.active : LlamaPhase → Bool
  | .returned _ => false
  | _ => true

namespace LlamaRuntime

variable {Model : Type}

/-- A runtime that nobody has called. -/
def new : LlamaRuntime Model := ⟨⟨none, none, none, false, "", false, false, false⟩, []⟩

/-- A thread of the runtime holds its lock. -/
def locked (runtime : LlamaRuntime Model) : Bool :=
  runtime.calls.any fun call => call.thread.locks

/-- The event loop is inside a release of the runtime. -/
def releasing (runtime : LlamaRuntime Model) : Bool :=
  runtime.calls.any fun call => call.phase.releasing

end LlamaRuntime

namespace LlamaCall

variable {Model : Type}

/-- What is left after the model is closed and the lease given back. -/
def released (fields : LlamaFields Model) : LlamaFields Model :=
  { fields with llama := none, lease := false, kept := false, left := false }

/-- `generate` enters its last block. -/
def finish (fields : LlamaFields Model) (call : LlamaCall) (outcome : LlamaOutcome) :
    LlamaFields Model × LlamaCall :=
  ({ fields with activeRequest := "" }, { call with phase := .finishing outcome })

/-! ### Calls begin -/

/-- `load`, when the artifact can be used or cannot. -/
def load (fields : LlamaFields Model) (path : String) (usable : Bool) :
    LlamaFields Model × LlamaCall :=
  if usable then
    match fields.llama, fields.loadReport with
    | some _, some report => ({ fields with kept := true }, ⟨"", .returned (.loaded report), .none⟩)
    -- The model is there, but its report is not yet.
    | some _, none => (fields, ⟨"", .returned .crashed, .none⟩)
    | none, _ => ({ fields with modelPath := some path }, ⟨"", .loadWaiting, .loadQueued⟩)
  else (fields, ⟨"", .returned (.failed false), .none⟩)

/-- `generate`, when it is cancelled by now or not, and the artifact can be used or cannot. -/
def generate (fields : LlamaFields Model) (request : String) (cancelled usable : Bool) :
    LlamaFields Model × LlamaCall :=
  let call : LlamaCall := ⟨request, .generateStarting, .none⟩
  if fields.modelPath.isNone then (fields, { call with phase := .returned (.failed false) })
  else if cancelled then finish fields call .cancelled
  else
    match fields.llama with
    | some _ => ({ fields with activeRequest := request }, call)
    | none =>
      if usable then (fields, { call with phase := .generateLoading, thread := .loadQueued })
      else finish fields call (.failed false)

/-- `terminate`: it releases if the request is the active one. -/
def terminate (fields : LlamaFields Model) (request : String) : LlamaFields Model × LlamaCall :=
  if request = fields.activeRequest ∨ request = "__startup__" then
    ({ fields with stopping := true }, ⟨request, .terminating, .releaseQueued⟩)
  else (fields, ⟨request, .returned .terminated, .none⟩)

/-! ### Calls go on -/

/-- The event loop resumes a call whose thread is done, or whose progress was reported. The report
may raise, and the call may be cancelled by now. -/
def resume (fields : LlamaFields Model) (call : LlamaCall) (cancelled raised : Bool) :
    Option (LlamaFields Model × LlamaCall) :=
  let next := { call with thread := .none }
  match call.phase, call.thread with
  | .loadWaiting, .loadDone (some report) =>
    some ({ fields with kept := true }, { next with phase := .returned (.loaded report) })
  | .loadWaiting, .loadDone none => some (fields, { next with phase := .loadReleasing })
  | .generateLoading, .loadDone (some _) =>
    some (if cancelled then finish fields next .cancelled
      else ({ fields with activeRequest := call.request }, { next with phase := .generateStarting }))
  | .generateLoading, .loadDone none =>
    some (fields, { next with phase := .generateLoadReleasing })
  | .generateStarting, .none =>
    some (if raised then finish fields next (.failed true)
      else (fields, { next with phase := .generateDecoding, thread := .decodeQueued }))
  | .generateDecoding, .decodeDone .answered =>
    some (if cancelled then finish fields next .cancelled
      else (fields, { next with phase := .generateReporting }))
  | .generateDecoding, .decodeDone .crashed => some (finish fields next (.failed true))
  | .generateDecoding, .decodeDone outcome => some (finish fields next outcome)
  | .generateReporting, .none => some (finish fields next (if raised then .failed true else .answered))
  | .terminating, .releaseDone =>
    some ({ fields with stopping := false }, { next with phase := .returned .terminated })
  | _, _ => none

/-- The event loop gets the lock, and releases. -/
def release (fields : LlamaFields Model) (call : LlamaCall) :
    Option (LlamaFields Model × LlamaCall) :=
  match call.phase with
  | .loadReleasing => some (released fields, { call with phase := .returned (.failed false) })
  | .generateLoadReleasing => some (finish (released fields) call (.failed false))
  | .finishing outcome => some (released fields, { call with phase := .returned outcome })
  | _ => none

/-- A thread that has not begun is withdrawn with its call. -/
def withdrawn : LlamaThread → LlamaThread
  | .loadQueued | .decodeQueued | .releaseQueued => .none
  | thread => thread

/-- The task of a call is cancelled while the call waits. -/
def cancel (fields : LlamaFields Model) (call : LlamaCall) :
    Option (LlamaFields Model × LlamaCall) :=
  let next := { call with thread := withdrawn call.thread }
  match call.phase with
  | .loadWaiting =>
    some ({ fields with left := fields.left || call.thread.leases },
      { next with phase := .returned .cancelled })
  | .generateLoading | .generateStarting | .generateDecoding | .generateReporting =>
    some (finish fields next .cancelled)
  | .terminating =>
    some ({ fields with stopping := false }, { next with phase := .returned .cancelled })
  | _ => none

end LlamaCall

/-! ### Threads -/

/-- What a thread comes to in its next step. -/
inductive LlamaInput (Model : Type) where
  | proceed
  | raise
  | model (model : Model)
  | offload (layers total : Nat)
  | decoded (outcome : LlamaOutcome)
  deriving DecidableEq

namespace LlamaCall

variable {Model : Type}

/-- The next step of a call's thread, when the lock of its runtime and the lease are taken or not,
if it is not blocked. -/
def work (locked leased : Bool) (fields : LlamaFields Model) (call : LlamaCall)
    (input : LlamaInput Model) : Option (LlamaFields Model × LlamaCall) :=
  match call.thread, input with
  | .loadQueued, .proceed => some (fields, { call with thread := .loadStarted })
  | .loadStarted, .proceed =>
    if locked then none else some (fields, { call with thread := .loadLeasing })
  -- The lease file cannot be opened.
  | .loadStarted, .raise =>
    if locked then none else some (fields, { call with thread := .loadDone none })
  | .loadLeasing, .proceed =>
    if leased then none
    else
      some ({ fields with lease := true, left := fields.left || !call.phase.active },
        { call with thread := .loadReading })
  | .loadLeasing, .raise => some (fields, { call with thread := .loadDone none })
  | .loadReading, .model model =>
    some ({ fields with llama := some model }, { call with thread := .loadProving })
  | .loadReading, .raise => some (fields, { call with thread := .loadDone none })
  | .loadProving, .offload layers total =>
    if layers < 1 then some (fields, { call with thread := .loadDone none })
    else
      let report : NativeLoadReport := ⟨"llama.cpp-vulkan", "Vulkan", total, layers, false⟩
      some ({ fields with loadReport := some report },
        { call with thread := .loadDone (some report) })
  | .loadProving, .raise => some (fields, { call with thread := .loadDone none })
  | .decodeQueued, .proceed => some (fields, { call with thread := .decodeStarted })
  | .decodeStarted, .proceed =>
    if locked then none
    else
      match fields.llama with
      | none => some (fields, { call with thread := .decodeDone .crashed })
      | some _ => some (fields, { call with thread := .decoding })
  | .decoding, .decoded outcome => some (fields, { call with thread := .decodeDone outcome })
  | .releaseQueued, .proceed => some (fields, { call with thread := .releaseStarted })
  | .releaseStarted, .proceed =>
    if locked then none else some (released fields, { call with thread := .releaseDone })
  | _, _ => none

end LlamaCall

namespace LlamaRuntime

variable {Model : Type}

/-- The runtime after a call begins. -/
def begin (runtime : LlamaRuntime Model) (begun : LlamaFields Model × LlamaCall) :
    LlamaRuntime Model :=
  ⟨begun.1, runtime.calls ++ [begun.2]⟩

/-- The runtime after a step of a call. -/
def take (runtime : LlamaRuntime Model) (index : Nat) (effect : LlamaFields Model × LlamaCall) :
    LlamaRuntime Model :=
  ⟨effect.1, runtime.calls.set index effect.2⟩

/-- A step of a call, if it can take it. -/
def advance (runtime : LlamaRuntime Model) (index : Nat)
    (effect : LlamaFields Model → LlamaCall → Option (LlamaFields Model × LlamaCall)) :
    Option (LlamaRuntime Model) := do
  let call ← runtime.calls[index]?
  let next ← effect runtime.fields call
  return runtime.take index next

/-- A call of the event loop on a runtime, or one of its steps. -/
inductive LoopAction where
  | load (path : String) (usable : Bool)
  | generate (request : String) (cancelled usable : Bool)
  | terminate (request : String)
  | resume (call : Nat) (cancelled raised : Bool)
  | cancel (call : Nat)
  deriving DecidableEq

/-- What the event loop does with a runtime while it is inside no release. -/
def loop (runtime : LlamaRuntime Model) : LoopAction → Option (LlamaRuntime Model)
  | .load path usable => some (runtime.begin (LlamaCall.load runtime.fields path usable))
  | .generate request cancelled usable =>
    some (runtime.begin (LlamaCall.generate runtime.fields request cancelled usable))
  | .terminate request => some (runtime.begin (LlamaCall.terminate runtime.fields request))
  | .resume call cancelled raised =>
    runtime.advance call fun fields call => call.resume fields cancelled raised
  | .cancel call => runtime.advance call fun fields call => call.cancel fields

/-- The event loop releases the runtime for a call. -/
def release (runtime : LlamaRuntime Model) (call : Nat) : Option (LlamaRuntime Model) :=
  if runtime.locked then none else runtime.advance call fun fields call => call.release fields

/-- A thread of the runtime takes a step while the lease is taken or free. -/
def work (runtime : LlamaRuntime Model) (leased : Bool) (call : Nat) (input : LlamaInput Model) :
    Option (LlamaRuntime Model) :=
  runtime.advance call fun fields call => call.work runtime.locked leased fields input

end LlamaRuntime

/-! ### What a step of a call does -/

namespace LlamaCall

/-- The steps of a thread, one by one. -/
inductive Works (locked leased : Bool) (fields : LlamaFields Model) (call : LlamaCall)
    (input : LlamaInput Model) : LlamaFields Model → LlamaCall → Prop
  | begun (next : LlamaThread)
      (from_ : (call.thread, next) ∈ [(.loadQueued, .loadStarted), (.decodeQueued, .decodeStarted),
        (.releaseQueued, .releaseStarted)]) :
    Works locked leased fields call input fields { call with thread := next }
  | loadLocked (from_ : call.thread = .loadStarted) (free : locked = false) :
    Works locked leased fields call input fields { call with thread := .loadLeasing }
  | loadFailed
      (from_ : call.thread ∈ [.loadStarted, .loadLeasing, .loadReading, .loadProving]) :
    Works locked leased fields call input fields { call with thread := .loadDone none }
  | loadLeased (from_ : call.thread = .loadLeasing) (free : leased = false) :
    Works locked leased fields call input
      { fields with lease := true, left := fields.left || !call.phase.active }
      { call with thread := .loadReading }
  | loadRead (model : Model) (from_ : call.thread = .loadReading) (given : input = .model model) :
    Works locked leased fields call input { fields with llama := some model }
      { call with thread := .loadProving }
  | loadProved (report : NativeLoadReport) (from_ : call.thread = .loadProving) :
    Works locked leased fields call input { fields with loadReport := some report }
      { call with thread := .loadDone (some report) }
  | decodeMissing (from_ : call.thread = .decodeStarted) (missing : fields.llama = none) :
    Works locked leased fields call input fields { call with thread := .decodeDone .crashed }
  | decodeLocked (from_ : call.thread = .decodeStarted) (free : locked = false)
      (present : fields.llama.isSome = true) :
    Works locked leased fields call input fields { call with thread := .decoding }
  | decoded (outcome : LlamaOutcome) (from_ : call.thread = .decoding) :
    Works locked leased fields call input fields { call with thread := .decodeDone outcome }
  | released (from_ : call.thread = .releaseStarted) (free : locked = false) :
    Works locked leased fields call input (released fields) { call with thread := .releaseDone }

variable {fields next : LlamaFields Model} {call after : LlamaCall}

theorem works_of_work {locked leased : Bool} {input : LlamaInput Model}
    (takes : call.work locked leased fields input = some (next, after)) :
    Works locked leased fields call input next after := by
  unfold work at takes
  split at takes
  · rename_i at_
    cases takes
    exact .begun _ (by simp [at_])
  · rename_i at_
    split at takes
    · cases takes
    · rename_i free
      cases takes
      exact .loadLocked at_ (by simpa using free)
  · rename_i at_
    split at takes
    · cases takes
    · cases takes
      exact .loadFailed (by simp [at_])
  · rename_i at_
    split at takes
    · cases takes
    · rename_i free
      cases takes
      exact .loadLeased at_ (by simpa using free)
  · rename_i at_
    cases takes
    exact .loadFailed (by simp [at_])
  · rename_i model at_
    cases takes
    exact .loadRead model at_ rfl
  · rename_i at_
    cases takes
    exact .loadFailed (by simp [at_])
  · rename_i layers total at_
    split at takes
    · cases takes
      exact .loadFailed (by simp [at_])
    · cases takes
      exact .loadProved _ at_
  · rename_i at_
    cases takes
    exact .loadFailed (by simp [at_])
  · rename_i at_
    cases takes
    exact .begun _ (by simp [at_])
  · rename_i at_
    split at takes
    · cases takes
    · rename_i free
      split at takes
      · rename_i missing
        cases takes
        exact .decodeMissing at_ missing
      · rename_i model present
        cases takes
        exact .decodeLocked at_ (by simpa using free) (by rw [present]; rfl)
  · rename_i outcome at_
    cases takes
    exact .decoded outcome at_
  · rename_i at_
    cases takes
    exact .begun _ (by simp [at_])
  · rename_i at_
    split at takes
    · cases takes
    · rename_i free
      cases takes
      exact .released at_ (by simpa using free)
  · cases takes

/-- How the event loop goes on with a call, case by case. -/
inductive Resumes (fields : LlamaFields Model) (call : LlamaCall) :
    LlamaFields Model → LlamaCall → Prop
  | loadReturned (report : NativeLoadReport) (at_ : call.phase = .loadWaiting)
      (done : call.thread = .loadDone (some report)) :
    Resumes fields call { fields with kept := true }
      { call with phase := .returned (.loaded report), thread := .none }
  | loadRaised (at_ : call.phase = .loadWaiting) (done : call.thread = .loadDone none) :
    Resumes fields call fields { call with phase := .loadReleasing, thread := .none }
  | generateLoaded (at_ : call.phase = .generateLoading) (report : NativeLoadReport)
      (done : call.thread = .loadDone (some report)) :
    Resumes fields call { fields with activeRequest := call.request }
      { call with phase := .generateStarting, thread := .none }
  | generateLoadRaised (at_ : call.phase = .generateLoading)
      (done : call.thread = .loadDone none) :
    Resumes fields call fields { call with phase := .generateLoadReleasing, thread := .none }
  | decodes (at_ : call.phase = .generateStarting) (idle : call.thread = .none) :
    Resumes fields call fields { call with phase := .generateDecoding, thread := .decodeQueued }
  | reports (at_ : call.phase = .generateDecoding) (done : call.thread = .decodeDone .answered) :
    Resumes fields call fields { call with phase := .generateReporting, thread := .none }
  | finishes (outcome : LlamaOutcome)
      (at_ : call.phase ∈ [.generateLoading, .generateStarting, .generateDecoding,
        .generateReporting]) (ended : call.thread.ended = true)
      (answers : outcome = .answered → call.phase = .generateReporting) :
    Resumes fields call { fields with activeRequest := "" }
      { call with phase := .finishing outcome, thread := .none }
  | terminated (at_ : call.phase = .terminating) (done : call.thread = .releaseDone) :
    Resumes fields call { fields with stopping := false }
      { call with phase := .returned .terminated, thread := .none }

theorem resumes_of_resume {cancelled raised : Bool}
    (takes : call.resume fields cancelled raised = some (next, after)) :
    Resumes fields call next after := by
  unfold resume at takes
  simp only at takes
  split at takes
  · rename_i report at_ done
    cases takes
    exact .loadReturned report at_ done
  · rename_i at_ done
    cases takes
    exact .loadRaised at_ done
  · rename_i report at_ done
    split at takes
    · cases takes
      exact .finishes _ (by simp [at_]) (by rw [done]; rfl) (fun same => by cases same)
    · cases takes
      exact .generateLoaded at_ report done
  · rename_i at_ done
    cases takes
    exact .generateLoadRaised at_ done
  · rename_i at_ idle
    split at takes
    · cases takes
      exact .finishes _ (by simp [at_]) (by rw [idle]; rfl) (fun same => by cases same)
    · cases takes
      exact .decodes at_ idle
  · rename_i at_ done
    split at takes
    · cases takes
      exact .finishes _ (by simp [at_]) (by rw [done]; rfl) (fun same => by cases same)
    · cases takes
      exact .reports at_ done
  · rename_i at_ done
    cases takes
    exact .finishes _ (by simp [at_]) (by rw [done]; rfl) (fun same => by cases same)
  · rename_i outcome other _ at_ done
    cases takes
    exact .finishes _ (by simp [at_]) (by rw [done]; rfl) fun same =>
      (other same).elim
  · rename_i at_ idle
    cases takes
    exact .finishes _ (by simp [at_]) (by rw [idle]; rfl) fun _ => at_
  · rename_i at_ done
    cases takes
    exact .terminated at_ done
  · cases takes

/-- How a call is cancelled, case by case. -/
inductive Cancels (fields : LlamaFields Model) (call : LlamaCall) :
    LlamaFields Model → LlamaCall → Prop
  | load (at_ : call.phase = .loadWaiting) :
    Cancels fields call { fields with left := fields.left || call.thread.leases }
      { call with phase := .returned .cancelled, thread := withdrawn call.thread }
  | generate
      (at_ : call.phase ∈ [.generateLoading, .generateStarting, .generateDecoding,
        .generateReporting]) :
    Cancels fields call { fields with activeRequest := "" }
      { call with phase := .finishing .cancelled, thread := withdrawn call.thread }
  | terminate (at_ : call.phase = .terminating) :
    Cancels fields call { fields with stopping := false }
      { call with phase := .returned .cancelled, thread := withdrawn call.thread }

theorem cancels_of_cancel (takes : call.cancel fields = some (next, after)) :
    Cancels fields call next after := by
  unfold cancel at takes
  simp only at takes
  split at takes
  · rename_i at_
    cases takes
    exact .load at_
  all_goals first
    | (rename_i at_
       cases takes
       exact .generate (by simp [at_]))
    | (rename_i at_
       cases takes
       exact .terminate at_)
    | cases takes

/-- How a call releases, case by case. -/
inductive Releases (fields : LlamaFields Model) (call : LlamaCall) :
    LlamaFields Model → LlamaCall → Prop
  | load (at_ : call.phase = .loadReleasing) :
    Releases fields call (released fields) { call with phase := .returned (.failed false) }
  | generateLoad (at_ : call.phase = .generateLoadReleasing) :
    Releases fields call { released fields with activeRequest := "" }
      { call with phase := .finishing (.failed false) }
  | finished (outcome : LlamaOutcome) (at_ : call.phase = .finishing outcome) :
    Releases fields call (released fields) { call with phase := .returned outcome }

theorem releases_of_release (takes : call.release fields = some (next, after)) :
    Releases fields call next after := by
  unfold release at takes
  split at takes
  · rename_i at_
    cases takes
    exact .load at_
  · rename_i at_
    cases takes
    exact .generateLoad at_
  · rename_i outcome at_
    cases takes
    exact .finished outcome at_
  · cases takes

end LlamaCall

namespace LlamaRuntime

theorem advance_eq_some {runtime next : LlamaRuntime Model} {index : Nat}
    {effect : LlamaFields Model → LlamaCall → Option (LlamaFields Model × LlamaCall)}
    (advances : runtime.advance index effect = some next) :
    ∃ call fields after, runtime.calls[index]? = some call ∧
      effect runtime.fields call = some (fields, after) ∧
      next = runtime.take index (fields, after) := by
  simp only [advance, Option.bind_eq_bind, Option.bind_eq_some_iff, Option.pure_def,
    Option.some.injEq] at advances
  obtain ⟨call, stored, ⟨fields, after⟩, takes, rfl⟩ := advances
  exact ⟨call, fields, after, stored, takes, rfl⟩

end LlamaRuntime

end Omnitensor
