/-
This file proves that the lease and the model of a runtime stay together.

Any number of processes have any number of runtimes over one lease file. The event loop of a process
runs one step of one call at a time, and none while it is inside a release; threads run at any
moment. A runtime has a model only while it has the lease, no decode loses its model, and what a
runtime keeps when nobody calls it is what a `load` returned or a cancelled call left behind.
-/

import Omnitensor.LlamaRuntime
import Omnitensor.Machine
import Omnitensor.Table

namespace Omnitensor

variable {Model : Type}

/-! ### The host -/

/-- A runtime of some process. -/
structure LlamaInstance (Model : Type) where
  process : Nat
  runtime : LlamaRuntime Model
  deriving DecidableEq

/-- The runtimes of all processes that share the lease file. -/
structure LlamaHost (Model : Type) where
  runtimes : List (LlamaInstance Model)
  deriving DecidableEq

namespace LlamaHost

/-- Something happens on the host. -/
inductive Action (Model : Type) where
  /-- A process makes a runtime. -/
  | create (process : Nat)
  /-- The event loop of a process calls a runtime, or goes on with a call. -/
  | loop (index : Nat) (action : LlamaRuntime.LoopAction)
  /-- The event loop of a process gets the lock it waits for. -/
  | release (index call : Nat)
  /-- A thread takes a step. -/
  | work (index call : Nat) (input : LlamaInput Model)
  deriving DecidableEq

/-- Nobody has made a runtime yet. -/
def start : LlamaHost Model := ⟨[]⟩

/-- Some runtime has the lease. -/
def leased (host : LlamaHost Model) : Bool :=
  host.runtimes.any fun member => member.runtime.fields.lease

/-- The event loop of a process is inside a release. -/
def blocked (host : LlamaHost Model) (process : Nat) : Bool :=
  host.runtimes.any fun member =>
    decide (member.process = process) && member.runtime.releasing

/-- One runtime changes. -/
def change (host : LlamaHost Model) (index : Nat)
    (effect : LlamaInstance Model → Option (LlamaRuntime Model)) : Option (LlamaHost Model) := do
  let member ← host.runtimes[index]?
  let runtime ← effect member
  return ⟨host.runtimes.set index { member with runtime }⟩

/-- One step on the host. -/
def step (host : LlamaHost Model) : Action Model → Option (LlamaHost Model)
  | .create process => some ⟨host.runtimes ++ [⟨process, .new⟩]⟩
  | .loop index action =>
    host.change index fun member =>
      if host.blocked member.process then none else member.runtime.loop action
  | .release index call => host.change index fun member => member.runtime.release call
  | .work index call input =>
    host.change index fun member => member.runtime.work host.leased call input

end LlamaHost

/-! ### One runtime -/

/-- The lease may be held although no call is going to release it. -/
def LlamaFields.retained (fields : LlamaFields Model) : Bool := fields.kept || fields.left

namespace LlamaCall

/-- The call answers for a lease: it releases before it returns, or returns with the model. -/
def answers (call : LlamaCall) : Bool :=
  match call.phase with
  | .loadWaiting => call.thread.leases
  | .loadReleasing | .generateLoading | .generateLoadReleasing | .generateStarting
  | .generateDecoding | .generateReporting | .finishing _ => true
  | .terminating | .returned _ => false

/-- What the fields of a runtime are while a call is where it is. -/
structure Valid (fields : LlamaFields Model) (call : LlamaCall) : Prop where
  leased : call.thread = .loadReading ∨ call.thread = .loadProving → fields.lease = true
  present : call.thread = .loadProving ∨ call.thread = .decoding → fields.llama.isSome = true
  shape : call.thread.loads = true → call.phase = .loadWaiting ∨ call.phase = .generateLoading ∨
    call.phase = .finishing .cancelled ∨ call.phase = .returned .cancelled

/-- The model and the lease stay as they are. -/
structure Quiet (before after : LlamaFields Model) : Prop where
  llama : after.llama = before.llama
  lease : after.lease = before.lease
  retained : before.retained = true → after.retained = true

theorem Quiet.refl (fields : LlamaFields Model) : Quiet fields fields := ⟨rfl, rfl, id⟩

variable {call : LlamaCall} {before after : LlamaFields Model} {thread : LlamaThread}

theorem Valid.of_quiet (quiet : Quiet before after) (valid : Valid before call) :
    Valid after call where
  leased at_ := quiet.lease ▸ valid.leased at_
  present at_ := quiet.llama ▸ valid.present at_
  shape := valid.shape

theorem Valid.of_unlocked (unlocked : call.thread.locks = false) (valid : Valid before call) :
    Valid after call where
  leased at_ := by rcases at_ with at_ | at_ <;> rw [at_] at unlocked <;> cases unlocked
  present at_ := by rcases at_ with at_ | at_ <;> rw [at_] at unlocked <;> cases unlocked
  shape := valid.shape

/-- A thread that does not hold the lock needs nothing of the fields. -/
theorem Valid.moved (valid : Valid before call) (unlocked : thread.locks = false)
    (loads : thread.loads = true → call.thread.loads = true) :
    Valid after { call with thread } where
  leased at_ := by rcases at_ with rfl | rfl <;> cases unlocked
  present at_ := by rcases at_ with rfl | rfl <;> cases unlocked
  shape loading := valid.shape (loads loading)

theorem answers_moved (leases : call.thread.leases = true → thread.leases = true)
    (answers : call.answers = true) : ({ call with thread } : LlamaCall).answers = true := by
  obtain ⟨request, phase, before⟩ := call
  cases phase with
  | loadWaiting => exact leases answers
  | _ => exact answers

theorem locks_withdrawn (holds : (withdrawn thread).locks = true) : thread.locks = true := by
  cases thread <;> exact holds

theorem Valid.withdrawn (quiet : Quiet before after) (valid : Valid before call)
    {phase : LlamaPhase} (shape : phase = .finishing .cancelled ∨ phase = .returned .cancelled) :
    Valid after { call with phase, thread := LlamaCall.withdrawn call.thread } where
  leased at_ := by
    refine quiet.lease ▸ valid.leased ?_
    cases same : call.thread <;> simp [same, LlamaCall.withdrawn] at at_ <;> simp
  present at_ := by
    refine quiet.llama ▸ valid.present ?_
    cases same : call.thread <;> simp [same, LlamaCall.withdrawn] at at_ <;> simp
  shape _ := Or.inr (Or.inr shape)

/-- A call whose thread is gone, or waits to decode. -/
theorem valid_of_idle (fields : LlamaFields Model)
    (idle : call.thread = .none ∨ call.thread = .decodeQueued) : Valid fields call := by
  refine ⟨fun at_ => ?_, fun at_ => ?_, fun loads => ?_⟩
  all_goals rcases idle with idle | idle
  all_goals simp [idle, LlamaThread.loads] at *

end LlamaCall

namespace LlamaRuntime

open LlamaCall

/-- What holds of a runtime in every state. -/
structure Sound (runtime : LlamaRuntime Model) : Prop where
  alone : runtime.calls.countP (fun call => call.thread.locks) ≤ 1
  together : runtime.fields.llama.isSome = true → runtime.fields.lease = true
  valid : ∀ call ∈ runtime.calls, Valid runtime.fields call
  accounted : runtime.fields.lease = true →
    runtime.fields.retained = true ∨ ∃ call ∈ runtime.calls, call.answers = true

theorem sound_new : (new : LlamaRuntime Model).Sound where
  alone := Nat.zero_le _
  together impossible := by cases impossible
  valid _ member := by cases member
  accounted impossible := by cases impossible

variable {runtime next : LlamaRuntime Model} {call after : LlamaCall} {index : Nat}
  {fields : LlamaFields Model} {leased : Bool} {thread : LlamaThread} {action : LoopAction}
  {begun : LlamaFields Model × LlamaCall} {input : LlamaInput Model}

theorem locks_of_locked (free : runtime.locked = false) :
    ∀ call ∈ runtime.calls, call.thread.locks = false := by
  simpa [locked] using free

/-- A call begins. -/
theorem Sound.begin (sound : runtime.Sound) (quiet : Quiet runtime.fields begun.1)
    (unlocked : begun.2.thread.locks = false) (shape : begun.2.thread.loads = true →
      begun.2.phase = .loadWaiting ∨ begun.2.phase = .generateLoading) :
    (runtime.begin begun).Sound where
  alone := by
    rw [LlamaRuntime.begin, List.countP_append, List.countP_singleton, unlocked]
    exact sound.alone
  together present := quiet.lease ▸ sound.together (quiet.llama ▸ present)
  valid call member := by
    rcases List.mem_append.mp member with old | new
    · exact (sound.valid call old).of_quiet quiet
    · obtain rfl := List.mem_singleton.mp new
      refine ⟨fun at_ => ?_, fun at_ => ?_, fun loads => (shape loads).imp_right Or.inl⟩
      · rcases at_ with at_ | at_ <;> rw [at_] at unlocked <;> cases unlocked
      · rcases at_ with at_ | at_ <;> rw [at_] at unlocked <;> cases unlocked
  accounted leased := by
    rcases sound.accounted (quiet.lease ▸ leased) with retained | ⟨call, member, answers⟩
    · exact Or.inl (quiet.retained retained)
    · exact Or.inr ⟨call, List.mem_append_left _ member, answers⟩

/-- A call takes a step. What becomes of its own place, of the places of the others and of the
account is stated for the kind of step. -/
theorem Sound.take (sound : runtime.Sound) (stored : runtime.calls[index]? = some call)
    (locks : after.thread.locks = true → call.thread.locks = true ∨ runtime.locked = false)
    (together : fields.llama.isSome = true → fields.lease = true) (own : Valid fields after)
    (others : ∀ other ∈ runtime.calls, Valid runtime.fields other → Valid fields other)
    (accounted : fields.lease = true → fields.retained = true ∨ after.answers = true ∨
      runtime.fields.lease = true ∧
        (runtime.fields.retained = true → fields.retained = true) ∧ call.answers = false) :
    (runtime.take index (fields, after)).Sound where
  alone := Table.countP_set_le_one sound.alone stored fun holds =>
    (locks holds).imp_right locks_of_locked
  together := together
  valid other member := by
    rcases List.mem_or_eq_of_mem_set member with old | rfl
    · exact others other old (sound.valid other old)
    · exact own
  accounted leased := by
    have present := List.mem_iff_getElem?.mpr ⟨index, (Table.getElem?_set stored after index).trans
      (if_pos rfl)⟩
    rcases accounted leased with retained | answers | ⟨before, keeps, silent⟩
    · exact Or.inl retained
    · exact Or.inr ⟨after, present, answers⟩
    · rcases sound.accounted before with retained | ⟨other, member, answers⟩
      · exact Or.inl (keeps retained)
      · obtain ⟨place, found⟩ := List.mem_iff_getElem?.mp member
        refine Or.inr ⟨other, List.mem_iff_getElem?.mpr ⟨place, ?_⟩, answers⟩
        change (runtime.calls.set index after)[place]? = some other
        rw [Table.getElem?_set stored, if_neg, found]
        rintro rfl
        rw [stored] at found
        rw [Option.some.inj found, answers] at silent
        cases silent

/-- A step that leaves the model and the lease alone. -/
theorem Sound.quiet (sound : runtime.Sound) (stored : runtime.calls[index]? = some call)
    (quiet : Quiet runtime.fields fields)
    (locks : after.thread.locks = true → call.thread.locks = true ∨ runtime.locked = false)
    (own : Valid fields after)
    (answers : call.answers = true → fields.retained = true ∨ after.answers = true) :
    (runtime.take index (fields, after)).Sound :=
  sound.take stored locks (fun present => quiet.lease ▸ sound.together (quiet.llama ▸ present)) own
    (fun _ _ valid => valid.of_quiet quiet) fun leased => by
      cases silent : call.answers with
      | true => exact (answers silent).imp_right Or.inl
      | false => exact Or.inr (Or.inr ⟨quiet.lease ▸ leased, quiet.retained, rfl⟩)

/-- A step that releases. -/
theorem Sound.released (sound : runtime.Sound) (stored : runtime.calls[index]? = some call)
    (free : runtime.locked = false) (closed : fields.llama = none) (given : fields.lease = false)
    (unlocked : after.thread.locks = false)
    (shape : after.thread.loads = true → after.phase = .loadWaiting ∨
      after.phase = .generateLoading ∨ after.phase = .finishing .cancelled ∨
      after.phase = .returned .cancelled) : (runtime.take index (fields, after)).Sound := by
  refine sound.take stored (fun holds => ?_) (fun present => ?_) ⟨fun at_ => ?_, fun at_ => ?_, shape⟩
    (fun other member valid => valid.of_unlocked (locks_of_locked free other member))
    fun leased => ?_
  · rw [unlocked] at holds
    cases holds
  · rw [closed] at present
    cases present
  · rcases at_ with at_ | at_ <;> rw [at_] at unlocked <;> cases unlocked
  · rcases at_ with at_ | at_ <;> rw [at_] at unlocked <;> cases unlocked
  · rw [given] at leased
    cases leased

theorem sound_advance
    {effect : LlamaFields Model → LlamaCall → Option (LlamaFields Model × LlamaCall)}
    (advances : runtime.advance index effect = some next)
    (keeps : ∀ call fields after, runtime.calls[index]? = some call →
      effect runtime.fields call = some (fields, after) →
      (runtime.take index (fields, after)).Sound) : next.Sound := by
  obtain ⟨call, fields, after, stored, takes, rfl⟩ := advance_eq_some advances
  exact keeps call fields after stored takes

theorem sound_release (sound : runtime.Sound) {call : Nat}
    (releases : runtime.release call = some next) : next.Sound := by
  unfold release at releases
  split at releases
  · cases releases
  · rename_i unlocked
    have free : runtime.locked = false := by simpa using unlocked
    refine sound_advance releases fun call fields after stored takes => ?_
    have member := List.mem_iff_getElem?.mpr ⟨_, stored⟩
    have idle := locks_of_locked free call member
    have shape := (sound.valid call member).shape
    cases releases_of_release takes with
    | load at_ =>
      refine sound.released stored free rfl rfl idle fun loads => ?_
      rcases shape loads with place | place | place | place <;> rw [at_] at place <;> cases place
    | generateLoad at_ =>
      refine sound.released stored free rfl rfl idle fun loads => ?_
      rcases shape loads with place | place | place | place <;> rw [at_] at place <;> cases place
    | finished outcome at_ =>
      refine sound.released stored free rfl rfl idle fun loads => ?_
      rcases shape loads with place | place | place | place
      · rw [at_] at place
        cases place
      · rw [at_] at place
        cases place
      · rw [at_] at place
        cases place
        exact Or.inr (Or.inr (Or.inr rfl))
      · rw [at_] at place
        cases place

theorem sound_work (sound : runtime.Sound) {call : Nat}
    (works : runtime.work leased call input = some next) : next.Sound := by
  refine sound_advance works fun call fields after stored takes => ?_
  have member := List.mem_iff_getElem?.mpr ⟨_, stored⟩
  have valid := sound.valid call member
  cases works_of_work takes with
  | begun thread from_ =>
    simp only [List.mem_cons, Prod.mk.injEq, List.not_mem_nil, or_false] at from_
    rcases from_ with ⟨place, rfl⟩ | ⟨place, rfl⟩ | ⟨place, rfl⟩
    all_goals
      exact sound.quiet stored (Quiet.refl _) (fun holds => by cases holds)
        (valid.moved rfl (by simp [place, LlamaThread.loads]))
        fun answers => Or.inr (answers_moved (by simp [place, LlamaThread.leases, LlamaThread.loads,
          LlamaThread.unleased]) answers)
  | loadLocked place free =>
    refine sound.quiet stored (Quiet.refl _) (fun _ => Or.inr free) ⟨?_, ?_, fun _ => ?_⟩
      fun answers => Or.inr (answers_moved (by simp [place, LlamaThread.leases, LlamaThread.loads,
        LlamaThread.unleased]) answers)
    · rintro (at_ | at_) <;> cases at_
    · rintro (at_ | at_) <;> cases at_
    · exact valid.shape (by rw [place]; rfl)
  | loadFailed place =>
    have loads : call.thread.loads = true := by
      simp only [List.mem_cons, List.not_mem_nil, or_false] at place
      rcases place with place | place | place | place <;> rw [place] <;> rfl
    exact sound.quiet stored (Quiet.refl _) (fun holds => by cases holds)
      (valid.moved rfl fun _ => loads)
      fun answers => Or.inr (answers_moved (fun _ => rfl) answers)
  | loadLeased place free =>
    have shape := valid.shape (by rw [place]; rfl)
    refine sound.take stored (fun _ => Or.inl (by rw [place]; rfl)) (fun _ => rfl)
      ⟨fun _ => rfl, fun at_ => by simp at at_, fun _ => shape⟩
      (fun other _ valid => ⟨fun _ => rfl, valid.present, valid.shape⟩) fun _ => ?_
    rcases shape with at_ | at_ | at_ | at_
    · exact Or.inr (Or.inl (by rw [LlamaCall.answers, at_]; rfl))
    · exact Or.inr (Or.inl (by rw [LlamaCall.answers, at_]))
    · exact Or.inr (Or.inl (by rw [LlamaCall.answers, at_]))
    · exact Or.inl (by simp [LlamaFields.retained, at_, LlamaPhase.active])
  | loadRead model place given =>
    have leased := valid.leased (Or.inl place)
    refine sound.take stored (fun _ => Or.inl (by rw [place]; rfl)) (fun _ => leased)
      ⟨fun _ => leased, fun _ => rfl, fun _ => valid.shape (by rw [place]; rfl)⟩
      (fun other _ valid => ⟨valid.leased, fun _ => rfl, valid.shape⟩) fun _ => ?_
    cases silent : call.answers with
    | true =>
      exact Or.inr (Or.inl (answers_moved (fun _ => rfl) silent))
    | false => exact Or.inr (Or.inr ⟨leased, id, rfl⟩)
  | loadProved report place =>
    exact sound.quiet stored ⟨rfl, rfl, id⟩ (fun holds => by cases holds)
      (valid.moved rfl fun _ => by rw [place]; rfl)
      fun answers => Or.inr (answers_moved (fun _ => rfl) answers)
  | decodeMissing place missing =>
    exact sound.quiet stored (Quiet.refl _) (fun holds => by cases holds)
      (valid.moved rfl fun loads => by cases loads)
      fun answers => Or.inr (answers_moved (by simp [place, LlamaThread.leases, LlamaThread.loads]) answers)
  | decodeLocked place free present =>
    refine sound.quiet stored (Quiet.refl _) (fun _ => Or.inr free) ⟨?_, fun _ => present, ?_⟩
      fun answers => Or.inr (answers_moved (by simp [place, LlamaThread.leases, LlamaThread.loads]) answers)
    · rintro (at_ | at_) <;> cases at_
    · intro loads
      cases loads
  | decoded outcome place =>
    exact sound.quiet stored (Quiet.refl _) (fun holds => by cases holds)
      (valid.moved rfl fun loads => by cases loads)
      fun answers => Or.inr (answers_moved (by simp [place, LlamaThread.leases, LlamaThread.loads]) answers)
  | released place free =>
    exact sound.released stored free rfl rfl rfl fun loads => by cases loads

theorem quiet_load (fields : LlamaFields Model) (path : String) (usable : Bool) :
    Quiet fields (LlamaCall.load fields path usable).1 ∧
      (LlamaCall.load fields path usable).2.thread.locks = false ∧
      ((LlamaCall.load fields path usable).2.thread.loads = true →
        (LlamaCall.load fields path usable).2.phase = .loadWaiting) := by
  unfold LlamaCall.load
  split
  · split
    · exact ⟨⟨rfl, rfl, fun _ => rfl⟩, rfl, fun impossible => by cases impossible⟩
    · exact ⟨Quiet.refl _, rfl, fun impossible => by cases impossible⟩
    · exact ⟨⟨rfl, rfl, id⟩, rfl, fun _ => rfl⟩
  · exact ⟨Quiet.refl _, rfl, fun impossible => by cases impossible⟩

theorem quiet_generate (fields : LlamaFields Model) (request : String) (cancelled usable : Bool) :
    Quiet fields (LlamaCall.generate fields request cancelled usable).1 ∧
      (LlamaCall.generate fields request cancelled usable).2.thread.locks = false ∧
      ((LlamaCall.generate fields request cancelled usable).2.thread.loads = true →
        (LlamaCall.generate fields request cancelled usable).2.phase = .generateLoading) := by
  unfold LlamaCall.generate
  simp only
  split
  · exact ⟨Quiet.refl _, rfl, fun impossible => by cases impossible⟩
  · split
    · exact ⟨⟨rfl, rfl, id⟩, rfl, fun impossible => by cases impossible⟩
    · split
      · exact ⟨⟨rfl, rfl, id⟩, rfl, fun impossible => by cases impossible⟩
      · split
        · exact ⟨Quiet.refl _, rfl, fun _ => rfl⟩
        · exact ⟨⟨rfl, rfl, id⟩, rfl, fun impossible => by cases impossible⟩

theorem quiet_terminate (fields : LlamaFields Model) (request : String) :
    Quiet fields (LlamaCall.terminate fields request).1 ∧
      (LlamaCall.terminate fields request).2.thread.locks = false ∧
      (LlamaCall.terminate fields request).2.thread.loads = false := by
  unfold LlamaCall.terminate
  split
  · exact ⟨⟨rfl, rfl, id⟩, rfl, rfl⟩
  · exact ⟨Quiet.refl _, rfl, rfl⟩

theorem sound_resume (sound : runtime.Sound) (stored : runtime.calls[index]? = some call)
    (resumes : Resumes runtime.fields call fields after) :
    (runtime.take index (fields, after)).Sound := by
  cases resumes with
  | loadReturned report at_ done =>
    exact sound.quiet stored ⟨rfl, rfl, fun _ => rfl⟩ (fun holds => by cases holds)
      (valid_of_idle _ (Or.inl rfl)) fun _ => Or.inl rfl
  | loadRaised at_ done | generateLoaded at_ report done | generateLoadRaised at_ done
  | reports at_ done | finishes outcome at_ ended answers =>
    exact sound.quiet stored ⟨rfl, rfl, id⟩ (fun holds => by cases holds)
      (valid_of_idle _ (Or.inl rfl)) fun _ => Or.inr rfl
  | decodes at_ idle =>
    exact sound.quiet stored ⟨rfl, rfl, id⟩ (fun holds => by cases holds)
      (valid_of_idle _ (Or.inr rfl)) fun _ => Or.inr rfl
  | terminated at_ done =>
    refine sound.quiet stored ⟨rfl, rfl, id⟩ (fun holds => by cases holds)
      (valid_of_idle _ (Or.inl rfl)) fun answers => ?_
    simp [LlamaCall.answers, at_] at answers

theorem sound_cancel (sound : runtime.Sound) (stored : runtime.calls[index]? = some call)
    (cancels : Cancels runtime.fields call fields after) :
    (runtime.take index (fields, after)).Sound := by
  have valid := sound.valid call (List.mem_iff_getElem?.mpr ⟨_, stored⟩)
  cases cancels with
  | load at_ =>
    have quiet : Quiet runtime.fields
        { runtime.fields with left := runtime.fields.left || call.thread.leases } := by
      refine ⟨rfl, rfl, fun retained => ?_⟩
      simp only [LlamaFields.retained, Bool.or_eq_true] at retained ⊢
      exact retained.imp_right Or.inl
    refine sound.quiet stored quiet (fun holds => Or.inl (locks_withdrawn holds))
      (valid.withdrawn quiet (Or.inr rfl)) fun answers => Or.inl ?_
    have leases : call.thread.leases = true := by simpa [LlamaCall.answers, at_] using answers
    simp [LlamaFields.retained, leases]
  | generate at_ =>
    have quiet : Quiet runtime.fields { runtime.fields with activeRequest := "" } :=
      ⟨rfl, rfl, id⟩
    exact sound.quiet stored quiet (fun holds => Or.inl (locks_withdrawn holds))
      (valid.withdrawn quiet (Or.inl rfl)) fun _ => Or.inr rfl
  | terminate at_ =>
    have quiet : Quiet runtime.fields { runtime.fields with stopping := false } :=
      ⟨rfl, rfl, id⟩
    refine sound.quiet stored quiet (fun holds => Or.inl (locks_withdrawn holds))
      (valid.withdrawn quiet (Or.inr rfl)) fun answers => ?_
    simp [LlamaCall.answers, at_] at answers

theorem sound_loop (sound : runtime.Sound) (loops : runtime.loop action = some next) :
    next.Sound := by
  unfold loop at loops
  cases action with
  | load path usable =>
    obtain rfl := Option.some.inj loops
    obtain ⟨quiet, unlocked, shape⟩ := quiet_load runtime.fields path usable
    exact sound.begin quiet unlocked fun loads => Or.inl (shape loads)
  | generate request cancelled usable =>
    obtain rfl := Option.some.inj loops
    obtain ⟨quiet, unlocked, shape⟩ := quiet_generate runtime.fields request cancelled usable
    exact sound.begin quiet unlocked fun loads => Or.inr (shape loads)
  | terminate request =>
    obtain rfl := Option.some.inj loops
    obtain ⟨quiet, unlocked, idle⟩ := quiet_terminate runtime.fields request
    exact sound.begin quiet unlocked fun loads => by rw [idle] at loads; cases loads
  | resume index cancelled raised =>
    exact sound_advance loops fun _ _ _ stored takes =>
      sound_resume sound stored (resumes_of_resume takes)
  | cancel index =>
    exact sound_advance loops fun _ _ _ stored takes =>
      sound_cancel sound stored (cancels_of_cancel takes)

/-! ### What a step does to the model and the lease -/

/-- The model and the lease of a runtime change together, in one of three ways. -/
inductive Changes (leased : Bool) (runtime : LlamaRuntime Model) : LlamaFields Model → Prop
  | same {fields : LlamaFields Model} (llama : fields.llama = runtime.fields.llama)
      (lease : fields.lease = runtime.fields.lease) : Changes leased runtime fields
  | released {fields : LlamaFields Model} (free : runtime.locked = false)
      (closed : fields.llama = none) (given : fields.lease = false) : Changes leased runtime fields
  | taken {fields : LlamaFields Model} (free : leased = false)
      (llama : fields.llama = runtime.fields.llama) : Changes leased runtime fields
  | read {fields : LlamaFields Model} (index : Nat) (call : LlamaCall)
      (stored : runtime.calls[index]? = some call) (reading : call.thread = .loadReading)
      (lease : fields.lease = runtime.fields.lease) : Changes leased runtime fields

/-- A step of a runtime, whoever takes it. -/
inductive Moves (leased : Bool) (runtime next : LlamaRuntime Model) : Prop
  | loop (action : LoopAction) (loops : runtime.loop action = some next)
  | release (call : Nat) (releases : runtime.release call = some next)
  | work (call : Nat) (input : LlamaInput Model) (works : runtime.work leased call input = some next)

theorem Sound.moves (sound : runtime.Sound) (moves : runtime.Moves leased next) : next.Sound := by
  cases moves with
  | loop action loops => exact sound_loop sound loops
  | release call releases => exact sound_release sound releases
  | work call input works => exact sound_work sound works

theorem changes_of_loop (loops : runtime.loop action = some next) :
    runtime.Changes leased next.fields := by
  unfold loop at loops
  cases action with
  | load path usable =>
    obtain rfl := Option.some.inj loops
    have quiet := (quiet_load runtime.fields path usable).1
    exact .same quiet.llama quiet.lease
  | generate request cancelled usable =>
    obtain rfl := Option.some.inj loops
    have quiet := (quiet_generate runtime.fields request cancelled usable).1
    exact .same quiet.llama quiet.lease
  | terminate request =>
    obtain rfl := Option.some.inj loops
    have quiet := (quiet_terminate runtime.fields request).1
    exact .same quiet.llama quiet.lease
  | resume index cancelled raised =>
    obtain ⟨call, fields, after, stored, takes, rfl⟩ := advance_eq_some loops
    cases resumes_of_resume takes <;> exact .same rfl rfl
  | cancel index =>
    obtain ⟨call, fields, after, stored, takes, rfl⟩ := advance_eq_some loops
    cases cancels_of_cancel takes <;> exact .same rfl rfl

theorem changes_of_moves (moves : runtime.Moves leased next) :
    runtime.Changes leased next.fields := by
  cases moves with
  | loop action loops => exact changes_of_loop loops
  | release call releases =>
    unfold release at releases
    split at releases
    · cases releases
    · rename_i unlocked
      have free : runtime.locked = false := by simpa using unlocked
      obtain ⟨call, fields, after, stored, takes, rfl⟩ := advance_eq_some releases
      cases releases_of_release takes <;> exact .released free rfl rfl
  | work call input works =>
    obtain ⟨call, fields, after, stored, takes, rfl⟩ := advance_eq_some works
    cases works_of_work takes with
    | loadLeased place free => exact .taken free rfl
    | loadRead model place given => exact .read _ call stored place rfl
    | released place free => exact .released free rfl rfl
    | _ => exact .same rfl rfl

/-- A decode keeps its model through every step. -/
theorem llama_of_decoding (sound : runtime.Sound) (moves : runtime.Moves leased next)
    (member : call ∈ runtime.calls) (decodes : call.thread = .decoding) :
    next.fields.llama = runtime.fields.llama := by
  have locks : call.thread.locks = true := by rw [decodes]; rfl
  cases changes_of_moves moves with
  | same llama lease => exact llama
  | released free closed given =>
    rw [locks_of_locked free call member] at locks
    cases locks
  | taken free llama => exact llama
  | read index other stored reading lease =>
    -- Two threads would have the lock.
    obtain ⟨place, found⟩ := List.mem_iff_getElem?.mp member
    have same := Table.place_eq_of_countP_le_one sound.alone found stored locks
      (by rw [reading]; rfl)
    rw [same, stored, Option.some.injEq] at found
    rw [← found, reading] at decodes
    cases decodes

/-- A runtime that gets the lease found it free. -/
theorem lease_of_moves (moves : runtime.Moves leased next) (holds : next.fields.lease = true) :
    runtime.fields.lease = true ∨ leased = false := by
  cases changes_of_moves moves with
  | same llama lease => exact Or.inl (lease ▸ holds)
  | released free closed given =>
    rw [given] at holds
    cases holds
  | taken free llama => exact Or.inr free
  | read index other stored reading lease => exact Or.inl (lease ▸ holds)

/-! ### Loads one at a time -/

/-- The action begins a load. -/
def beginsLoad (runtime : LlamaRuntime Model) : LoopAction → Bool
  | .load path usable => (LlamaCall.load runtime.fields path usable).2.thread.loading
  | .generate request cancelled usable =>
    (LlamaCall.generate runtime.fields request cancelled usable).2.thread.loading
  | _ => false

/-- No load is under way, and none has left its lease. -/
def quietForLoad (runtime : LlamaRuntime Model) : Bool :=
  !runtime.fields.lease && runtime.calls.all fun call => !call.thread.loading

/-- At most one load is under way, and it is the first to take the lease. -/
structure Solitary (runtime : LlamaRuntime Model) : Prop where
  few : runtime.calls.countP (fun call => call.thread.loading) ≤ 1
  unleased : ∀ call ∈ runtime.calls, call.thread.unleased = true → runtime.fields.lease = false

theorem solitary_new : (new : LlamaRuntime Model).Solitary where
  few := Nat.zero_le _
  unleased _ member := by cases member

theorem loading_of_unleased (early : thread.unleased = true) : thread.loading = true := by
  cases thread <;> first | rfl | cases early

theorem unleased_of_idle (idle : thread.loading = false) : thread.unleased = false :=
  Bool.eq_false_iff.mpr fun early => by
    rw [loading_of_unleased early] at idle
    cases idle

theorem Solitary.begin (solitary : runtime.Solitary) (lease : begun.1.lease = runtime.fields.lease)
    (alone : begun.2.thread.loading = true → runtime.quietForLoad = true) :
    (runtime.begin begun).Solitary where
  few := by
    rw [LlamaRuntime.begin, List.countP_append, List.countP_singleton]
    cases starts : begun.2.thread.loading with
    | false => exact solitary.few
    | true =>
      have quiet := alone starts
      simp only [quietForLoad, Bool.and_eq_true, List.all_eq_true, Bool.not_eq_true'] at quiet
      have none : runtime.calls.countP (fun call => call.thread.loading) = 0 := by
        rw [List.countP_eq_zero]
        intro call member
        rw [quiet.2 call member]
        exact Bool.false_ne_true
      rw [none]
      exact Nat.le_refl 1
  unleased call member early := by
    refine lease.trans ?_
    rcases List.mem_append.mp member with old | new
    · exact solitary.unleased call old early
    · obtain rfl := List.mem_singleton.mp new
      have quiet := alone (loading_of_unleased early)
      simp only [quietForLoad, Bool.and_eq_true, Bool.not_eq_true'] at quiet
      exact quiet.1

theorem Solitary.take (solitary : runtime.Solitary) (stored : runtime.calls[index]? = some call)
    (loading : after.thread.loading = true → call.thread.loading = true)
    (unleased : after.thread.unleased = true → call.thread.unleased = true)
    (lease : fields.lease = true → runtime.fields.lease = true ∨
      call.thread.loading = true ∧ after.thread.unleased = false) :
    (runtime.take index (fields, after)).Solitary where
  few := Table.countP_set_le_one solitary.few stored fun holds => Or.inl (loading holds)
  unleased other member early := by
    refine Bool.eq_false_iff.mpr fun leased => ?_
    obtain ⟨place, found⟩ := List.mem_iff_getElem?.mp member
    change (runtime.calls.set index after)[place]? = some other at found
    rw [Table.getElem?_set stored] at found
    split at found
    · cases found
      rcases lease leased with before | ⟨-, late⟩
      · rw [solitary.unleased call (List.mem_of_getElem? stored) (unleased early)] at before
        cases before
      · rw [early] at late
        cases late
    · rename_i elsewhere
      rcases lease leased with before | ⟨loads, -⟩
      · rw [solitary.unleased other (List.mem_of_getElem? found) early] at before
        cases before
      · exact elsewhere (Table.place_eq_of_countP_le_one solitary.few found stored
          (loading_of_unleased early) loads)

/-- A step of a call that is not a load, or does not become one. -/
theorem Solitary.idle (solitary : runtime.Solitary) (stored : runtime.calls[index]? = some call)
    (idle : after.thread.loading = false)
    (lease : fields.lease = true → runtime.fields.lease = true) :
    (runtime.take index (fields, after)).Solitary :=
  solitary.take stored (fun loads => by rw [idle] at loads; cases loads)
    (fun early => by rw [unleased_of_idle idle] at early; cases early)
    fun leased => Or.inl (lease leased)

theorem solitary_work (solitary : runtime.Solitary) {call : Nat}
    (works : runtime.work leased call input = some next) : next.Solitary := by
  obtain ⟨call, fields, after, stored, takes, rfl⟩ := advance_eq_some works
  cases works_of_work takes with
  | begun thread from_ =>
    simp only [List.mem_cons, Prod.mk.injEq, List.not_mem_nil, or_false] at from_
    rcases from_ with ⟨place, rfl⟩ | ⟨place, rfl⟩ | ⟨place, rfl⟩
    · exact solitary.take stored (fun _ => by rw [place]; rfl) (fun _ => by rw [place]; rfl) Or.inl
    · exact solitary.idle stored rfl id
    · exact solitary.idle stored rfl id
  | loadLocked place free =>
    exact solitary.take stored (fun _ => by rw [place]; rfl) (fun _ => by rw [place]; rfl) Or.inl
  | loadLeased place free =>
    exact solitary.take stored (fun _ => by rw [place]; rfl) (fun early => by cases early)
      fun _ => Or.inr ⟨by rw [place]; rfl, rfl⟩
  | loadRead model place given =>
    exact solitary.take stored (fun _ => by rw [place]; rfl) (fun early => by cases early) Or.inl
  | released place free => exact solitary.idle stored rfl fun holds => by cases holds
  | _ => exact solitary.idle stored rfl id

theorem loading_withdrawn (loads : (withdrawn thread).loading = true) : thread.loading = true := by
  cases thread <;> first | exact loads | rfl

theorem unleased_withdrawn (early : (withdrawn thread).unleased = true) :
    thread.unleased = true := by
  cases thread <;> first | exact early | rfl

theorem solitary_loop (solitary : runtime.Solitary)
    (alone : runtime.beginsLoad action = true → runtime.quietForLoad = true)
    (loops : runtime.loop action = some next) : next.Solitary := by
  unfold loop at loops
  cases action with
  | load path usable =>
    obtain rfl := Option.some.inj loops
    exact solitary.begin (quiet_load runtime.fields path usable).1.lease alone
  | generate request cancelled usable =>
    obtain rfl := Option.some.inj loops
    exact solitary.begin (quiet_generate runtime.fields request cancelled usable).1.lease alone
  | terminate request =>
    obtain rfl := Option.some.inj loops
    obtain ⟨quiet, unlocked, idle⟩ := quiet_terminate runtime.fields request
    refine solitary.begin quiet.lease fun starts => ?_
    unfold LlamaCall.terminate at starts
    split at starts <;> cases starts
  | resume index cancelled raised =>
    obtain ⟨call, fields, after, stored, takes, rfl⟩ := advance_eq_some loops
    cases resumes_of_resume takes <;> exact solitary.idle stored rfl id
  | cancel index =>
    obtain ⟨call, fields, after, stored, takes, rfl⟩ := advance_eq_some loops
    cases cancels_of_cancel takes <;>
      exact solitary.take stored loading_withdrawn unleased_withdrawn Or.inl

theorem solitary_release (solitary : runtime.Solitary) {call : Nat}
    (releases : runtime.release call = some next) : next.Solitary := by
  unfold release at releases
  split at releases
  · cases releases
  · obtain ⟨call, fields, after, stored, takes, rfl⟩ := advance_eq_some releases
    cases releases_of_release takes <;>
      exact solitary.take stored id id fun leased => by cases leased

end LlamaRuntime

/-! ### All runtimes -/

namespace LlamaHost

open LlamaRuntime

variable {host next : LlamaHost Model} {action : Action Model}

theorem change_eq_some {index : Nat} {effect : LlamaInstance Model → Option (LlamaRuntime Model)}
    (changes : host.change index effect = some next) :
    ∃ member runtime, host.runtimes[index]? = some member ∧ effect member = some runtime ∧
      next = ⟨host.runtimes.set index { member with runtime }⟩ := by
  simp only [change, Option.bind_eq_bind, Option.bind_eq_some_iff, Option.pure_def,
    Option.some.injEq] at changes
  obtain ⟨member, stored, runtime, moves, rfl⟩ := changes
  exact ⟨member, runtime, stored, moves, rfl⟩

/-- A step on the host makes a runtime, or is a step of one. -/
inductive Steps (host : LlamaHost Model) : LlamaHost Model → Prop
  | create (process : Nat) : Steps host ⟨host.runtimes ++ [⟨process, .new⟩]⟩
  | change (index : Nat) (member : LlamaInstance Model) (runtime : LlamaRuntime Model)
      (stored : host.runtimes[index]? = some member)
      (moves : member.runtime.Moves host.leased runtime) :
    Steps host ⟨host.runtimes.set index { member with runtime }⟩

theorem steps_of_step (steps : host.step action = some next) : host.Steps next := by
  cases action with
  | create process =>
    obtain rfl := Option.some.inj steps
    exact .create process
  | loop index action =>
    obtain ⟨member, runtime, stored, loops, rfl⟩ := change_eq_some steps
    split at loops
    · cases loops
    · exact .change index member runtime stored (.loop action loops)
  | release index call =>
    obtain ⟨member, runtime, stored, releases, rfl⟩ := change_eq_some steps
    exact .change index member runtime stored (.release call releases)
  | work index call input =>
    obtain ⟨member, runtime, stored, works, rfl⟩ := change_eq_some steps
    exact .change index member runtime stored (.work call input works)

/-- What holds of the runtimes of a host in every state. -/
structure Sound (host : LlamaHost Model) : Prop where
  each : ∀ member ∈ host.runtimes, member.runtime.Sound
  exclusive : host.runtimes.countP (fun member => member.runtime.fields.lease) ≤ 1

theorem sound_start : (start : LlamaHost Model).Sound where
  each _ member := by cases member
  exclusive := Nat.zero_le _

theorem Sound.step (sound : host.Sound) (steps : host.step action = some next) : next.Sound := by
  cases steps_of_step steps with
  | create process =>
    refine ⟨fun member present => ?_, ?_⟩
    · rcases List.mem_append.mp present with old | new
      · exact sound.each member old
      · obtain rfl := List.mem_singleton.mp new
        exact sound_new
    · rw [List.countP_append]
      exact sound.exclusive
  | change index member runtime stored moves =>
    refine ⟨fun other present => ?_, ?_⟩
    · rcases List.mem_or_eq_of_mem_set present with old | rfl
      · exact sound.each other old
      · exact (sound.each member (List.mem_of_getElem? stored)).moves moves
    · refine Table.countP_set_le_one sound.exclusive stored fun holds => ?_
      refine (lease_of_moves moves holds).imp_right fun free other present => ?_
      exact Bool.eq_false_iff.mpr fun held => by
        rw [leased, List.any_eq_false] at free
        exact free other present held

theorem sound_of_run {actions : List (Action Model)}
    (runs : Machine.run step start actions = some host) : host.Sound :=
  Machine.invariant_run Sound (fun _ _ _ sound steps => sound.step steps) sound_start runs

/-- A call that begins a load of a runtime begins it while no other load is under way. -/
def LoadsAlone (host : LlamaHost Model) : Action Model → Prop
  | .loop index action => ∀ member ∈ host.runtimes[index]?,
    member.runtime.beginsLoad action = true → member.runtime.quietForLoad = true
  | _ => True

instance (host : LlamaHost Model) : (action : Action Model) → Decidable (host.LoadsAlone action)
  | .loop index action => inferInstanceAs (Decidable (∀ member ∈ host.runtimes[index]?,
      member.runtime.beginsLoad action = true → member.runtime.quietForLoad = true))
  | .create _ | .release _ _ | .work _ _ _ => inferInstanceAs (Decidable True)

theorem solitary_step (solitary : ∀ member ∈ host.runtimes, member.runtime.Solitary)
    (alone : host.LoadsAlone action) (steps : host.step action = some next) :
    ∀ member ∈ next.runtimes, member.runtime.Solitary := by
  have kept : ∀ {index : Nat} {member : LlamaInstance Model} {runtime : LlamaRuntime Model},
      runtime.Solitary →
      ∀ other ∈ host.runtimes.set index { member with runtime }, other.runtime.Solitary := by
    intro index member runtime own other present
    rcases List.mem_or_eq_of_mem_set present with old | rfl
    · exact solitary other old
    · exact own
  cases action with
  | create process =>
    obtain rfl := Option.some.inj steps
    intro member present
    rcases List.mem_append.mp present with old | new
    · exact solitary member old
    · obtain rfl := List.mem_singleton.mp new
      exact solitary_new
  | loop index action =>
    obtain ⟨member, runtime, stored, loops, rfl⟩ := change_eq_some steps
    split at loops
    · cases loops
    · exact kept (solitary_loop (solitary member (List.mem_of_getElem? stored))
        (alone member stored) loops)
  | release index call =>
    obtain ⟨member, runtime, stored, releases, rfl⟩ := change_eq_some steps
    exact kept (solitary_release (solitary member (List.mem_of_getElem? stored)) releases)
  | work index call input =>
    obtain ⟨member, runtime, stored, works, rfl⟩ := change_eq_some steps
    exact kept (solitary_work (solitary member (List.mem_of_getElem? stored)) works)

end LlamaHost

/-- Every call on the runtime has returned. -/
def LlamaRuntime.idle (runtime : LlamaRuntime Model) : Bool :=
  runtime.calls.all fun call => !call.phase.active

theorem LlamaRuntime.Sound.retained {runtime : LlamaRuntime Model} (sound : runtime.Sound)
    (idle : runtime.idle = true)
    (holds : runtime.fields.llama.isSome = true ∨ runtime.fields.lease = true) :
    runtime.fields.kept = true ∨ runtime.fields.left = true := by
  rcases sound.accounted (holds.elim sound.together id) with retained | ⟨call, member, answers⟩
  · simpa [LlamaFields.retained] using retained
  · have returned := List.all_eq_true.mp idle call member
    cases place : call.phase <;> simp [place, LlamaPhase.active, LlamaCall.answers] at *

namespace LlamaHost

theorem Sound.decoding {host next : LlamaHost Model} {action : Action Model} (sound : host.Sound)
    (steps : host.step action = some next) {index : Nat} {member : LlamaInstance Model}
    (stored : host.runtimes[index]? = some member) {call : LlamaCall}
    (present : call ∈ member.runtime.calls) (decodes : call.thread = .decoding) :
    ∃ after : LlamaInstance Model, next.runtimes[index]? = some after ∧
      after.runtime.fields.llama = member.runtime.fields.llama := by
  cases steps_of_step steps with
  | create process =>
    refine ⟨member, ?_, rfl⟩
    exact (List.getElem?_append_left (List.getElem?_eq_some_iff.mp stored).1).trans stored
  | change place changed runtime found moves =>
    have read := Table.getElem?_set found { changed with runtime } index
    split at read
    · rename_i same
      subst same
      rw [stored, Option.some.injEq] at found
      subst found
      exact ⟨_, read, LlamaRuntime.llama_of_decoding (sound.each member (List.mem_of_getElem? stored)) moves
        present decodes⟩
    · exact ⟨member, read.trans stored, rfl⟩

/-- After every run: no step closes a model that a decode reads; a model is there only with the
lease, which one runtime at most has; what a runtime holds when all its calls have returned is what
a `load` returned with or a cancelled one left; and no load waits for the lease of its own runtime
when each began alone. -/
theorem model_and_lease_together {actions : List (Action Model)} {host : LlamaHost Model}
    (runs : Machine.run step start actions = some host) :
    (∀ (action : Action Model) (next : LlamaHost Model), step host action = some next →
      ∀ (index : Nat) (member : LlamaInstance Model), host.runtimes[index]? = some member →
      ∀ call ∈ member.runtime.calls, call.thread = .decoding →
        member.runtime.fields.llama.isSome = true ∧ ∃ after : LlamaInstance Model,
          next.runtimes[index]? = some after ∧
            after.runtime.fields.llama = member.runtime.fields.llama) ∧
    (∀ member ∈ host.runtimes,
      member.runtime.fields.llama.isSome = true → member.runtime.fields.lease = true) ∧
    (∀ (first second : Nat) (one other : LlamaInstance Model),
      host.runtimes[first]? = some one → host.runtimes[second]? = some other →
      one.runtime.fields.lease = true → other.runtime.fields.lease = true → first = second) ∧
    (∀ member ∈ host.runtimes, member.runtime.idle = true →
      member.runtime.fields.llama.isSome = true ∨ member.runtime.fields.lease = true →
        member.runtime.fields.kept = true ∨ member.runtime.fields.left = true) ∧
    (Machine.Throughout step LoadsAlone start actions → ∀ member ∈ host.runtimes,
      ∀ call ∈ member.runtime.calls, call.thread = .loadLeasing →
        member.runtime.fields.lease = false) := by
  have sound := sound_of_run runs
  refine ⟨fun action next steps index member stored call present decodes => ?_,
    fun member present => (sound.each member present).together,
    fun first second one other found => Table.place_eq_of_countP_le_one sound.exclusive found,
    fun member present => (sound.each member present).retained,
    fun throughout member present call waiting place => ?_⟩
  · have own := sound.each member (List.mem_of_getElem? stored)
    exact ⟨(own.valid call present).present (Or.inr decodes),
      sound.decoding steps stored present decodes⟩
  · have solitary := Machine.invariant_run_throughout
      (fun host : LlamaHost Model => ∀ member ∈ host.runtimes, member.runtime.Solitary)
      (fun _ _ _ solitary alone steps => solitary_step solitary alone steps)
      (fun _ impossible => by cases impossible) throughout runs
    exact (solitary member present).unleased call waiting (by rw [place]; rfl)

/-- A load with its report, as one runtime of one process makes it. -/
def loadActions : List (Action Unit) :=
  [.create 0, .loop 0 (.load "model.gguf" true), .work 0 0 .proceed, .work 0 0 .proceed,
    .work 0 0 .proceed, .work 0 0 (.model ()), .work 0 0 (.offload 8 8)]

theorem model_and_lease_together_load :
    ∃ host, Machine.run step start loadActions = some host ∧
      ∀ member ∈ host.runtimes, ∀ call ∈ member.runtime.calls, call.thread = .loadLeasing →
        member.runtime.fields.lease = false :=
  ⟨_, rfl, (@model_and_lease_together Unit loadActions _ rfl).2.2.2.2 (by decide)⟩

/-- A `load` returns with the model and the lease, and of two loads of one runtime the second waits
for the lease of the first. -/
theorem load_keeps_lease :
    (∃ host, Machine.run step start (loadActions ++ [.loop 0 (.resume 0 false false)]) = some host ∧
      ∃ member ∈ host.runtimes, member.runtime.idle = true ∧
        member.runtime.fields.llama.isSome = true ∧ member.runtime.fields.lease = true) ∧
    ∃ host : LlamaHost Unit, Machine.run step start
      [.create 0, .loop 0 (.load "model.gguf" true), .loop 0 (.load "model.gguf" true),
        .work 0 0 .proceed, .work 0 0 .proceed, .work 0 0 .proceed, .work 0 0 (.model ()),
        .work 0 0 (.offload 8 8), .work 0 1 .proceed, .work 0 1 .proceed] = some host ∧
      ∃ member ∈ host.runtimes, ∃ call ∈ member.runtime.calls, call.thread = .loadLeasing ∧
        member.runtime.fields.lease = true := by
  refine ⟨⟨_, rfl, _, List.mem_singleton_self _, rfl, rfl, rfl⟩,
    ⟨_, rfl, _, List.mem_singleton_self _, _, List.mem_cons_of_mem _ (List.mem_singleton_self _),
      rfl, rfl⟩⟩

end LlamaHost

end Omnitensor
