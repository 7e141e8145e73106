/-
This file says how often a job is delivered.

Between the time a key is accepted and the time it is accepted again, one submission leads it, and its
attempts run one after the other; only the one that the submission waits for can deliver. So a key is
delivered once as long as no attempt is made after one that has delivered, and no attempt ends while
the delivery that it started goes on. Neither is certain: an attempt that is silent is made again
whatever it has done, and one that is cancelled twice leaves its stage to itself.
-/

import Omnitensor.PipelineCalls

namespace Omnitensor

namespace Pipeline

namespace PipelineRunner

variable {Output : Type} {settings : RunnerSettings} {runner after : PipelineRunner Output}

/-! ### Deliveries -/

/-- How often a key was delivered since it was last accepted. -/
def deliveries (key : String) : List FlightNote → Nat
  | [] => 0
  | .accepted other :: earlier => if other = key then 0 else deliveries key earlier
  | .delivered other :: earlier =>
    if other = key then deliveries key earlier + 1 else deliveries key earlier

/-- A key that is in flight or retained was delivered at most once. -/
def DeliversOnce (runner : PipelineRunner Output) : Prop :=
  ∀ key, key ∈ runner.flow.inFlight.keys ∨ key ∈ runner.flow.completed.keys →
    deliveries key runner.history ≤ 1

/-- A call goes on with another attempt after one that has delivered. -/
def redelivers (settings : RunnerSettings) (runner : PipelineRunner Output) (index : Nat) : Bool :=
  match runner.calls[index]?.bind RunCall.submission with
  | none => false
  | some submission =>
    (runner.flow.submissions[submission]?).any fun stored =>
      match stored.phase with
      | .stopping attempt number =>
        !stored.interrupted && decide (number < settings.flow.maxRetries + 1) &&
          (runner.flow.attempts[attempt]?).any fun running => running.state.delivered
      | _ => false

/-- An attempt is cancelled again while its guard only waits for the end of its watching, and the
delivery goes on. -/
def abandons (runner : PipelineRunner Output) (attempt : Nat) : Bool :=
  (runner.flow.attempts[attempt]?).any fun running =>
    running.state.cancelRequested &&
      (match running.state.phase with
        | .guarding _ _ (.unwatching _) => true
        | _ => false) &&
      running.state.task.any fun task => decide (task.stage = .deliver) && task.outcome.isNone

/-- A step neither goes on after a delivery nor leaves one to itself. -/
def Careful (settings : RunnerSettings) (runner : PipelineRunner Output) :
    RunnerAction Output → Prop
  | .resume index _ _ => redelivers settings runner index = false
  | .advance attempt _ _ => abandons runner attempt = false
  | _ => True

instance (settings : RunnerSettings) (runner : PipelineRunner Output) :
    (action : RunnerAction Output) → Decidable (Careful settings runner action)
  | .resume index _ _ => inferInstanceAs (Decidable (redelivers settings runner index = false))
  | .advance attempt _ _ => inferInstanceAs (Decidable (abandons runner attempt = false))
  | .run .. | .interrupt _ | .beat _ | .deliver _ | .finish .. | .cancel .. =>
    inferInstanceAs (Decidable True)

/-! ### What a step keeps -/

/-- The delivery of an attempt that has ended has ended. -/
def Closed (run : StageRun Output) : Prop :=
  ∀ outcome, run.phase = .done outcome → ∀ task, run.task = some task → task.stage = .deliver →
    task.outcome.isSome = true

/-- What a runner keeps of its deliveries: the attempt that a submission waits for has made the one of
its key, if there was one. -/
structure Once (runner : PipelineRunner Output) : Prop where
  flights : ∀ (submission attempt : Nat)
      (stored : FlowSubmission (StageRun Output) (Option (PluginResult Output)) String)
      (running : FlowAttempt (StageRun Output)),
    runner.flow.submissions[submission]? = some stored → stored.current = some attempt →
    runner.flow.attempts[attempt]? = some running →
    deliveries stored.key runner.history = if running.state.delivered then 1 else 0
  closed : ∀ (attempt : Nat) (running : FlowAttempt (StageRun Output)),
    runner.flow.attempts[attempt]? = some running → Closed running.state
  bounded : ∀ key, deliveries key runner.history ≤ 1

/-- An attempt that is only cancelled, if at all. -/
structure Alike (running next : FlowAttempt (StageRun Output)) : Prop where
  task : next.state.task = running.state.task
  phase : next.state.phase = running.state.phase

variable {running next : FlowAttempt (StageRun Output)} {index attempt : Nat}
  {flow : PluginFlowController (StageRun Output) (Option (PluginResult Output)) String}

theorem Alike.delivered (alike : Alike running next) :
    next.state.delivered = running.state.delivered := by
  rw [StageRun.delivered, alike.task, StageRun.delivered]

theorem Alike.closed (alike : Alike running next) (closed : Closed running.state) :
    Closed next.state := by
  rw [Closed, alike.task, alike.phase]
  exact closed

/-- A controller goes on without an attempt that starts or delivers. -/
structure Settled
    (flow after : PluginFlowController (StageRun Output) (Option (PluginResult Output)) String) :
    Prop where
  submissions : ∀ (submission attempt : Nat)
      (next : FlowSubmission (StageRun Output) (Option (PluginResult Output)) String),
    after.submissions[submission]? = some next → next.current = some attempt →
    ∃ stored, flow.submissions[submission]? = some stored ∧ stored.key = next.key ∧
      stored.current = some attempt
  attempts : ∀ (attempt : Nat) (next : FlowAttempt (StageRun Output)),
    after.attempts[attempt]? = some next →
    ∃ running, flow.attempts[attempt]? = some running ∧ Alike running next

theorem Once.settled (once : runner.Once) (settled : Settled runner.flow after.flow)
    (history : after.history = runner.history) : after.Once := by
  refine ⟨fun submission attempt next running found current there => ?_,
    fun attempt next there => ?_, ?_⟩
  · obtain ⟨stored, before, key, same⟩ := settled.submissions submission attempt next found current
    obtain ⟨old, earlier, alike⟩ := settled.attempts attempt running there
    rw [history, ← key, alike.delivered]
    exact once.flights submission attempt stored old before same earlier
  · obtain ⟨old, earlier, alike⟩ := settled.attempts attempt next there
    exact alike.closed (once.closed attempt old earlier)
  · rw [history]
    exact once.bounded

section

variable {flow : PluginFlowController (StageRun Output) (Option (PluginResult Output)) String}
  {index : Nat} {stored next : FlowSubmission (StageRun Output) (Option (PluginResult Output)) String}

theorem alike_refl (running : FlowAttempt (StageRun Output)) : Alike running running := ⟨rfl, rfl⟩

/-- One submission goes on without another attempt. -/
theorem settled_set {after : PluginFlowController (StageRun Output) (Option (PluginResult Output)) String}
    (found : flow.submissions[index]? = some stored)
    (submissions : after.submissions = flow.submissions.set index next)
    (key : next.key = stored.key)
    (current : ∀ attempt, next.current = some attempt → stored.current = some attempt)
    (attempts : ∀ (attempt : Nat) (next : FlowAttempt (StageRun Output)),
      after.attempts[attempt]? = some next →
      ∃ running, flow.attempts[attempt]? = some running ∧ Alike running next) :
    Settled flow after where
  submissions submission attempt other holds waits := by
    rw [submissions, Table.getElem?_set found] at holds
    split at holds
    · rename_i same
      cases holds
      exact ⟨stored, same ▸ found, key.symm, current attempt waits⟩
    · exact ⟨other, holds, rfl, waits⟩
  attempts := attempts

theorem alike_cancelAttempt (attempt other : Nat) (next : FlowAttempt (StageRun Output))
    (there : (flow.cancelAttempt (stages Output) attempt).attempts[other]? = some next) :
    ∃ running, flow.attempts[other]? = some running ∧ Alike running next := by
  rw [PluginFlowController.cancelAttempt, List.getElem?_modify, Option.map_eq_map] at there
  obtain ⟨running, found, rfl⟩ := Option.map_eq_some_iff.mp there
  refine ⟨running, found, ?_⟩
  split
  · exact ⟨rfl, rfl⟩
  · exact alike_refl running

end

theorem Once.settle (once : runner.Once) (index nowMs : Nat) :
    (runner.settle index nowMs).Once := by
  obtain ⟨flow, history⟩ := flow_settle index nowMs runner
  obtain ⟨flights, closed, bounded⟩ := once
  exact ⟨by rw [flow, history]; exact flights, by rw [flow]; exact closed,
    by rw [history]; exact bounded⟩

theorem flow_cancel (jobId detail : String) (runner : PipelineRunner Output) :
    (runner.cancel jobId detail).flow = runner.flow ∧
      (runner.cancel jobId detail).history = runner.history := by
  rw [cancel]
  split
  · exact ⟨rfl, rfl⟩
  · split
    · exact ⟨rfl, rfl⟩
    · split <;> exact ⟨rfl, rfl⟩

theorem closed_new (jobId : String) (call : Nat) : Closed (StageRun.new jobId call : StageRun Output) :=
  nofun

/-- Another attempt of a key that was not delivered. -/
theorem once_retries (tracks : runner.Tracks settings) (once : runner.Once) {retried : Nat}
    {stored : FlowSubmission (StageRun Output) (Option (PluginResult Output)) String}
    (found : runner.flow.submissions[index]? = some stored)
    (current : stored.current = some attempt)
    (attempts : runner.flow.attempts[attempt]? = some running)
    (undelivered : running.state.delivered = false) (goes : flow =
      ({ runner.flow with retried := retried }.begin index stored.initial).setSubmission index
        { stored with phase := .waiting runner.flow.attempts.length (stored.number + 1) }) :
    Once { runner with flow } := by
  subst goes
  have fresh : ∃ jobId call, stored.initial = StageRun.new jobId call := by
    obtain ⟨owner, call, holds, waits⟩ := tracks.submitted index stored found
    obtain ⟨other, there, serves⟩ := (tracks.entries owner call holds).serves waits
    cases found.symm.trans there
    exact ⟨_, _, serves.initial⟩
  obtain ⟨jobId, call, initial⟩ := fresh
  have added : ∀ (other : Nat) (next : FlowAttempt (StageRun Output)),
      (runner.flow.attempts ++ [(⟨index, stored.initial⟩ : FlowAttempt (StageRun Output))])[
        other]? = some next →
      other = runner.flow.attempts.length ∧ next.state = StageRun.new jobId call ∨
        runner.flow.attempts[other]? = some next := by
    intro other next there
    rw [Table.getElem?_concat] at there
    split at there
    · rename_i last
      cases there
      exact .inl ⟨last, initial⟩
    · exact .inr there
  refine ⟨fun submission other next running' found' current' there => ?_,
    fun other next there => ?_, once.bounded⟩
  · replace found' : (runner.flow.submissions.set index _)[submission]? = some next := found'
    rw [Table.getElem?_set found] at found'
    split at found'
    · cases found'
      cases Option.some.inj current'
      obtain ⟨-, state⟩ | beyond := added _ running' there
      · rw [state]
        exact (once.flights index attempt stored running found current attempts).trans
          (by rw [undelivered]; rfl)
      · rw [List.getElem?_eq_none (Nat.le_refl _)] at beyond
        cases beyond
    · obtain ⟨last, -⟩ | before := added other running' there
      · obtain ⟨-, -, old, beyond, -⟩ := tracks.kept.current_eq found' current'
        rw [last, List.getElem?_eq_none (Nat.le_refl _)] at beyond
        cases beyond
      · exact once.flights submission other next running' found' current' before
  · obtain ⟨-, state⟩ | before := added other next there
    · rw [state]
      exact closed_new jobId call
    · exact once.closed other next before

theorem once_resumes (tracks : runner.Tracks settings) (once : runner.Once) {now : Rat}
    (resumes : PluginFlowController.Resumes (stages Output) settings.flow index now runner.flow flow)
    (careful : ∀ stored attempt number running, runner.flow.submissions[index]? = some stored →
      stored.phase = .stopping attempt number → stored.interrupted = false →
      number < settings.flow.maxRetries + 1 → runner.flow.attempts[attempt]? = some running →
      running.state.delivered = false) : Once { runner with flow } := by
  cases resumes with
  | waits found _ =>
    exact once.settled (settled_set found rfl rfl (fun _ => id) fun _ next there =>
      ⟨next, there, alike_refl next⟩) rfl
  | @stops stored attempt number found phase =>
    have settled : Settled runner.flow
        ((runner.flow.cancelAttempt (stages Output) attempt).setSubmission index
          { stored with phase := .stopping attempt number }) := by
      refine settled_set found rfl rfl (fun other waits => ?_) (alike_cancelAttempt attempt)
      rw [FlowSubmission.current, phase]
      exact waits
    exact once.settled settled rfl
  | @retries stored attempt running found current attempts ended remains silent few =>
    refine once_retries tracks once found current attempts ?_ rfl
    obtain ⟨other, number, phase⟩ | silent := silent
    · rw [FlowSubmission.current, phase] at current
      cases current
      rw [FlowSubmission.number, phase] at few
      exact careful stored attempt number running found phase remains few attempts
    · -- No attempt of a job says that it was silent.
      obtain ⟨sound, -⟩ := tracks.attempt attempts
      have done := StageRun.phase_of_outcome silent
      cases sound.place with
      | created other | guards other | returned other => cases done.symm.trans other
      | raised other own =>
        cases done.symm.trans other
        obtain same | ⟨_, same⟩ := own <;> cases same
  | concludes failed found current attempts ended ends =>
    exact once.settled (settled_set found
      (PluginFlowController.submissions_conclude _ _ _ _ _ _) rfl (by rintro _ ⟨⟩)
      fun _ next there => ⟨next, by
        rwa [PluginFlowController.attempts_conclude] at there, alike_refl next⟩) rfl
  | leaves found _ _ _ | shares found _ _ _ _ =>
    exact once.settled (settled_set found rfl rfl (by rintro _ ⟨⟩) fun _ next there =>
      ⟨next, there, alike_refl next⟩) rfl

/-- A submission that leads starts to count anew. -/
theorem once_leads (tracks : runner.Tracks settings) (once : runner.Once) {jobId key : String}
    {base : PluginFlowController (StageRun Output) (Option (PluginResult Output)) String}
    (same : PluginFlowController.Same runner.flow base)
    (free : runner.flow.inFlight.get? key = none) {call : Nat}
    (flow : after.flow = ({ base with
      inFlight := base.inFlight.set key base.submissions.length }.begin base.submissions.length
        (StageRun.new jobId call)).add key (StageRun.new jobId call) true .leads
          (.waiting base.attempts.length 1))
    (history : after.history = if (after.flow.submissions[runner.flow.submissions.length]?).any
      (fun added => decide (added.part = .leads)) then .accepted key :: runner.history
      else runner.history) : after.Once := by
  have submissions : ∀ submission : Nat, after.flow.submissions[submission]? =
      if submission = runner.flow.submissions.length then
        some ⟨key, StageRun.new jobId call, .leads, some false, false, none,
          .waiting base.attempts.length 1⟩
      else runner.flow.submissions[submission]? := by
    intro submission
    rw [flow]
    show (base.submissions ++ [_])[submission]? = _
    rw [same.submissions, Table.getElem?_concat]
    rfl
  have attempts : ∀ attempt : Nat, after.flow.attempts[attempt]? =
      if attempt = runner.flow.attempts.length then
        some ⟨base.submissions.length, StageRun.new jobId call⟩
      else runner.flow.attempts[attempt]? := by
    intro attempt
    rw [flow]
    show (base.attempts ++ [_])[attempt]? = _
    rw [same.attempts, Table.getElem?_concat]
  replace history : after.history = .accepted key :: runner.history := by
    rw [history, submissions, if_pos rfl]
    rfl
  refine ⟨fun submission attempt stored running found current there => ?_,
    fun attempt running there => ?_, fun other => ?_⟩
  · rw [submissions] at found
    rw [attempts] at there
    rw [history, deliveries]
    split at found
    · cases found
      cases Option.some.inj current
      rw [if_pos (congrArg List.length same.attempts)] at there
      cases there
      rw [if_pos rfl]
      rfl
    · have differs : key ≠ stored.key := by
        rintro rfl
        have flying : runner.flow.inFlight.get? stored.key = some submission :=
          (tracks.kept.flights _ _).mpr ⟨stored, found, rfl, by rw [current]; rfl⟩
        cases free.symm.trans flying
      have before : attempt ≠ runner.flow.attempts.length := by
        rintro rfl
        obtain ⟨-, -, old, beyond, -⟩ := tracks.kept.current_eq found current
        rw [List.getElem?_eq_none (Nat.le_refl _)] at beyond
        cases beyond
      rw [if_neg before] at there
      rw [if_neg differs]
      exact once.flights submission attempt stored running found current there
  · rw [attempts] at there
    split at there
    · cases there
      exact closed_new jobId call
    · exact once.closed attempt running there
  · rw [history, deliveries]
    split
    · exact Nat.zero_le 1
    · exact once.bounded other

/-- A key that is submitted starts to count anew if it is accepted. -/
theorem once_submits (tracks : runner.Tracks settings) (once : runner.Once) (jobId key : String)
    (now : Rat) : (runner.submitted settings jobId key now).Once := by
  have submits := PluginFlowController.submit_cases settings.flow key
    (StageRun.new jobId runner.calls.length : StageRun Output) true now runner.flow
  generalize after_def : runner.submitted settings jobId key now = after
  have flow : after.flow = runner.flow.submit settings.flow key
      (StageRun.new jobId runner.calls.length) true now := by
    rw [← after_def]
    rfl
  have history : after.history = if (after.flow.submissions[runner.flow.submissions.length]?).any
      (fun added => decide (added.part = .leads)) then .accepted key :: runner.history
      else runner.history := by
    rw [← after_def]
    rfl
  rw [← flow] at submits
  have idle : ∀ {base : PluginFlowController (StageRun Output) (Option (PluginResult Output)) String}
      {part : FlowPart} {phase : FlowPhase (Option (PluginResult Output)) String},
      after.flow = base.add key (StageRun.new jobId runner.calls.length) true part phase →
      PluginFlowController.Same runner.flow base → part ≠ .leads →
      (∀ stored : FlowSubmission (StageRun Output) (Option (PluginResult Output)) String,
        stored.phase = phase → stored.current = none) →
      after.Once := by
    intro base part phase added same follows waits
    refine once.settled ⟨fun submission attempt next found current => ?_, fun attempt next there =>
      ⟨next, ?_, alike_refl next⟩⟩ ?_
    · rw [added] at found
      replace found : (base.submissions ++ [_])[submission]? = some next := found
      rw [same.submissions, Table.getElem?_concat] at found
      split at found
      · cases found
        cases (waits _ rfl).symm.trans current
      · exact ⟨next, found, rfl, current⟩
    · rw [added] at there
      exact same.attempts ▸ there
    · have last : (after.flow.submissions[runner.flow.submissions.length]?).any
          (fun added => decide (added.part = .leads)) = false := by
        rw [added]
        show ((base.submissions ++ [_])[_]?).any _ = false
        rw [same.submissions, Table.getElem?_concat, if_pos rfl]
        exact decide_eq_false follows
      rw [history, last]
      rfl
  generalize same : after.flow = submitted at submits
  cases submits with
  | refuses base | replays base _ | joins base _ =>
    exact idle same base (by rintro ⟨⟩) fun _ phase => by rw [FlowSubmission.current, phase]
  | leads base free _ => exact once_leads tracks once base free same history

/-- An attempt goes on, with what it has delivered. -/
theorem once_withAttempt (once : runner.Once) {next : StageRun Output}
    (attempts : runner.flow.attempts[attempt]? = some running)
    (delivered : next.delivered = running.state.delivered) (closed : Closed next) :
    (runner.withAttempt attempt running next).Once := by
  refine ⟨fun submission other stored state found current there => ?_, fun other state there => ?_,
    once.bounded⟩
  · replace there : (runner.flow.attempts.set attempt _)[other]? = some state := there
    rw [Table.getElem?_set attempts] at there
    split at there
    · rename_i same
      cases there
      rw [delivered]
      exact once.flights submission other stored running found current (same ▸ attempts)
    · exact once.flights submission other stored state found current there
  · replace there : (runner.flow.attempts.set attempt _)[other]? = some state := there
    rw [Table.getElem?_set attempts] at there
    split at there
    · cases there
      exact closed
    · exact once.closed other state there

/-- A guard that lets go leaves no delivery that goes on, if it is not cancelled while it does. -/
theorem closed_goes {refusals : PipelineStage → Option String} {token : Option String} {nowMs : Nat}
    {run next : StageRun Output} (sound : run.Sound)
    (goes : StageRun.Goes refusals token nowMs run next)
    (careful : ∀ machine rest exit task, run.cancelRequested = true →
      run.phase = .guarding machine rest (.unwatching exit) → run.task = some task →
      task.stage = .deliver → task.outcome.isSome = true) : Closed next := by
  intro outcome done task stored stage
  cases goes with
  | begins phase =>
    cases sound.place with
    | created _ idle =>
      obtain same | ⟨_, enters⟩ := @StageRun.task_begin _ run refusals token nowMs
      · cases (same.trans idle).symm.trans stored
      · exact absurd done (enters.runs outcome)
    | guards other | returned other | raised other => cases phase.symm.trans other
  | ends phase =>
    cases sound.place with
    | created _ idle => cases idle.symm.trans stored
    | guards other | returned other | raised other => cases phase.symm.trans other
  | moves => cases done
  | drops holds phase cancelled =>
    obtain phase | ⟨-, ended⟩ := phase
    · exact careful _ _ _ task cancelled phase stored stage
    · cases holds.symm.trans stored
      exact ended
  | @leaves machine rest exit task' holds phase ended =>
    obtain same | ⟨_, _, _, enters⟩ :=
      @StageRun.task_leave _ run refusals token nowMs machine rest exit
    · cases holds.symm.trans (same.symm.trans stored)
      exact ended
    · exact absurd done (enters.runs outcome)

/-- The attempt that delivers is the one that the submission of its key waits for. -/
theorem once_delivers (tracks : runner.Tracks settings) (once : runner.Once) {key : String}
    {task : StageTask Output} (attempts : runner.flow.attempts[attempt]? = some running)
    (keyed : runner.flow.keyOf running = some key) (stored : running.state.task = some task)
    (runs : task.outcome = none) (stage : task.stage = .deliver)
    (undelivered : task.delivered = false) :
    Once { runner.withAttempt attempt running
        { running.state with task := some { task with delivered := true } } with
      history := .delivered key :: runner.history } := by
  have unended : running.state.outcome = none := by
    rw [Option.eq_none_iff_forall_ne_some]
    intro outcome ended
    have := once.closed attempt running attempts outcome (StageRun.phase_of_outcome ended) task
      stored stage
    rw [runs] at this
    cases this
  obtain ⟨holder, holds, current⟩ := tracks.kept.running attempt running attempts unended
  have same : holder.key = key := by
    rw [PluginFlowController.keyOf, holds] at keyed
    exact Option.some.inj keyed
  have before : deliveries key runner.history = 0 := by
    rw [← same, once.flights _ attempt holder running holds current attempts, StageRun.delivered,
      stored, Option.any_some, undelivered]
    rfl
  have flight : runner.flow.inFlight.get? key = some running.caller :=
    (tracks.kept.flights _ _).mpr ⟨holder, holds, same, by rw [current]; rfl⟩
  refine ⟨fun submission other stored' state found waits there => ?_, fun other state there => ?_,
    fun other => ?_⟩
  · replace there : (runner.flow.attempts.set attempt _)[other]? = some state := there
    rw [Table.getElem?_set attempts] at there
    show deliveries stored'.key (.delivered key :: runner.history) = _
    rw [deliveries]
    split at there
    · rename_i own
      cases there
      obtain ⟨-, -, old, earlier, caller⟩ := tracks.kept.current_eq found waits
      cases attempts.symm.trans (own ▸ earlier)
      rw [← caller] at found
      cases holds.symm.trans found
      rw [if_pos same.symm, same, before]
      rfl
    · rename_i differs
      have apart : key ≠ stored'.key := by
        rintro rfl
        have flying := (tracks.kept.flights _ _).mpr ⟨stored', found, rfl, by rw [waits]; rfl⟩
        cases flight.symm.trans flying
        cases holds.symm.trans found
        exact differs (Option.some.inj (waits.symm.trans current))
      rw [if_neg apart]
      exact once.flights submission other stored' state found waits there
  · replace there : (runner.flow.attempts.set attempt _)[other]? = some state := there
    rw [Table.getElem?_set attempts] at there
    split at there
    · cases there
      intro outcome done
      rw [StageRun.outcome, done] at unended
      cases unended
    · exact once.closed other state there
  · show deliveries other (.delivered key :: runner.history) ≤ 1
    rw [deliveries]
    split
    · rename_i own
      have counted : deliveries other runner.history + 1 = 1 := by rw [← own, before]
      exact Nat.le_of_eq counted
    · exact once.bounded other

theorem once_step {action : RunnerAction Output} (tracks : runner.Tracks settings)
    (once : runner.Once) (careful : Careful settings runner action)
    (steps : runner.step settings action = some after) : after.Once := by
  cases step_cases steps with
  | refuses => exact ⟨once.flights, once.closed, once.bounded⟩
  | turnsAway => exact ⟨once.flights, once.closed, once.bounded⟩
  | submits => exact (once_submits tracks once _ _ _).settle _ _
  | interrupts stored waits interrupts =>
    obtain ⟨submission, found, -, ends⟩ := PluginFlowController.interrupt_cases interrupts
    obtain rfl | ⟨attempt, rfl⟩ := ends
    · exact once.settled (settled_set found rfl rfl (fun _ => id) fun _ next there =>
        ⟨next, there, alike_refl next⟩) rfl
    · exact once.settled (settled_set found rfl rfl (fun _ => id) (alike_cancelAttempt attempt)) rfl
  | beats stored waits beats =>
    obtain ⟨submission, found, beats⟩ := Option.bind_eq_some_iff.mp beats
    cases beats
    exact once.settled (settled_set found rfl rfl (fun _ => id) fun _ next there =>
      ⟨next, there, alike_refl next⟩) rfl
  | @resumes index submission nowMs now call flow holds waits resumes =>
    refine (once_resumes tracks once (PluginFlowController.resume_cases resumes)
      fun stored attempt number running found phase remains few attempts => ?_).settle _ _
    replace careful : redelivers settings runner index = false := careful
    rw [redelivers, holds, Option.bind_some, waits] at careful
    simpa [found, phase, remains, few, Nat.le_of_lt_succ few, attempts] using careful
  | @advances attempt nowMs refusals running call next attempts stored goes =>
    obtain ⟨sound, -⟩ := tracks.attempt attempts
    replace goes := StageRun.resume_cases goes
    refine once_withAttempt once attempts (StageRun.delivered_goes sound goes)
      (closed_goes sound goes
        fun machine rest exit task cancelled phase stored stage => ?_)
    replace careful : abandons runner attempt = false := careful
    rw [abandons, attempts, Option.any_some, cancelled, phase, stored] at careful
    cases outcome : task.outcome with
    | none => simp [stage, outcome] at careful
    | some => rfl
  | delivers attempts keyed stored runs stage undelivered _ =>
    exact once_delivers tracks once attempts keyed stored runs stage undelivered
  | @finishes attempt running task outcome attempts stored runs _ =>
    refine once_withAttempt once attempts ?_ fun _ _ task member _ => ?_
    · rw [StageRun.delivered, StageRun.delivered, stored]
      rfl
    · cases member
      rfl
  | cancels =>
    obtain ⟨flow, history⟩ := flow_cancel _ _ runner
    exact ⟨by rw [flow, history]; exact once.flights, by rw [flow]; exact once.closed,
      by rw [history]; exact once.bounded⟩

theorem once_empty : (empty : PipelineRunner Output).Once where
  flights _ _ _ _ found := by simp [empty, PluginFlowController.empty] at found
  closed _ _ there := by simp [empty, PluginFlowController.empty] at there
  bounded _ := Nat.zero_le 1

/-- In a run that neither goes on after a delivery nor leaves one to itself, a key that is in flight or
retained was delivered at most once. -/
theorem deliversOnce_of_run {actions : List (RunnerAction Output)}
    (careful : Machine.Throughout (step settings) (Careful settings) empty actions)
    (runs : Machine.run (step settings) empty actions = some runner) : runner.DeliversOnce := by
  have kept := Machine.invariant_run_throughout
    (fun runner : PipelineRunner Output => runner.Tracks settings ∧ runner.Once)
    (fun _ _ _ both careful steps =>
      ⟨tracks_step both.1 steps, once_step both.1 both.2 careful steps⟩)
    ⟨tracks_empty, once_empty⟩ careful runs
  exact fun key _ => kept.2.bounded key

/-! ### A delivery that is silent -/

def oneRetry : RunnerSettings where
  flow := PluginFlowController.twoAtOnce
  maxTrackedJobs := 4

/-- An attempt goes on, where the gate refuses nothing. -/
def goOn (attempt : Nat) : RunnerAction Nat := .advance attempt (fun _ => none) 0

/-- A stage of an attempt ends, and the attempt goes on to the next one. -/
def passes (attempt : Nat) (output : StageOutput Nat) : List (RunnerAction Nat) :=
  [.finish attempt (.ok output), goOn attempt, goOn attempt]

/-- An attempt goes on from its start until its delivery has had its side effect. -/
def untilDelivered (attempt : Nat) : List (RunnerAction Nat) :=
  goOn attempt :: (passes attempt .collected ++ passes attempt .preprocessed ++
    passes attempt .resolved ++ passes attempt .inferred ++ passes attempt .postprocessed ++
    [.deliver attempt])

/-- A job that is delivered once, and answers another one that is submitted again. -/
theorem deliversOnce_of_run_replayed : ∃ runner : PipelineRunner Nat,
    Machine.run (step oneRetry) empty (.run "job-1" "scan" none 0 0 :: (untilDelivered 0 ++
      passes 0 (.delivered 7 "shown") ++ [.resume 0 1 1, .run "job-2" "scan" none 2 2])) =
        some runner ∧
    deliveries "scan" runner.history = 1 ∧ runner.DeliversOnce := by
  have careful : Machine.Throughout (step oneRetry) (Careful oneRetry)
      (empty : PipelineRunner Nat) (.run "job-1" "scan" none 0 0 :: (untilDelivered 0 ++
        passes 0 (.delivered 7 "shown") ++ [.resume 0 1 1, .run "job-2" "scan" none 2 2])) := by
    decide +kernel
  have ends : (Machine.run (step oneRetry) (empty : PipelineRunner Nat)
      (.run "job-1" "scan" none 0 0 :: (untilDelivered 0 ++
        passes 0 (.delivered 7 "shown") ++ [.resume 0 1 1, .run "job-2" "scan" none 2 2]))).any
          fun runner => decide (deliveries "scan" runner.history = 1) := by
    decide +kernel
  obtain ⟨runner, runs, once⟩ := Machine.exists_run_of_any ends
  exact ⟨runner, runs, of_decide_eq_true once, deliversOnce_of_run careful runs⟩

/-- An attempt delivers and says nothing until its deadline has passed; the next one delivers again,
while the key is still in flight. -/
theorem not_deliversOnce_of_run : ∃ runner : PipelineRunner Nat,
    Machine.run (step oneRetry) empty (.run "job-1" "scan" none 0 0 :: (untilDelivered 0 ++
      [.resume 0 30 30, goOn 0, goOn 0, .finish 0 (.error .cancelled), goOn 0, .resume 0 31 31] ++
      untilDelivered 1)) = some runner ∧
    ¬ runner.DeliversOnce := by
  have ends : (Machine.run (step oneRetry) (empty : PipelineRunner Nat)
      (.run "job-1" "scan" none 0 0 :: (untilDelivered 0 ++
        [.resume 0 30 30, goOn 0, goOn 0, .finish 0 (.error .cancelled), goOn 0, .resume 0 31 31] ++
        untilDelivered 1))).any fun runner => decide ("scan" ∈ runner.flow.inFlight.keys ∧
          deliveries "scan" runner.history = 2) := by
    decide +kernel
  obtain ⟨runner, runs, twice⟩ := Machine.exists_run_of_any ends
  obtain ⟨flying, count⟩ := of_decide_eq_true twice
  refine ⟨runner, runs, fun once => ?_⟩
  have bound := once "scan" (.inl flying)
  rw [count] at bound
  exact absurd bound (by decide)

end PipelineRunner

end Pipeline

end Omnitensor
