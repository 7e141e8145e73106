/-
This file says what the calls of a runner return.

A call that leads its flight returns what an attempt of its own job has published, and so a result of
that job. One that joined another flight, or is answered again, returns the very result of the call
that led: of one key, but of the other job. A job that was cancelled before its delivery started, and
that leads, is not delivered any more; it is cancelled, unless a stage has failed of itself or there is
no attempt left.
-/

import Omnitensor.PipelineCalls

namespace Omnitensor

namespace Pipeline

namespace PipelineRunner

variable {Output : Type} {settings : RunnerSettings} {runner after : PipelineRunner Output}

/-! ### Results -/

/-- What the submission of a call is to its key. -/
def partOf (runner : PipelineRunner Output) (call : RunCall Output) : Option FlowPart :=
  (call.submission.bind fun submission => runner.flow.submissions[submission]?).map
    FlowSubmission.part

/-- A call answers with what another one did. -/
def Shares (runner : PipelineRunner Output) (call : RunCall Output) : Prop :=
  (∃ primary, runner.partOf call = some (.joins primary)) ∨ runner.partOf call = some .replays

/-- An attempt has returned a result for a call. -/
structure Returns (runner : PipelineRunner Output) (call : RunCall Output)
    (result : PluginResult Output) (running : FlowAttempt (StageRun Output)) : Prop where
  attempts : running ∈ runner.flow.attempts
  caller : call.submission = some running.caller
  outcome : running.state.outcome = some (.ok (some result))
  fits : running.state.Fits result

/-- Why a job failed that was cancelled: a stage of it has, or no attempt was left. -/
def FailsItself (runner : PipelineRunner Output) (call : RunCall Output) : Prop :=
  (∃ running ∈ runner.flow.attempts, call.submission = some running.caller ∧
    ∃ task, running.state.task = some task ∧ StageRun.Fails task) ∨
  ∃ submission stored detail, call.submission = some submission ∧
    runner.flow.submissions[submission]? = some stored ∧
    stored.phase = .ended (.error (.refused .retriesExhausted detail))

/-- What a call answers with. -/
structure Answered (runner : PipelineRunner Output) (call : RunCall Output)
    (result : PluginResult Output) : Prop where
  identity : result.jobId = call.jobId ∨ runner.Shares call ∧
    ∃ other ∈ runner.calls, other.key = call.key ∧ runner.partOf other = some .leads ∧
      other.ended = some (.ok (some result)) ∧ result.jobId = other.jobId
  succeeds : result.status = .succeeded → ∃ running ∈ runner.flow.attempts,
    runner.flow.keyOf running = some call.key ∧
    running.state.outcome = some (.ok (some result)) ∧
    running.state.log = stageOrder.flatMap StageRun.passed
  /-- The delivery of a job that was cancelled before, and that leads, never starts. -/
  undelivered : call.early = true → runner.partOf call = some .leads →
    call.submission.any (deliveryStarted runner.flow) = false
  cancelled : call.early = true → runner.partOf call = some .leads →
    result.status = .cancelled ∨ result.status = .failed ∧ runner.FailsItself call

/-- What a runner returns. -/
structure Results (settings : RunnerSettings) (runner : PipelineRunner Output) : Prop where
  registered : ∀ jobId index, runner.tokens.get? jobId = some index ↔ runner.Waits index jobId
  /-- A call ends once. -/
  once : ∀ (index : Nat) (call : RunCall Output) (outcome : RunOutcome Output)
      (action : RunnerAction Output) (after : PipelineRunner Output),
    runner.calls[index]? = some call → call.ended = some outcome →
    runner.step settings action = some after →
    ∃ next, after.calls[index]? = some next ∧ next.jobId = call.jobId ∧
      next.ended = some outcome
  answered : ∀ (index : Nat) (call : RunCall Output) (answer : Option (PluginResult Output)),
    runner.calls[index]? = some call → call.ended = some (.ok answer) →
    ∃ result, answer = some result ∧ runner.Answered call result

/-! ### Cancelled before the delivery -/

/-- No attempt of a job that was cancelled before its delivery started, and that leads, delivers. -/
structure Withdraws (runner : PipelineRunner Output) : Prop where
  token : ∀ (index : Nat) (call : RunCall Output), runner.calls[index]? = some call →
    call.early = true → call.token.isSome = true
  idle : ∀ (index submission attempt : Nat) (call : RunCall Output)
      (stored : FlowSubmission (StageRun Output) (Option (PluginResult Output)) String)
      (running : FlowAttempt (StageRun Output)),
    runner.calls[index]? = some call → call.early = true → call.submission = some submission →
    runner.flow.submissions[submission]? = some stored → stored.part = .leads →
    runner.flow.attempts[attempt]? = some running → running.caller = submission →
    delivering running = false

/-- Calls stay, or are new and not cancelled. -/
structure CallsStay (runner after : PipelineRunner Output) : Prop where
  calls : ∀ (index : Nat) (call : RunCall Output), after.calls[index]? = some call →
    call.early = true → ∃ old, runner.calls[index]? = some old ∧ old.early = true ∧
      call.token = old.token ∧ call.submission = old.submission

/-- Submissions keep their part, and no attempt enters its delivery. -/
structure FlowStays
    (flow after : PluginFlowController (StageRun Output) (Option (PluginResult Output)) String) :
    Prop where
  submissions : ∀ (submission : Nat)
      (stored : FlowSubmission (StageRun Output) (Option (PluginResult Output)) String),
    flow.submissions[submission]? = some stored →
    ∃ next, after.submissions[submission]? = some next ∧ next.part = stored.part
  attempts : ∀ (attempt : Nat) (next : FlowAttempt (StageRun Output)),
    after.attempts[attempt]? = some next →
    (∃ running, flow.attempts[attempt]? = some running ∧ next.caller = running.caller ∧
      delivering next = delivering running) ∨ delivering next = false

theorem Withdraws.stay (withdraws : runner.Withdraws) (tracks : runner.Tracks settings)
    (calls : CallsStay runner after) (flow : FlowStays runner.flow after.flow) :
    after.Withdraws := by
  refine ⟨fun index call holds early => ?_,
    fun index submission attempt call stored running holds early waits found leads there caller => ?_⟩
  · obtain ⟨old, before, was, token, -⟩ := calls.calls index call holds early
    rw [token]
    exact withdraws.token index old before was
  · obtain ⟨old, before, was, -, same⟩ := calls.calls index call holds early
    obtain ⟨earlier, kept, -⟩ := (tracks.entries index old before).serves (same.symm.trans waits)
    obtain ⟨next, now, part⟩ := flow.submissions submission earlier kept
    cases found.symm.trans now
    obtain ⟨first, ran, sameCaller, delivers⟩ | idle := flow.attempts attempt running there
    · rw [delivers]
      exact withdraws.idle index submission attempt old earlier first before was
        (same.symm.trans waits) kept (part.symm.trans leads) ran (sameCaller.symm.trans caller)
    · exact idle

theorem callsStay_of_eq (same : after.calls = runner.calls) : CallsStay runner after :=
  ⟨fun _ call holds early => ⟨call, same ▸ holds, early, rfl, rfl⟩⟩

section

variable {flow next : PluginFlowController (StageRun Output) (Option (PluginResult Output)) String}

theorem flowStays_set {index : Nat}
    {stored changed : FlowSubmission (StageRun Output) (Option (PluginResult Output)) String}
    (found : flow.submissions[index]? = some stored)
    (submissions : next.submissions = flow.submissions.set index changed)
    (part : changed.part = stored.part)
    (attempts : ∀ (attempt : Nat) (running : FlowAttempt (StageRun Output)),
      next.attempts[attempt]? = some running →
      (∃ before, flow.attempts[attempt]? = some before ∧ running.caller = before.caller ∧
        delivering running = delivering before) ∨ delivering running = false) :
    FlowStays flow next where
  submissions submission other holds := by
    rw [submissions, Table.getElem?_set found]
    split
    · rename_i same
      cases found.symm.trans (same ▸ holds)
      exact ⟨changed, rfl, part⟩
    · exact ⟨other, holds, rfl⟩
  attempts := attempts

theorem delivering_cancelAttempt (attempt other : Nat) (running : FlowAttempt (StageRun Output))
    (there : (flow.cancelAttempt (stages Output) attempt).attempts[other]? = some running) :
    (∃ before, flow.attempts[other]? = some before ∧ running.caller = before.caller ∧
      delivering running = delivering before) ∨ delivering running = false := by
  rw [PluginFlowController.cancelAttempt, List.getElem?_modify, Option.map_eq_map] at there
  obtain ⟨before, found, rfl⟩ := Option.map_eq_some_iff.mp there
  refine .inl ⟨before, found, ?_⟩
  split <;> exact ⟨rfl, rfl⟩

theorem flowStays_submits {key jobId : String} {call : Nat}
    (submits : PluginFlowController.Submits settings.flow key
      (StageRun.new jobId call : StageRun Output) true flow next) : FlowStays flow next := by
  obtain ⟨added, submissions, -, -⟩ := PluginFlowController.submissions_submits submits
  refine ⟨fun submission stored holds =>
    ⟨stored, by rw [submissions]; exact getElem?_add added holds, rfl⟩,
    fun attempt running there => ?_⟩
  cases submits with
  | refuses same | replays same _ | joins same _ =>
    exact .inl ⟨running, same.attempts ▸ there, rfl, rfl⟩
  | @leads base same _ _ =>
    replace there : (base.attempts ++ [_])[attempt]? = some running := there
    rw [Table.getElem?_concat, same.attempts] at there
    split at there
    · cases there
      exact .inr rfl
    · exact .inl ⟨running, there, rfl, rfl⟩

end

variable {index nowMs submission : Nat} {call : RunCall Output}
  {answer : Option (PluginResult Output)}
  {leader stored : FlowSubmission (StageRun Output) (Option (PluginResult Output)) String}
  {running : FlowAttempt (StageRun Output)} {outcome : RunOutcome Output} {next : StageRun Output}
  {action : RunnerAction Output}

theorem flowStays_resumes (tracks : runner.Tracks settings) {now : Rat}
    {flow : PluginFlowController (StageRun Output) (Option (PluginResult Output)) String}
    (resumes : PluginFlowController.Resumes (stages Output) settings.flow index now runner.flow flow) :
    FlowStays runner.flow flow := by
  obtain ⟨stored, next, found, submissions, persists⟩ :=
    PluginFlowController.touches_resume tracks.kept resumes
  refine flowStays_set found submissions persists.part fun attempt running there => ?_
  cases resumes with
  | stops => exact delivering_cancelAttempt _ attempt running there
  | @retries stored _ _ found =>
    replace there : (runner.flow.attempts ++ [_])[attempt]? = some running := there
    rw [Table.getElem?_concat] at there
    split at there
    · obtain ⟨owner, call, holds, waits⟩ := tracks.submitted index stored found
      obtain ⟨other, same, serves⟩ := (tracks.entries owner call holds).serves waits
      cases found.symm.trans same
      cases there
      rw [delivering, serves.initial]
      exact .inr rfl
    · exact .inl ⟨running, there, rfl, rfl⟩
  | concludes =>
    rw [PluginFlowController.attempts_conclude] at there
    exact .inl ⟨running, there, rfl, rfl⟩
  | waits | leaves | shares => exact .inl ⟨running, there, rfl, rfl⟩

theorem callsStay_settle (stays : CallsStay runner after) :
    CallsStay runner (after.settle index nowMs) := by
  refine ⟨fun other call holds early => ?_⟩
  rw [settle] at holds
  split at holds
  · exact stays.calls other call holds early
  · rename_i settled found
    split at holds
    · exact stays.calls other call holds early
    · replace holds : (after.calls.set index _)[other]? = some call := holds
      rw [Table.getElem?_set found] at holds
      split at holds
      · rename_i same
        cases holds
        obtain ⟨old, before, was, token, submission⟩ :=
          stays.calls other settled (same ▸ found) early
        exact ⟨old, before, was, token, submission⟩
      · exact stays.calls other call holds early

/-- A call that is not cancelled is added. -/
theorem callsStay_add (late : call.early = false) (calls : after.calls = runner.calls ++ [call]) :
    CallsStay runner after := by
  refine ⟨fun other old holds early => ?_⟩
  rw [calls, Table.getElem?_concat] at holds
  split at holds
  · cases holds
    cases late.symm.trans early
  · exact ⟨old, holds, early, rfl, rfl⟩

theorem delivering_of_task
    (same : next.task.map StageTask.stage = running.state.task.map StageTask.stage) :
    delivering { running with state := next } = delivering running := by
  have known : ∀ attempt : FlowAttempt (StageRun Output), delivering attempt =
      (attempt.state.task.map StageTask.stage).any fun stage => decide (stage = .deliver) := by
    intro attempt
    rw [delivering, Option.any_map]
  rw [known, known, same]

/-- An attempt of a job that was cancelled enters no stage; any other one may. -/
theorem withdraws_withAttempt (tracks : runner.Tracks settings) (withdraws : runner.Withdraws)
    {attempt : Nat} (attempts : runner.flow.attempts[attempt]? = some running)
    (stays : ∀ call, runner.calls[running.state.call]? = some call → call.token.isSome = true →
      delivering { running with state := next } = delivering running) (history : List FlightNote) :
    Withdraws { runner.withAttempt attempt running next with history } := by
  refine ⟨withdraws.token,
    fun index submission other call stored state holds early waits found leads there caller => ?_⟩
  replace there : (runner.flow.attempts.set attempt _)[other]? = some state := there
  rw [Table.getElem?_set attempts] at there
  split at there
  · cases there
    obtain ⟨-, owner, owns, submits, -⟩ := tracks.attempt attempts
    have same : running.state.call = index :=
      tracks.index_eq owns holds submits (waits.trans (congrArg some caller.symm))
    rw [stays call (same ▸ holds) (withdraws.token index call holds early)]
    exact withdraws.idle index submission attempt call stored running holds early waits found leads
      attempts caller
  · exact withdraws.idle index submission other call stored state holds early waits found leads there
      caller

theorem withdraws_cancel (withdraws : runner.Withdraws) (jobId detail : String) :
    (runner.cancel jobId detail).Withdraws := by
  rw [cancel]
  split
  · exact withdraws
  · rename_i index _
    split
    · exact withdraws
    · rename_i call holds
      split
      · exact withdraws
      · refine ⟨fun other another found early => ?_, fun other submission attempt another stored
          running found early waits there leads ran caller => ?_⟩
        · rw [Table.getElem?_set holds] at found
          split at found
          · cases found
            rfl
          · exact withdraws.token other another found early
        · rw [Table.getElem?_set holds] at found
          split at found
          · cases found
            -- The delivery of the flight had not started when the job was cancelled.
            replace early : (!call.submission.any (deliveryStarted runner.flow)) = true := early
            replace waits : call.submission = some submission := waits
            replace there : runner.flow.submissions[submission]? = some stored := there
            rw [Bool.not_eq_true', waits, Option.any_some, deliveryStarted,
              List.any_eq_false] at early
            have idle := early running (List.mem_of_getElem? ran)
            rw [flightOf, there, Option.map_some, leads] at idle
            simpa [caller] using idle
          · exact withdraws.idle other submission attempt another stored running found early waits
              there leads ran caller

theorem withdraws_step (tracks : runner.Tracks settings) (withdraws : runner.Withdraws)
    (steps : runner.step settings action = some after) : after.Withdraws := by
  have same : FlowStays runner.flow runner.flow :=
    ⟨fun _ stored found => ⟨stored, found, rfl⟩, fun _ running there => .inl ⟨running, there, rfl, rfl⟩⟩
  cases step_cases steps with
  | refuses => exact withdraws.stay tracks (callsStay_add rfl rfl) same
  | turnsAway => exact withdraws.stay tracks (callsStay_add rfl rfl) same
  | submits =>
    refine withdraws.stay tracks (callsStay_settle (callsStay_add rfl rfl)) ?_
    rw [(flow_settle _ _ _).1]
    exact flowStays_submits (PluginFlowController.submit_cases ..)
  | interrupts stored waits interrupts =>
    obtain ⟨submission, found, -, ends⟩ := PluginFlowController.interrupt_cases interrupts
    refine withdraws.stay tracks (callsStay_of_eq rfl) ?_
    obtain rfl | ⟨attempt, rfl⟩ := ends
    · exact flowStays_set found rfl rfl fun _ running there => .inl ⟨running, there, rfl, rfl⟩
    · exact flowStays_set found rfl rfl (delivering_cancelAttempt attempt)
  | beats stored waits beats =>
    obtain ⟨submission, found, beats⟩ := Option.bind_eq_some_iff.mp beats
    cases beats
    refine withdraws.stay tracks (callsStay_of_eq rfl) ?_
    exact flowStays_set found rfl rfl fun _ running there => .inl ⟨running, there, rfl, rfl⟩
  | resumes holds waits resumes =>
    refine withdraws.stay tracks (callsStay_settle (callsStay_of_eq rfl)) ?_
    rw [(flow_settle _ _ _).1]
    exact flowStays_resumes tracks (PluginFlowController.resume_cases resumes)
  | advances attempts stored goes =>
    refine withdraws_withAttempt tracks withdraws attempts (fun call holds token => ?_) _
    cases stored.symm.trans holds
    obtain ⟨detail, cancelled⟩ := Option.isSome_iff_exists.mp token
    rw [cancelled] at goes
    exact delivering_of_task (congrArg _ (StageRun.task_goes_of_cancelled (StageRun.resume_cases goes)))
  | delivers attempts _ stored _ _ _ _ =>
    refine withdraws_withAttempt tracks withdraws attempts (fun _ _ _ => ?_) _
    exact delivering_of_task (by rw [stored]; rfl)
  | finishes attempts stored _ _ =>
    refine withdraws_withAttempt tracks withdraws attempts (fun _ _ _ => ?_) _
    exact delivering_of_task (by rw [stored]; rfl)
  | cancels => exact withdraws_cancel withdraws _ _

theorem withdraws_empty : (empty : PipelineRunner Output).Withdraws where
  token _ _ holds := by simp [empty] at holds
  idle _ _ _ _ _ _ holds := by simp [empty] at holds

/-! ### What is answered -/

theorem endOf_eq_ok {jobId : String} (made : endOf jobId nowMs outcome = .ok answer) :
    outcome = .ok answer ∨ ∃ refusal detail, outcome = .error (.refused refusal detail) ∧
      answer = some ⟨jobId, .failed, none, refusal.word ++ ": " ++ detail, nowMs⟩ := by
  rw [endOf.eq_def] at made
  split at made
  · exact .inl made
  · rename_i refusal detail
    refine .inr ⟨refusal, detail, rfl, ?_⟩
    rw [failed] at made
    split at made
    · cases made
    · rename_i machine new
      obtain rfl := PipelineStateMachine.new_eq_ok new
      exact (Except.ok.inj made).symm
  · cases made

/-- How a submission that leads ended is how an attempt of its call did, or no attempt was left. -/
theorem Tracks.source (tracks : runner.Tracks settings)
    (found : runner.flow.submissions[submission]? = some leader) (leads : leader.part = .leads)
    (phase : leader.phase = .ended outcome) :
    PluginFlowController.Source (stages Output) runner.flow submission outcome := by
  cases tracks.kept.rows submission leader found with
  | concluded _ ended _ source =>
    cases phase.symm.trans ended
    exact source
  | runs _ current =>
    rw [FlowSubmission.current, phase] at current
    cases current
  | joined other | left other | shared other | replayed other | refused other =>
    cases leads.symm.trans other

theorem result_of_ok {run : StageRun Output} (sound : run.Sound)
    (ended : run.outcome = some (.ok answer)) :
    ∃ result, answer = some result ∧ run.Fits result := by
  have done := StageRun.phase_of_outcome ended
  cases sound.place with
  | returned phase fits =>
    cases done.symm.trans phase
    exact ⟨_, rfl, fits⟩
  | created other | guards other | raised other => cases done.symm.trans other

/-- What a submission that leads has returned is the result of its call, and of an attempt of it. -/
theorem Tracks.leads (tracks : runner.Tracks settings) {submission : Nat}
    {leader : FlowSubmission (StageRun Output) (Option (PluginResult Output)) String}
    {answer : Option (PluginResult Output)}
    (found : runner.flow.submissions[submission]? = some leader) (leads : leader.part = .leads)
    (phase : leader.phase = .ended (.ok answer)) :
    ∃ (index : Nat) (call : RunCall Output) (result : PluginResult Output)
      (running : FlowAttempt (StageRun Output)), runner.calls[index]? = some call ∧
      call.submission = some submission ∧ call.key = leader.key ∧ answer = some result ∧
      call.ended = some (.ok answer) ∧ result.jobId = call.jobId ∧
      runner.Returns call result running := by
  cases tracks.source found leads phase with
  | @attempt attempt running _ stored caller ended =>
    obtain ⟨sound, call, holds, waits, job, keyed⟩ := tracks.attempt stored
    obtain ⟨result, rfl, fits⟩ := result_of_ok sound ended
    rw [caller] at waits
    refine ⟨_, call, result, running, holds, waits, ?_, rfl, ?_, fits.jobId.trans job,
      List.mem_of_getElem? stored, waits.trans (congrArg some caller.symm), ended, fits⟩
    · rw [PluginFlowController.keyOf, caller, found] at keyed
      exact (Option.some.inj keyed).symm
    · cases tracks.entries _ call holds with
      | turnedAway none_ => cases none_.symm.trans waits
      | waits same there _ open_ =>
        cases same.symm.trans waits
        cases found.symm.trans there
        exact absurd phase (open_ _)
      | ended same there _ finished made =>
        cases same.symm.trans waits
        cases found.symm.trans there
        cases phase.symm.trans finished
        exact made

/-- What is known of an answer that an attempt for the key of a call has returned. -/
theorem succeeds_of_returns (tracks : runner.Tracks settings) {other : RunCall Output}
    {result : PluginResult Output} (holds : runner.calls[index]? = some other)
    (key : other.key = call.key) (returns : runner.Returns other result running)
    (status : result.status = .succeeded) :
    ∃ running ∈ runner.flow.attempts, runner.flow.keyOf running = some call.key ∧
      running.state.outcome = some (.ok (some result)) ∧
      running.state.log = stageOrder.flatMap StageRun.passed := by
  obtain ⟨stored, found, serves⟩ := (tracks.entries index other holds).serves returns.caller
  refine ⟨running, returns.attempts, ?_, returns.outcome, (returns.fits.succeeds status).1⟩
  rw [PluginFlowController.keyOf, found, Option.map_some, serves.key, key]

theorem partOf_eq (waits : call.submission = some submission)
    (found : runner.flow.submissions[submission]? = some stored) :
    runner.partOf call = some stored.part := by
  rw [partOf, waits, Option.bind_some, found]
  rfl

/-- The delivery of a job that was cancelled before it started, and that leads, has not started. -/
theorem Withdraws.undelivered (withdraws : runner.Withdraws)
    (holds : runner.calls[index]? = some call) (waits : call.submission = some submission)
    (found : runner.flow.submissions[submission]? = some stored) (early : call.early = true)
    (leads : stored.part = .leads) : call.submission.any (deliveryStarted runner.flow) = false := by
  rw [waits, Option.any_some, deliveryStarted, List.any_eq_false]
  intro running member
  obtain ⟨attempt, there⟩ := List.mem_iff_getElem?.mp member
  rw [flightOf, found, Option.map_some, leads, Bool.and_eq_true, decide_eq_true_iff]
  rintro ⟨caller, delivers⟩
  rw [withdraws.idle index submission attempt call stored running holds early waits found leads there
    caller] at delivers
  cases delivers

/-- What a call answers with the result of the one that leads its key. -/
theorem answered_shared (tracks : runner.Tracks settings) {primary : Nat}
    (waits : call.submission = some submission)
    (found : runner.flow.submissions[submission]? = some stored) (serves : Serves stored index call)
    (shares : (∃ primary, stored.part = .joins primary) ∨ stored.part = .replays)
    (there : runner.flow.submissions[primary]? = some leader) (leads : leader.part = .leads)
    (key : leader.key = stored.key) (phase : leader.phase = .ended (.ok answer)) :
    ∃ result, answer = some result ∧ runner.Answered call result := by
  obtain ⟨owner, other, result, running, owns, submits, same, rfl, ended, job, returns⟩ :=
    tracks.leads there leads phase
  have keys : other.key = call.key := same.trans (key.trans serves.key)
  have part := partOf_eq waits found
  have apart : stored.part ≠ .leads := by
    rintro other
    obtain ⟨_, shares⟩ | shares := shares <;> cases other.symm.trans shares
  have other_leads : runner.partOf other = some .leads :=
    (partOf_eq submits there).trans (congrArg some leads)
  refine ⟨result, rfl, .inr ⟨?_, other, List.mem_of_getElem? owns, keys, other_leads, ended, job⟩,
    succeeds_of_returns tracks owns keys returns, fun _ own => ?_, fun _ own => ?_⟩
  · obtain ⟨primary, joins⟩ | replays := shares
    · exact .inl ⟨primary, part.trans (congrArg some joins)⟩
    · exact .inr (part.trans (congrArg some replays))
  · exact absurd (Option.some.inj (part.symm.trans own)) apart
  · exact absurd (Option.some.inj (part.symm.trans own)) apart

/-- What a call answers that leads. -/
theorem answered_leads (tracks : runner.Tracks settings) (withdraws : runner.Withdraws)
    (holds : runner.calls[index]? = some call) (waits : call.submission = some submission)
    (found : runner.flow.submissions[submission]? = some stored) (leads : stored.part = .leads)
    (phase : stored.phase = .ended (.ok answer)) :
    ∃ result, answer = some result ∧ runner.Answered call result := by
  obtain ⟨owner, other, result, running, owns, submits, same, rfl, ended, job, returns⟩ :=
    tracks.leads found leads phase
  obtain rfl := tracks.index_eq owns holds submits waits
  cases owns.symm.trans holds
  refine ⟨result, rfl, .inl job, succeeds_of_returns tracks owns rfl returns, fun early _ =>
    withdraws.undelivered holds waits found early leads, fun early _ => ?_⟩
  cases status : result.status with
  | cancelled => exact .inl rfl
  | failed =>
    exact .inr ⟨rfl, .inl ⟨running, returns.attempts, returns.caller, returns.fits.fails status⟩⟩
  | succeeded =>
    -- Its last stage would have been the delivery.
    obtain ⟨-, task, task_stored, stage⟩ := returns.fits.succeeds status
    obtain ⟨attempt, there⟩ := List.mem_iff_getElem?.mp returns.attempts
    have caller := Option.some.inj (returns.caller.symm.trans waits)
    have idle := withdraws.idle owner submission attempt call stored running holds early waits found
      leads there caller
    rw [delivering, task_stored, Option.any_some, stage] at idle
    cases idle

/-- Whatever a call answers with. -/
theorem answered_of_ended (tracks : runner.Tracks settings) (withdraws : runner.Withdraws)
    (holds : runner.calls[index]? = some call) (ended : call.ended = some (.ok answer)) :
    ∃ result, answer = some result ∧ runner.Answered call result := by
  cases tracks.entries index call holds with
  | turnedAway none_ late finished own =>
    cases ended.symm.trans finished
    obtain ⟨result, rfl, job, status⟩ := own answer rfl
    refine ⟨result, rfl, .inl job, fun other => ?_, fun early => ?_, fun early => ?_⟩
    · cases status.symm.trans other
    · cases late.symm.trans early
    · cases late.symm.trans early
  | waits _ _ _ _ unended => cases unended.symm.trans ended
  | @ended submission nowMs outcome stored waits found serves phase made =>
    obtain rfl | ⟨refusal, detail, rfl, rfl⟩ :=
      endOf_eq_ok (Option.some.inj (made.symm.trans ended))
    · cases tracks.kept.rows submission stored found with
      | concluded leads => exact answered_leads tracks withdraws holds waits found leads phase
      | @shared primary _ joins finished leads settles =>
        cases phase.symm.trans finished
        obtain ⟨leader, there, part, key⟩ := leads
        obtain ⟨holder, same, future⟩ := settles
        cases there.symm.trans same
        obtain ⟨own, ends, maps⟩ := (tracks.kept.future_eq there part).2 _ future
        cases own with
        | error error => cases maps
        | ok value =>
          cases maps
          exact answered_shared tracks waits found serves (.inl ⟨primary, joins⟩) there part key ends
      | replayed replays finished answers =>
        cases phase.symm.trans finished
        obtain ⟨primary, leader, there, part, key, ends⟩ := answers
        exact answered_shared tracks waits found serves (.inr replays) there part key ends
      | runs _ current =>
        rw [FlowSubmission.current, phase] at current
        cases current
      | joined _ other | left _ other | refused _ other => cases phase.symm.trans other
    · refine ⟨_, rfl, .inl rfl, by rintro ⟨⟩, fun early leads => ?_, fun early leads => ?_⟩
      · rw [partOf_eq waits found] at leads
        exact withdraws.undelivered holds waits found early (Option.some.inj leads)
      · rw [partOf_eq waits found] at leads
        refine .inr ⟨rfl, .inr ⟨submission, stored, detail, waits, found, ?_⟩⟩
        have source := tracks.source found (Option.some.inj leads) phase
        cases source with
        | exhausted => exact phase
        | attempt attempts _ finished =>
          obtain ⟨sound, -⟩ := tracks.attempt attempts
          have done := StageRun.phase_of_outcome finished
          cases sound.place with
          | created other | guards other | returned other => cases done.symm.trans other
          | raised other own =>
            cases done.symm.trans other
            obtain same | ⟨_, same⟩ := own <;> cases same

/-! ### What a call keeps -/

/-- Only the call that settles ends. -/
theorem calls_settle_ne {other : Nat} (differs : other ≠ index) :
    (runner.settle index nowMs).calls[other]? = runner.calls[other]? := by
  rw [settle]
  split
  · rfl
  · split
    · rfl
    · exact List.getElem?_set_ne (Ne.symm differs)

theorem ended_step (tracks : runner.Tracks settings) (holds : runner.calls[index]? = some call)
    (ended : call.ended = some outcome) (steps : runner.step settings action = some after) :
    ∃ next, after.calls[index]? = some next ∧ next.jobId = call.jobId ∧
      next.ended = some outcome := by
  cases step_cases steps with
  | refuses | turnsAway => exact ⟨call, getElem?_add _ holds, rfl, ended⟩
  | submits =>
    have before : index ≠ runner.calls.length :=
      Nat.ne_of_lt (List.getElem?_eq_some_iff.mp holds).1
    exact ⟨call, (calls_settle_ne before).trans (getElem?_add _ holds), rfl, ended⟩
  | interrupts | beats | advances | delivers | finishes => exact ⟨call, holds, rfl, ended⟩
  | @resumes other submission _ _ _ _ owns waits resumes =>
    have differs : index ≠ other := by
      rintro rfl
      cases owns.symm.trans holds
      obtain ⟨stored, found, open_⟩ :=
        PluginFlowController.open_of_resume (PluginFlowController.resume_cases resumes)
      cases tracks.entries index call holds with
      | turnedAway none_ => cases none_.symm.trans waits
      | waits _ _ _ _ unended => cases unended.symm.trans ended
      | ended same there _ finished =>
        cases same.symm.trans waits
        cases found.symm.trans there
        exact open_ _ finished
    exact ⟨call, (calls_settle_ne differs).trans holds, rfl, ended⟩
  | cancels =>
    rw [cancel]
    split
    · exact ⟨call, holds, rfl, ended⟩
    · rename_i other _
      split
      · exact ⟨call, holds, rfl, ended⟩
      · rename_i owner owns
        split
        · exact ⟨call, holds, rfl, ended⟩
        · rw [Table.getElem?_set owns]
          split
          · rename_i same
            cases owns.symm.trans (same ▸ holds)
            exact ⟨_, rfl, rfl, ended⟩
          · exact ⟨call, holds, rfl, ended⟩

/-- Whatever is submitted, cancelled and resumed, and whatever stages do: a call that returns answers
once, with a result of its job or of the one that led its key. -/
theorem results_of_run {actions : List (RunnerAction Output)}
    (runs : Machine.run (step settings) empty actions = some runner) : runner.Results settings := by
  have kept := Machine.invariant_run
    (fun runner : PipelineRunner Output => runner.Tracks settings ∧ runner.Withdraws)
    (fun _ _ _ both steps => ⟨tracks_step both.1 steps, withdraws_step both.1 both.2 steps⟩)
    ⟨tracks_empty, withdraws_empty⟩ runs
  obtain ⟨tracks, withdraws⟩ := kept
  exact ⟨tracks.tokens, fun _ _ _ _ _ => ended_step tracks, fun _ _ _ =>
    answered_of_ended tracks withdraws⟩

/-! ### A job that is answered again -/

def oneJob : RunnerSettings where
  flow := PluginFlowController.twoAtOnce
  maxTrackedJobs := 4

/-- A job whose gate refuses its first stage, and another one under its key. -/
def askedTwice : List (RunnerAction Nat) :=
  [.run "job-1" "scan" none 0 0, .advance 0 (fun _ => some "paused") 0, .resume 0 1 1,
    .run "job-2" "scan" none 2 2]

theorem results_of_run_asked : ∃ runner : PipelineRunner Nat,
    Machine.run (step oneJob) empty askedTwice = some runner ∧ runner.calls.length = 2 ∧
      runner.Results oneJob := by
  have ends : (Machine.run (step oneJob) (empty : PipelineRunner Nat) askedTwice).any fun runner =>
      decide (runner.calls.length = 2) := by
    decide +kernel
  obtain ⟨runner, runs, asked⟩ := Machine.exists_run_of_any ends
  exact ⟨runner, runs, of_decide_eq_true asked, results_of_run runs⟩

/-- The second job is answered with the result of the first. -/
theorem answers_other_job : ∃ (runner : PipelineRunner Nat) (call : RunCall Nat)
    (result : PluginResult Nat), Machine.run (step oneJob) empty askedTwice = some runner ∧
      call ∈ runner.calls ∧ call.ended = some (.ok (some result)) ∧
      ¬ result.jobId = call.jobId := by
  have ends : (Machine.run (step oneJob) (empty : PipelineRunner Nat) askedTwice).any fun runner =>
      decide (⟨"job-2", "scan", none, false, some 1,
        some (.ok (some ⟨"job-1", .cancelled, none, "paused", 0⟩))⟩ ∈ runner.calls) := by
    decide +kernel
  obtain ⟨runner, runs, member⟩ := Machine.exists_run_of_any ends
  exact ⟨runner, _, _, runs, of_decide_eq_true member, rfl, by decide⟩

end PipelineRunner

end Pipeline

end Omnitensor
