/-
This file says what a runner keeps of its calls.

Every submission is that of one call, and its attempts are attempts of the job of that call, which
watch the token of that call. A call that has not ended waits for a submission that has not; one
that has ended was turned away before it submitted, or made its result of how its submission ended.
A registered job is one of a call that has not ended.
-/

import Omnitensor.PipelineAttempts
import Omnitensor.PipelineRunner

namespace Omnitensor

namespace Pipeline

namespace PipelineRunner

variable {Output : Type} {settings : RunnerSettings} {runner after : PipelineRunner Output}

/-! ### What a step does -/

/-- A runner after a submission. -/
def submitted (settings : RunnerSettings) (jobId key : String) (now : Rat)
    (runner : PipelineRunner Output) : PipelineRunner Output :=
  let flow := runner.flow.submit settings.flow key (StageRun.new jobId runner.calls.length) true now
  let leads := (flow.submissions[runner.flow.submissions.length]?).any fun added =>
    decide (added.part = .leads)
  { flow
    calls := runner.calls ++
      [⟨jobId, key, none, false, some runner.flow.submissions.length, none⟩]
    tokens := runner.tokens.set jobId runner.calls.length
    history := if leads then .accepted key :: runner.history else runner.history }

/-- A runner with another state of an attempt. -/
def withAttempt (attempt : Nat) (running : FlowAttempt (StageRun Output)) (state : StageRun Output)
    (runner : PipelineRunner Output) : PipelineRunner Output :=
  { runner with flow := { runner.flow with
      attempts := runner.flow.attempts.set attempt { running with state := state } } }

/-- What a step does to a runner. -/
inductive Steps (settings : RunnerSettings) (runner : PipelineRunner Output) :
    RunnerAction Output → PipelineRunner Output → Prop
  | refuses {jobId idempotencyKey key detail : String} {now : Rat} {nowMs : Nat} :
      Steps settings runner (.run jobId idempotencyKey (some detail) now nowMs)
        (runner.add ⟨jobId, key, none, false, none, some (refused jobId detail nowMs)⟩)
  | turnsAway {jobId idempotencyKey key invalid : String} {now : Rat} {nowMs : Nat} :
      Steps settings runner (.run jobId idempotencyKey none now nowMs)
        (runner.add ⟨jobId, key, none, false, none, some (.error (.raised invalid))⟩)
  | submits {jobId idempotencyKey : String} {now : Rat} {nowMs : Nat}
      (untracked : jobId ∉ runner.tokens.keys) :
      Steps settings runner (.run jobId idempotencyKey none now nowMs)
        ((runner.submitted settings jobId
          (if idempotencyKey = "" then jobId else idempotencyKey) now).settle
            runner.calls.length nowMs)
  | interrupts {index submission : Nat} {call : RunCall Output}
      {flow : PluginFlowController (StageRun Output) (Option (PluginResult Output)) String}
      (stored : runner.calls[index]? = some call) (waits : call.submission = some submission)
      (steps : runner.flow.interrupt (stages Output) submission = some flow) :
      Steps settings runner (.interrupt index) { runner with flow }
  | beats {index submission : Nat} {call : RunCall Output}
      {flow : PluginFlowController (StageRun Output) (Option (PluginResult Output)) String}
      (stored : runner.calls[index]? = some call) (waits : call.submission = some submission)
      (steps : runner.flow.step (stages Output) settings.flow (.beat submission) = some flow) :
      Steps settings runner (.beat index) { runner with flow }
  | resumes {index submission nowMs : Nat} {now : Rat} {call : RunCall Output}
      {flow : PluginFlowController (StageRun Output) (Option (PluginResult Output)) String}
      (stored : runner.calls[index]? = some call) (waits : call.submission = some submission)
      (steps : runner.flow.resume (stages Output) settings.flow submission now = some flow) :
      Steps settings runner (.resume index now nowMs) ({ runner with flow }.settle index nowMs)
  | advances {attempt nowMs : Nat} {refusals : PipelineStage → Option String}
      {running : FlowAttempt (StageRun Output)} {call : RunCall Output} {next : StageRun Output}
      (attempts : runner.flow.attempts[attempt]? = some running)
      (stored : runner.calls[running.state.call]? = some call)
      (goes : running.state.step (.resume refusals call.token nowMs) = some next) :
      Steps settings runner (.advance attempt refusals nowMs)
        (runner.withAttempt attempt running next)
  | delivers {attempt : Nat} {key : String} {running : FlowAttempt (StageRun Output)}
      {task : StageTask Output}
      (attempts : runner.flow.attempts[attempt]? = some running)
      (keyed : runner.flow.keyOf running = some key) (stored : running.state.task = some task)
      (runs : task.outcome = none) (stage : task.stage = .deliver)
      (undelivered : task.delivered = false)
      (goes : running.state.step .deliver =
        some { running.state with task := some { task with delivered := true } }) :
      Steps settings runner (.deliver attempt)
        { runner.withAttempt attempt running
            { running.state with task := some { task with delivered := true } } with
          history := .delivered key :: runner.history }
  | finishes {attempt : Nat} {running : FlowAttempt (StageRun Output)} {task : StageTask Output}
      {outcome : Except StageError (StageOutput Output)}
      (attempts : runner.flow.attempts[attempt]? = some running)
      (stored : running.state.task = some task) (runs : task.outcome = none)
      (goes : running.state.step (.finish outcome) =
        some { running.state with task := some { task with outcome := some outcome } }) :
      Steps settings runner (.finish attempt outcome) (runner.withAttempt attempt running
        { running.state with task := some { task with outcome := some outcome } })
  | cancels {jobId detail : String} :
      Steps settings runner (.cancel jobId detail) (runner.cancel jobId detail)

theorem onAttempt_cases {attempt : Nat} {event : StageEvent Output}
    (steps : runner.onAttempt settings attempt event = some after) :
    ∃ running next, runner.flow.attempts[attempt]? = some running ∧
      running.state.step event = some next ∧ after = runner.withAttempt attempt running next := by
  obtain ⟨flow, goes, same⟩ := Option.bind_eq_some_iff.mp steps
  obtain ⟨running, stored, goes⟩ := Option.bind_eq_some_iff.mp goes
  obtain ⟨next, moves, goes⟩ := Option.bind_eq_some_iff.mp goes
  cases goes
  cases same
  exact ⟨running, next, stored, moves, rfl⟩

theorem step_cases {action : RunnerAction Output} (steps : runner.step settings action = some after) :
    Steps settings runner action after := by
  cases action with
  | run jobId idempotencyKey refusal now nowMs =>
    obtain rfl := Option.some.inj steps
    unfold run
    dsimp only
    split
    · exact .refuses
    · exact .turnsAway
    · rename_i tracked
      refine .submits fun known => ?_
      rw [trackError] at tracked
      split at tracked
      · cases tracked
      · rw [if_pos (Dict.contains_iff.mpr known)] at tracked
        cases tracked
  | interrupt index =>
    obtain ⟨call, stored, steps⟩ := Option.bind_eq_some_iff.mp steps
    obtain ⟨submission, waits, steps⟩ := Option.bind_eq_some_iff.mp steps
    obtain ⟨flow, goes, same⟩ := Option.bind_eq_some_iff.mp steps
    cases same
    exact .interrupts stored waits goes
  | beat index =>
    obtain ⟨call, stored, steps⟩ := Option.bind_eq_some_iff.mp steps
    obtain ⟨submission, waits, steps⟩ := Option.bind_eq_some_iff.mp steps
    obtain ⟨flow, goes, same⟩ := Option.bind_eq_some_iff.mp steps
    cases same
    exact .beats stored waits goes
  | resume index now nowMs =>
    obtain ⟨call, stored, steps⟩ := Option.bind_eq_some_iff.mp steps
    obtain ⟨submission, waits, steps⟩ := Option.bind_eq_some_iff.mp steps
    obtain ⟨flow, goes, same⟩ := Option.bind_eq_some_iff.mp steps
    cases same
    exact .resumes stored waits goes
  | advance attempt refusals nowMs =>
    obtain ⟨running, attempts, steps⟩ := Option.bind_eq_some_iff.mp steps
    obtain ⟨call, stored, steps⟩ := Option.bind_eq_some_iff.mp steps
    obtain ⟨other, next, found, goes, rfl⟩ := onAttempt_cases steps
    cases attempts.symm.trans found
    exact .advances attempts stored goes
  | deliver attempt =>
    obtain ⟨running, attempts, steps⟩ := Option.bind_eq_some_iff.mp steps
    obtain ⟨key, keyed, steps⟩ := Option.bind_eq_some_iff.mp steps
    obtain ⟨next, moves, same⟩ := Option.bind_eq_some_iff.mp steps
    cases same
    obtain ⟨other, state, found, goes, rfl⟩ := onAttempt_cases moves
    cases attempts.symm.trans found
    obtain ⟨task, changed, stored, runs, changes, rfl⟩ := StageRun.onTask_cases goes
    split at changes
    · rename_i delivers
      cases changes
      exact .delivers attempts keyed stored runs delivers.1 delivers.2 goes
    · cases changes
  | finish attempt outcome =>
    obtain ⟨running, next, attempts, goes, rfl⟩ := onAttempt_cases steps
    obtain ⟨task, changed, stored, runs, changes, rfl⟩ := StageRun.onTask_cases goes
    cases changes
    exact .finishes attempts stored runs goes
  | cancel jobId detail =>
    obtain rfl := Option.some.inj steps
    exact .cancels

/-! ### What a runner keeps -/

/-- A submission is that of a call. -/
structure Serves (stored : FlowSubmission (StageRun Output) (Option (PluginResult Output)) String)
    (index : Nat) (call : RunCall Output) : Prop where
  key : stored.key = call.key
  initial : stored.initial = StageRun.new call.jobId index

/-- What a call is: it was turned away before it submitted, or it waits for its submission, or it has
made its outcome of how this has ended. -/
inductive Entry
    (flow : PluginFlowController (StageRun Output) (Option (PluginResult Output)) String)
    (index : Nat) (call : RunCall Output) : Prop
  | turnedAway {outcome : RunOutcome Output} (none_ : call.submission = none)
      (late : call.early = false) (ended : call.ended = some outcome)
      (own : ∀ answer, outcome = .ok answer → ∃ result, answer = some result ∧
        result.jobId = call.jobId ∧ result.status = .cancelled)
  | waits {submission : Nat}
      {stored : FlowSubmission (StageRun Output) (Option (PluginResult Output)) String}
      (waits : call.submission = some submission)
      (found : flow.submissions[submission]? = some stored) (serves : Serves stored index call)
      (open_ : ∀ outcome, stored.phase ≠ .ended outcome) (unended : call.ended = none)
  | ended {submission nowMs : Nat} {outcome : RunOutcome Output}
      {stored : FlowSubmission (StageRun Output) (Option (PluginResult Output)) String}
      (waits : call.submission = some submission)
      (found : flow.submissions[submission]? = some stored) (serves : Serves stored index call)
      (phase : stored.phase = .ended outcome)
      (made : call.ended = some (endOf call.jobId nowMs outcome))

/-- A call of a job has not ended. -/
def Waits (runner : PipelineRunner Output) (index : Nat) (jobId : String) : Prop :=
  ∃ call, runner.calls[index]? = some call ∧ call.jobId = jobId ∧ call.ended = none

/-- What a runner keeps of its calls. -/
structure Tracks (settings : RunnerSettings) (runner : PipelineRunner Output) : Prop where
  kept : runner.flow.Kept (stages Output) settings.flow
  entries : ∀ (index : Nat) (call : RunCall Output), runner.calls[index]? = some call →
    Entry runner.flow index call
  submitted : ∀ (submission : Nat)
      (stored : FlowSubmission (StageRun Output) (Option (PluginResult Output)) String),
    runner.flow.submissions[submission]? = some stored →
    ∃ (index : Nat) (call : RunCall Output), runner.calls[index]? = some call ∧
      call.submission = some submission
  tokens : ∀ jobId index, runner.tokens.get? jobId = some index ↔ runner.Waits index jobId

/-- A call stays what it is when its submission does. -/
theorem Entry.follow
    {flow after : PluginFlowController (StageRun Output) (Option (PluginResult Output)) String}
    {index : Nat} {call : RunCall Output} (entry : Entry flow index call)
    (stays : ∀ submission stored, call.submission = some submission →
      flow.submissions[submission]? = some stored →
        ∃ next, after.submissions[submission]? = some next ∧ next.key = stored.key ∧
          next.initial = stored.initial ∧ next.phase = stored.phase) : Entry after index call := by
  cases entry with
  | turnedAway none_ late ended own => exact .turnedAway none_ late ended own
  | waits waits found serves open_ unended =>
    obtain ⟨next, there, key, initial, phase⟩ := stays _ _ waits found
    exact .waits waits there ⟨key.trans serves.key, initial.trans serves.initial⟩
      (fun outcome ended => open_ outcome (phase.symm.trans ended)) unended
  | ended waits found serves phase made =>
    obtain ⟨next, there, key, initial, same⟩ := stays _ _ waits found
    exact .ended waits there ⟨key.trans serves.key, initial.trans serves.initial⟩
      (same.trans phase) made

/-- The submission of a call that submitted. -/
theorem Entry.serves
    {flow : PluginFlowController (StageRun Output) (Option (PluginResult Output)) String}
    {index submission : Nat} {call : RunCall Output} (entry : Entry flow index call)
    (waits : call.submission = some submission) :
    ∃ stored, flow.submissions[submission]? = some stored ∧ Serves stored index call := by
  cases entry with
  | turnedAway none_ => cases none_.symm.trans waits
  | waits same found serves => exact ⟨_, Option.some.inj (same.symm.trans waits) ▸ found, serves⟩
  | ended same found serves => exact ⟨_, Option.some.inj (same.symm.trans waits) ▸ found, serves⟩

/-- No two calls have a submission in common. -/
theorem Tracks.index_eq (tracks : runner.Tracks settings) {first second submission : Nat}
    {one other : RunCall Output} (firstStored : runner.calls[first]? = some one)
    (secondStored : runner.calls[second]? = some other)
    (oneWaits : one.submission = some submission)
    (otherWaits : other.submission = some submission) : first = second := by
  obtain ⟨stored, found, serves⟩ := (tracks.entries first one firstStored).serves oneWaits
  obtain ⟨another, there, others⟩ := (tracks.entries second other secondStored).serves otherWaits
  cases found.symm.trans there
  exact congrArg StageRun.call (serves.initial.symm.trans others.initial)

/-- What an attempt keeps, and whose it is. -/
theorem Tracks.attempt (tracks : runner.Tracks settings) {attempt : Nat}
    {running : FlowAttempt (StageRun Output)}
    (attempts : runner.flow.attempts[attempt]? = some running) :
    running.state.Sound ∧ ∃ call, runner.calls[running.state.call]? = some call ∧
      call.submission = some running.caller ∧ running.state.jobId = call.jobId ∧
      runner.flow.keyOf running = some call.key := by
  obtain ⟨stored, found, descends⟩ := tracks.kept.descends attempt running attempts
  obtain ⟨index, call, holds, waits⟩ := tracks.submitted running.caller stored found
  obtain ⟨other, there, serves⟩ := (tracks.entries index call holds).serves waits
  cases found.symm.trans there
  rw [serves.initial] at descends
  obtain ⟨sound, jobId, rfl⟩ := StageRun.sound_of_descends descends
  refine ⟨sound, call, holds, waits, jobId, ?_⟩
  rw [PluginFlowController.keyOf, found, ← serves.key]
  rfl

/-! ### What a step keeps -/

theorem settle_cases {index submission : Nat} (nowMs : Nat) {call : RunCall Output}
    {stored : FlowSubmission (StageRun Output) (Option (PluginResult Output)) String}
    (found : runner.calls[index]? = some call) (waits : call.submission = some submission)
    (there : runner.flow.submissions[submission]? = some stored) :
    ((∀ outcome, stored.phase ≠ .ended outcome) ∧ runner.settle index nowMs = runner) ∨
      ∃ outcome, stored.phase = .ended outcome ∧ runner.settle index nowMs = { runner with
        calls := runner.calls.set index
          { call with ended := some (endOf call.jobId nowMs outcome) }
        tokens := runner.tokens.erase call.jobId } := by
  rw [settle, found]
  dsimp only
  rw [waits, Option.bind_some, outcomeOf, there, Option.bind_eq_bind, Option.bind_some]
  cases phase : stored.phase with
  | ended outcome => exact .inr ⟨outcome, rfl, rfl⟩
  | waiting | stopping | joined =>
    refine .inl ⟨?_, rfl⟩
    rintro outcome ⟨⟩

theorem flow_settle (index nowMs : Nat) (runner : PipelineRunner Output) :
    (runner.settle index nowMs).flow = runner.flow ∧
      (runner.settle index nowMs).history = runner.history := by
  rw [settle]
  split
  · exact ⟨rfl, rfl⟩
  · split <;> exact ⟨rfl, rfl⟩

/-- A call that waits for its submission ends with it. -/
theorem tracks_settle {index submission nowMs : Nat} {call : RunCall Output}
    {stored : FlowSubmission (StageRun Output) (Option (PluginResult Output)) String}
    (kept : runner.flow.Kept (stages Output) settings.flow)
    (found : runner.calls[index]? = some call) (waits : call.submission = some submission)
    (there : runner.flow.submissions[submission]? = some stored) (serves : Serves stored index call)
    (unended : call.ended = none)
    (others : ∀ (other : Nat) (another : RunCall Output), other ≠ index →
      runner.calls[other]? = some another → Entry runner.flow other another)
    (submitted : ∀ (submission : Nat)
        (stored : FlowSubmission (StageRun Output) (Option (PluginResult Output)) String),
      runner.flow.submissions[submission]? = some stored →
      ∃ (index : Nat) (call : RunCall Output), runner.calls[index]? = some call ∧
        call.submission = some submission)
    (tokens : ∀ jobId index, runner.tokens.get? jobId = some index ↔ runner.Waits index jobId) :
    (runner.settle index nowMs).Tracks settings := by
  obtain ⟨open_, same⟩ | ⟨outcome, phase, same⟩ := settle_cases nowMs found waits there <;>
    rw [same]
  · refine ⟨kept, fun other another holds => ?_, submitted, tokens⟩
    by_cases own : other = index
    · subst own
      cases found.symm.trans holds
      exact .waits waits there serves open_ unended
    · exact others other another own holds
  · refine ⟨kept, fun other another holds => ?_, fun other another holds => ?_,
      fun jobId other => ?_⟩
    · rw [Table.getElem?_set found] at holds
      split at holds
      · rename_i own
        subst own
        cases holds
        exact .ended waits there ⟨serves.key, serves.initial⟩ phase rfl
      · rename_i differs
        exact others other another differs holds
    · obtain ⟨holder, owner, owns, submits⟩ := submitted other another holds
      by_cases own : holder = index
      · subst own
        cases found.symm.trans owns
        refine ⟨holder, { call with ended := some (endOf call.jobId nowMs outcome) }, ?_, submits⟩
        rw [Table.getElem?_set found, if_pos rfl]
      · exact ⟨holder, owner, by rw [Table.getElem?_set found, if_neg own, owns], submits⟩
    · have registered : runner.tokens.get? call.jobId = some index :=
        (tokens _ _).mpr ⟨call, found, rfl, unended⟩
      have still : Waits { runner with
          calls := runner.calls.set index
            { call with ended := some (endOf call.jobId nowMs outcome) }
          tokens := runner.tokens.erase call.jobId } other jobId ↔
          other ≠ index ∧ runner.Waits other jobId := by
        rw [Waits, Waits, Table.getElem?_set found]
        by_cases own : other = index
        · rw [if_pos own]
          simp only [Option.some.injEq, exists_eq_left', reduceCtorEq, and_false, own, ne_eq,
            not_true_eq_false, false_and]
        · rw [if_neg own]
          exact (and_iff_right own).symm
      rw [still, Dict.get?_erase, ← tokens]
      split
      · rename_i same
        rw [same, registered]
        exact iff_of_false nofun fun both => both.1 (Option.some.inj both.2).symm
      · rename_i differs
        refine ⟨fun known => ⟨?_, known⟩, And.right⟩
        rintro rfl
        obtain ⟨owner, owns, job, -⟩ := (tokens _ _).mp known
        cases found.symm.trans owns
        exact differs job.symm

/-- What of a submission its call goes by. -/
def shown (stored : FlowSubmission (StageRun Output) (Option (PluginResult Output)) String) :
    String × StageRun Output × FlowPhase (Option (PluginResult Output)) String :=
  (stored.key, stored.initial, stored.phase)

/-- A runner keeps its calls when a step shows them nothing. -/
theorem Tracks.stay (tracks : runner.Tracks settings)
    (kept : after.flow.Kept (stages Output) settings.flow) (calls : after.calls = runner.calls)
    (tokens : after.tokens = runner.tokens)
    (stays : ∀ submission : Nat, (after.flow.submissions[submission]?).map shown =
      (runner.flow.submissions[submission]?).map shown) : after.Tracks settings := by
  refine ⟨kept, fun index call holds => ?_, fun submission stored found => ?_, ?_⟩
  · rw [calls] at holds
    refine (tracks.entries index call holds).follow fun submission stored _ found => ?_
    have same := stays submission
    rw [found] at same
    obtain ⟨next, there, shows⟩ := Option.map_eq_some_iff.mp same
    obtain ⟨key, initial, phase⟩ := Prod.mk.inj shows |>.imp_right Prod.mk.inj
    exact ⟨next, there, key, initial, phase⟩
  · have same := stays submission
    rw [found] at same
    obtain ⟨old, there, -⟩ := Option.map_eq_some_iff.mp same.symm
    rw [calls]
    exact tracks.submitted submission old there
  · rw [tokens]
    intro jobId index
    rw [Waits, calls]
    exact tracks.tokens jobId index

/-- A submission that changes only otherwise shows the same. -/
theorem map_shown_set
    {flow : PluginFlowController (StageRun Output) (Option (PluginResult Output)) String}
    {index : Nat} {stored next : FlowSubmission (StageRun Output) (Option (PluginResult Output)) String}
    (found : flow.submissions[index]? = some stored) (same : shown next = shown stored)
    (submission : Nat) : ((flow.submissions.set index next)[submission]?).map shown =
      (flow.submissions[submission]?).map shown := by
  rw [Table.getElem?_set found]
  split
  · rename_i own
    rw [own, found, Option.map_some, Option.map_some, same]
  · rfl

theorem tracks_withAttempt (tracks : runner.Tracks settings) {attempt : Nat}
    {running : FlowAttempt (StageRun Output)} {event : StageEvent Output} {next : StageRun Output}
    (attempts : runner.flow.attempts[attempt]? = some running)
    (steps : running.state.step event = some next) (history : List FlightNote) :
    Tracks settings { runner.withAttempt attempt running next with history } := by
  refine tracks.stay ?_ rfl rfl fun _ => rfl
  exact tracks.kept.follow rfl (PluginFlowController.follows_advance attempts steps) rfl rfl

/-- A row stays when another one is added. -/
theorem getElem?_add {Row : Type} {rows : List Row} {index : Nat} {row : Row} (new : Row)
    (stored : rows[index]? = some row) : (rows ++ [new])[index]? = some row := by
  rw [List.getElem?_append_left (List.getElem?_eq_some_iff.mp stored).1, stored]

/-- A call that never submits is added. -/
theorem Tracks.add (tracks : runner.Tracks settings) {call : RunCall Output}
    {outcome : RunOutcome Output} (none_ : call.submission = none) (late : call.early = false)
    (ended : call.ended = some outcome)
    (own : ∀ answer, outcome = .ok answer → ∃ result, answer = some result ∧
      result.jobId = call.jobId ∧ result.status = .cancelled) :
    (runner.add call).Tracks settings := by
  refine ⟨tracks.kept, fun index other holds => ?_, fun submission stored found => ?_,
    fun jobId index => ?_⟩
  · replace holds : (runner.calls ++ [call])[index]? = some other := holds
    rw [Table.getElem?_concat] at holds
    split at holds
    · cases holds
      exact .turnedAway none_ late ended own
    · exact tracks.entries index other holds
  · obtain ⟨index, other, holds, waits⟩ := tracks.submitted submission stored found
    exact ⟨index, other, getElem?_add call holds, waits⟩
  · show runner.tokens.get? jobId = some index ↔ ∃ other,
      (runner.calls ++ [call])[index]? = some other ∧ _
    rw [tracks.tokens, Waits, Table.getElem?_concat]
    split
    · rename_i last
      rw [last, List.getElem?_eq_none (Nat.le_refl _)]
      refine iff_of_false nofun ?_
      rintro ⟨_, same, -, unended⟩
      cases same
      cases ended.symm.trans unended
    · exact Iff.rfl

theorem tracks_submits (tracks : runner.Tracks settings) {jobId key : String} (now : Rat)
    (nowMs : Nat) (untracked : jobId ∉ runner.tokens.keys) :
    ((runner.submitted settings jobId key now).settle runner.calls.length nowMs).Tracks settings := by
  have submits := PluginFlowController.submit_cases settings.flow key
    (StageRun.new jobId runner.calls.length : StageRun Output) true now runner.flow
  have kept := PluginFlowController.kept_submit tracks.kept submits
  obtain ⟨added, submissions, keyed, initial⟩ := PluginFlowController.submissions_submits submits
  have there : (runner.submitted settings jobId key now).flow.submissions[
      runner.flow.submissions.length]? = some added := by
    show (runner.flow.submit _ _ _ _ _).submissions[_]? = _
    rw [submissions, Table.getElem?_concat, if_pos rfl]
  have found : (runner.submitted settings jobId key now).calls[runner.calls.length]? =
      some ⟨jobId, key, none, false, some runner.flow.submissions.length, none⟩ := by
    show (runner.calls ++ [_])[_]? = _
    rw [Table.getElem?_concat, if_pos rfl]
  refine tracks_settle kept found rfl there ⟨keyed, initial⟩ rfl (fun other another differs holds => ?_)
    (fun submission stored holds => ?_) fun job index => ?_
  · replace holds : (runner.calls ++ [_])[other]? = some another := holds
    rw [Table.getElem?_concat, if_neg differs] at holds
    refine (tracks.entries other another holds).follow fun submission stored _ found => ?_
    refine ⟨stored, ?_, rfl, rfl, rfl⟩
    show (runner.flow.submit _ _ _ _ _).submissions[_]? = _
    rw [submissions]
    exact getElem?_add added found
  · replace holds : (runner.flow.submit _ _ _ _ _).submissions[submission]? = some stored := holds
    rw [submissions, Table.getElem?_concat] at holds
    split at holds
    · rename_i last
      exact ⟨_, _, found, congrArg some last.symm⟩
    · obtain ⟨index, other, owns, waits⟩ := tracks.submitted submission stored holds
      exact ⟨index, other, getElem?_add _ owns, waits⟩
  · show (runner.tokens.set jobId runner.calls.length).get? job = some index ↔ ∃ other,
      (runner.calls ++ [_])[index]? = some other ∧ _
    rw [Dict.get?_set, Table.getElem?_concat]
    have known := tracks.tokens job index
    by_cases last : index = runner.calls.length
    · rw [if_pos last]
      simp only [Option.some.injEq, exists_eq_left', and_true]
      split
      · rename_i same
        exact iff_of_true (congrArg some last.symm) same.symm
      · rename_i differs
        refine iff_of_false (fun other => ?_) (Ne.symm differs)
        obtain ⟨_, beyond, -⟩ := known.mp other
        rw [last, List.getElem?_eq_none (Nat.le_refl _)] at beyond
        cases beyond
    · rw [if_neg last]
      split
      · rename_i same
        refine iff_of_false (fun new => last (Option.some.inj new).symm) fun waits => untracked ?_
        exact same ▸ Dict.mem_keys_of_get? (known.mpr waits)
      · exact known

theorem tracks_resumes (tracks : runner.Tracks settings) {index submission nowMs : Nat} {now : Rat}
    {call : RunCall Output}
    {flow : PluginFlowController (StageRun Output) (Option (PluginResult Output)) String}
    (holds : runner.calls[index]? = some call) (waits : call.submission = some submission)
    (resumes : runner.flow.resume (stages Output) settings.flow submission now = some flow) :
    ({ runner with flow }.settle index nowMs).Tracks settings := by
  replace resumes := PluginFlowController.resume_cases resumes
  have kept := PluginFlowController.kept_resume tracks.kept resumes
  obtain ⟨stored, next, found, submissions, persists⟩ :=
    PluginFlowController.touches_resume tracks.kept resumes
  obtain ⟨same, there, open_⟩ := PluginFlowController.open_of_resume resumes
  cases found.symm.trans there
  have changed := Table.getElem?_set found next
  rw [← submissions] at changed
  obtain ⟨serves, unended⟩ : Serves stored index call ∧ call.ended = none := by
    cases tracks.entries index call holds with
    | turnedAway none_ => cases none_.symm.trans waits
    | waits same found' serves _ unended =>
      cases same.symm.trans waits
      cases found.symm.trans found'
      exact ⟨serves, unended⟩
    | ended same found' _ phase =>
      cases same.symm.trans waits
      cases found.symm.trans found'
      exact absurd phase (open_ _)
  refine @tracks_settle _ _ _ _ _ _ _ next kept holds waits ((changed submission).trans (if_pos rfl))
    ⟨persists.key.trans serves.key, persists.initial.trans serves.initial⟩ unended
    (fun other another differs holds' => ?_) (fun other another found' => ?_) tracks.tokens
  · refine (tracks.entries other another holds').follow fun own old same found' => ?_
    refine ⟨old, ?_, rfl, rfl, rfl⟩
    have differs : own ≠ submission := by
      rintro rfl
      exact differs (tracks.index_eq holds' holds same waits)
    exact (changed own).trans ((if_neg differs).trans found')
  · replace found' : flow.submissions[other]? = some another := found'
    rw [changed] at found'
    split at found'
    · rename_i own
      exact ⟨index, call, holds, waits.trans (congrArg some own.symm)⟩
    · exact tracks.submitted other another found'

theorem tracks_cancel (tracks : runner.Tracks settings) (jobId detail : String) :
    (runner.cancel jobId detail).Tracks settings := by
  rw [cancel]
  split
  · exact tracks
  · rename_i index registered
    obtain ⟨call, holds, -, unended⟩ := (tracks.tokens jobId index).mp registered
    rw [holds]
    dsimp only
    split
    · exact tracks
    · refine ⟨tracks.kept, fun other another found => ?_, fun submission stored found => ?_,
        fun job other => ?_⟩
      · rw [Table.getElem?_set holds] at found
        split at found
        · rename_i own
          subst own
          cases found
          cases tracks.entries other call holds with
          | turnedAway _ _ ended => cases unended.symm.trans ended
          | waits waits found serves open_ unended =>
            exact .waits waits found ⟨serves.key, serves.initial⟩ open_ unended
          | ended _ _ _ _ made => cases unended.symm.trans made
        · exact tracks.entries other another found
      · obtain ⟨other, another, holds', waits⟩ := tracks.submitted submission stored found
        have changed := Table.getElem?_set holds { call with
          token := some (if detail = "" then "caller-cancelled" else detail)
          early := !call.submission.any (deliveryStarted runner.flow) } other
        by_cases own : other = index
        · subst own
          cases holds.symm.trans holds'
          exact ⟨other, _, changed.trans (if_pos rfl), waits⟩
        · exact ⟨other, another, changed.trans ((if_neg own).trans holds'), waits⟩
      · rw [Waits, Table.getElem?_set holds]
        by_cases own : other = index
        · rw [if_pos own, tracks.tokens, Waits, own, holds]
          simp only [Option.some.injEq, exists_eq_left']
        · rw [if_neg own]
          exact tracks.tokens job other

theorem refused_eq_ok {jobId detail : String} {nowMs : Nat} {answer : Option (PluginResult Output)}
    (answers : refused jobId detail nowMs = .ok answer) :
    answer = some ⟨jobId, .cancelled, none, detail, nowMs⟩ := by
  rw [refused] at answers
  split at answers
  · cases answers
  · rename_i machine made
    obtain rfl := PipelineStateMachine.new_eq_ok made
    exact (Except.ok.inj answers).symm

/-- Every step of a runner keeps its calls. -/
theorem tracks_step {action : RunnerAction Output} (tracks : runner.Tracks settings)
    (steps : runner.step settings action = some after) : after.Tracks settings := by
  cases step_cases steps with
  | refuses =>
    refine tracks.add rfl rfl rfl fun answer answers => ?_
    exact ⟨_, refused_eq_ok answers, rfl, rfl⟩
  | turnsAway => exact tracks.add rfl rfl rfl nofun
  | submits untracked => exact tracks_submits tracks _ _ untracked
  | interrupts stored waits interrupts =>
    obtain ⟨submission, found, -, ends⟩ := PluginFlowController.interrupt_cases interrupts
    refine tracks.stay (PluginFlowController.kept_interrupt tracks.kept interrupts) rfl rfl ?_
    obtain rfl | ⟨attempt, rfl⟩ := ends <;> exact map_shown_set found rfl
  | beats stored waits beats =>
    refine tracks.stay (PluginFlowController.kept_step tracks.kept beats) rfl rfl ?_
    obtain ⟨submission, found, beats⟩ := Option.bind_eq_some_iff.mp beats
    cases beats
    exact map_shown_set found rfl
  | resumes holds waits resumes => exact tracks_resumes tracks holds waits resumes
  | advances attempts _ goes => exact tracks_withAttempt tracks attempts goes _
  | delivers attempts _ _ _ _ _ goes => exact tracks_withAttempt tracks attempts goes _
  | finishes attempts _ _ goes => exact tracks_withAttempt tracks attempts goes _
  | cancels => exact tracks_cancel tracks _ _

theorem tracks_empty : (empty : PipelineRunner Output).Tracks settings where
  kept := PluginFlowController.kept_empty
  entries _ _ holds := by simp [empty] at holds
  submitted _ _ found := by simp [empty, PluginFlowController.empty] at found
  tokens jobId index := by simp [empty, Waits]

end PipelineRunner

end Pipeline

end Omnitensor
