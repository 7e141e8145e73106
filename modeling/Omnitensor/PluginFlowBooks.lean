/-
This file says what a controller keeps, however its submissions, their attempts and their callers
interleave.

A key is in flight exactly as long as a submission that leads it has not ended, and an attempt that
runs is the one that such a submission waits for: so a key has one of either. What a submission was
to its key, and what it settled and how it ended, never changes; so whatever was true of the one
that another one joined, or of the one that a result is retained from, stays true.
-/

import Omnitensor.PluginFlow

namespace Omnitensor

variable {State Event Value Failure : Type}

namespace FlowSubmission

/-- The attempt that a submission waits for. -/
def current (submission : FlowSubmission State Value Failure) : Option Nat :=
  match submission.phase with
  | .waiting attempt _ => some attempt
  | .stopping attempt _ => some attempt
  | _ => none

/-- How many attempts a submission has begun, as far as it counts them. -/
def number (submission : FlowSubmission State Value Failure) : Nat :=
  match submission.phase with
  | .waiting _ number => number
  | .stopping _ number => number
  | _ => 0

end FlowSubmission

namespace PluginFlowController

variable {operation : Operation State Event Value Failure} {settings : FlowSettings}

/-! ### What a step does -/

/-- The attempt of a submission was given up, or says that it was silent. -/
def Silent (operation : Operation State Event Value Failure)
    (submission : FlowSubmission State Value Failure) (running : FlowAttempt State) : Prop :=
  (∃ attempt number, submission.phase = .stopping attempt number) ∨
    operation.outcome running.state = some (.error .timeout)

/-- How a submission that leads can end. -/
inductive Concludes (operation : Operation State Event Value Failure) (settings : FlowSettings)
    (submission : FlowSubmission State Value Failure) (running : FlowAttempt State) :
    Except (FlowError Failure) Value → Prop
  | interrupted (interrupted : submission.interrupted = true) :
      Concludes operation settings submission running (.error .cancelled)
  | outcome {outcome : Except (FlowError Failure) Value}
      (waits : ∃ attempt number, submission.phase = .waiting attempt number)
      (ended : operation.outcome running.state = some outcome)
      (remains : submission.interrupted = false) :
      Concludes operation settings submission running outcome
  | exhausted {detail : String} (remains : submission.interrupted = false)
      (silent : Silent operation submission running)
      (enough : settings.maxRetries + 1 ≤ submission.number) :
      Concludes operation settings submission running (.error (.refused .retriesExhausted detail))

/-- What happens when a submission goes on. -/
inductive Resumes (operation : Operation State Event Value Failure) (settings : FlowSettings)
    (index : Nat) (now : Rat) (flow : PluginFlowController State Value Failure) :
    PluginFlowController State Value Failure → Prop
  | waits {submission : FlowSubmission State Value Failure} {attempt : Nat}
      (stored : flow.submissions[index]? = some submission)
      (current : submission.current = some attempt) :
      Resumes operation settings index now flow
        (flow.setSubmission index { submission with heartbeat := some false })
  | stops {submission : FlowSubmission State Value Failure} {attempt number : Nat}
      (stored : flow.submissions[index]? = some submission)
      (phase : submission.phase = .waiting attempt number) :
      Resumes operation settings index now flow
        ((flow.cancelAttempt operation attempt).setSubmission index
          { submission with phase := .stopping attempt number })
  | retries {submission : FlowSubmission State Value Failure} {attempt : Nat}
      {running : FlowAttempt State}
      (stored : flow.submissions[index]? = some submission)
      (current : submission.current = some attempt)
      (attempts : flow.attempts[attempt]? = some running)
      (ended : (operation.outcome running.state).isSome = true)
      (remains : submission.interrupted = false)
      (silent : Silent operation submission running)
      (few : submission.number < settings.maxRetries + 1) :
      Resumes operation settings index now flow
        (({ flow with retried := flow.retried + 1 }.begin index submission.initial).setSubmission
          index { submission with
            phase := .waiting flow.attempts.length (submission.number + 1) })
  | concludes (failed : Nat) {submission : FlowSubmission State Value Failure} {attempt : Nat}
      {running : FlowAttempt State} {outcome : Except (FlowError Failure) Value}
      (stored : flow.submissions[index]? = some submission)
      (current : submission.current = some attempt)
      (attempts : flow.attempts[attempt]? = some running)
      (ended : (operation.outcome running.state).isSome = true)
      (ends : Concludes operation settings submission running outcome) :
      Resumes operation settings index now flow
        ({ flow with failed := failed }.conclude settings index submission outcome now)
  | leaves {submission : FlowSubmission State Value Failure} {primary : Nat}
      (stored : flow.submissions[index]? = some submission)
      (joins : submission.part = .joins primary) (phase : submission.phase = .joined)
      (interrupted : submission.interrupted = true) :
      Resumes operation settings index now flow
        (flow.setSubmission index { submission with phase := .ended (.error .cancelled) })
  | shares {submission leader : FlowSubmission State Value Failure} {primary : Nat}
      {outcome : Except (FlowError Failure) Value}
      (stored : flow.submissions[index]? = some submission)
      (joins : submission.part = .joins primary) (phase : submission.phase = .joined)
      (leads : flow.submissions[primary]? = some leader) (settled : leader.future = some outcome) :
      Resumes operation settings index now flow
        (flow.setSubmission index { submission with phase := .ended outcome })

variable {flow after : PluginFlowController State Value Failure} {index : Nat}

theorem resumes_of_retry {now : Rat} {submission : FlowSubmission State Value Failure}
    {attempt : Nat} {running : FlowAttempt State}
    (stored : flow.submissions[index]? = some submission)
    (current : submission.current = some attempt)
    (attempts : flow.attempts[attempt]? = some running)
    (ended : (operation.outcome running.state).isSome = true)
    (remains : submission.interrupted = false) (silent : Silent operation submission running) :
    Resumes operation settings index now flow
      (flow.retry settings index submission submission.number now) := by
  rw [retry]
  split
  · rename_i enough
    exact .concludes (flow.failed + 1) stored current attempts ended
      (.exhausted remains silent enough)
  · rename_i few
    exact .retries stored current attempts ended remains silent (Nat.lt_of_not_le few)

theorem resume_cases {now : Rat} (resumes : flow.resume operation settings index now = some after) :
    Resumes operation settings index now flow after := by
  rw [resume] at resumes
  obtain ⟨submission, stored, resumes⟩ := Option.bind_eq_some_iff.mp resumes
  split at resumes
  · rename_i attempt number phase
    have current : submission.current = some attempt := by rw [FlowSubmission.current, phase]
    have counted : submission.number = number := by rw [FlowSubmission.number, phase]
    obtain ⟨running, attempts, resumes⟩ := Option.bind_eq_some_iff.mp resumes
    split at resumes
    · rename_i outcome interrupted
      cases resumes
      exact .concludes flow.failed stored current attempts (by rw [outcome]; rfl)
        (.interrupted interrupted)
    · cases resumes
      exact .stops stored phase
    · rename_i outcome remains
      cases resumes
      rw [← counted]
      exact resumes_of_retry stored current attempts (by rw [outcome]; rfl) remains (.inr outcome)
    · rename_i outcome ended remains
      cases resumes
      exact .concludes flow.failed stored current attempts (by rw [ended]; rfl)
        (.outcome ⟨_, _, phase⟩ ended remains)
    · split at resumes
      · cases resumes
        exact .waits stored current
      · cases resumes
        exact .stops stored phase
  · rename_i attempt number phase
    have current : submission.current = some attempt := by rw [FlowSubmission.current, phase]
    have counted : submission.number = number := by rw [FlowSubmission.number, phase]
    obtain ⟨running, attempts, resumes⟩ := Option.bind_eq_some_iff.mp resumes
    split at resumes
    · cases resumes
    · rename_i outcome interrupted
      cases resumes
      exact .concludes flow.failed stored current attempts (by rw [outcome]; rfl)
        (.interrupted interrupted)
    · rename_i outcome remains
      cases resumes
      rw [← counted]
      exact resumes_of_retry stored current attempts (by rw [outcome]; rfl) remains
        (.inl ⟨attempt, number, phase⟩)
  · rename_i phase
    split at resumes
    · rename_i primary joins interrupted
      cases resumes
      exact .leaves stored joins phase interrupted
    · rename_i primary joins remains
      obtain ⟨leader, leads, resumes⟩ := Option.bind_eq_some_iff.mp resumes
      obtain ⟨outcome, settled, resumes⟩ := Option.bind_eq_some_iff.mp resumes
      cases resumes
      exact .shares stored joins phase leads settled
    · cases resumes
  · cases resumes

/-- A submission that is interrupted has not ended, and passes it on at most. -/
theorem interrupt_cases (interrupts : flow.interrupt operation index = some after) :
    ∃ submission, flow.submissions[index]? = some submission ∧
      (∀ outcome, submission.phase ≠ .ended outcome) ∧
      (after = flow.setSubmission index { submission with interrupted := true } ∨
        ∃ attempt, after = (flow.setSubmission index
          { submission with interrupted := true }).cancelAttempt operation attempt) := by
  rw [interrupt] at interrupts
  obtain ⟨submission, stored, interrupts⟩ := Option.bind_eq_some_iff.mp interrupts
  refine ⟨submission, stored, ?_⟩
  split at interrupts
  · rename_i phase
    exact ⟨fun _ ended => (by cases phase.symm.trans ended),
      .inl (Option.some.inj interrupts).symm⟩
  · rename_i phase
    exact ⟨fun _ ended => (by cases phase.symm.trans ended),
      .inl (Option.some.inj interrupts).symm⟩
  · rename_i attempt _ phase
    exact ⟨fun _ ended => (by cases phase.symm.trans ended),
      .inr ⟨attempt, (Option.some.inj interrupts).symm⟩⟩
  · cases interrupts

/-- Two controllers with the same submissions, and of which the second retains no more. -/
structure Same (flow base : PluginFlowController State Value Failure) : Prop where
  submissions : base.submissions = flow.submissions
  attempts : base.attempts = flow.attempts
  inFlight : base.inFlight = flow.inFlight
  completed : ∀ key entry, base.completed.get? key = some entry →
    flow.completed.get? key = some entry
  size : base.completed.size ≤ flow.completed.size

/-- What happens when a key is submitted. -/
inductive Submits (settings : FlowSettings) (key : String) (initial : State) (heartbeat : Bool)
    (flow : PluginFlowController State Value Failure) :
    PluginFlowController State Value Failure → Prop
  | refuses {base : PluginFlowController State Value Failure} {refusal : FlowRefusal}
      {detail : String} (same : Same flow base) :
      Submits settings key initial heartbeat flow (base.add key initial heartbeat .refused
        (.ended (.error (.refused refusal detail))))
  | replays {base : PluginFlowController State Value Failure} {storedAt : Rat} {result : Value}
      (same : Same flow base) (found : flow.completed.get? key = some (storedAt, result)) :
      Submits settings key initial heartbeat flow
        (base.add key initial heartbeat .replays (.ended (.ok result)))
  | joins {base : PluginFlowController State Value Failure} {primary : Nat}
      (same : Same flow base) (flying : flow.inFlight.get? key = some primary) :
      Submits settings key initial heartbeat flow
        (base.add key initial heartbeat (.joins primary) .joined)
  | leads {base : PluginFlowController State Value Failure} (same : Same flow base)
      (free : flow.inFlight.get? key = none) (room : flow.inFlight.size < settings.maxInFlight) :
      Submits settings key initial heartbeat flow
        (({ base with inFlight := base.inFlight.set key base.submissions.length }.begin
          base.submissions.length initial).add key initial heartbeat .leads
            (.waiting base.attempts.length 1))

theorem retained_cases (settings : FlowSettings) (completed : Dict String (Rat × Value))
    (key : String) (now : Rat) :
    (∀ other entry, (retained settings completed key now).2.get? other = some entry →
        completed.get? other = some entry) ∧
      (retained settings completed key now).2.size ≤ completed.size ∧
      ∀ result, (retained settings completed key now).1 = some result →
        ∃ storedAt, completed.get? key = some (storedAt, result) := by
  rw [retained]
  split
  · exact ⟨fun _ _ => id, Nat.le_refl _, nofun⟩
  · rename_i storedAt result found
    split
    · refine ⟨fun other entry kept => ?_, Dict.size_erase_le _ _, nofun⟩
      rw [Dict.get?_erase] at kept
      split at kept
      · cases kept
      · exact kept
    · refine ⟨fun other entry kept => ?_, ?_, fun _ same => ?_⟩
      · rw [Dict.get?_set, Dict.get?_erase] at kept
        split at kept
        · rename_i same
          rw [same, found, ← kept]
        · exact kept
      · exact Nat.le_trans (Dict.size_set_le _ _ _) (Nat.le_of_eq (Dict.size_erase_add_one found))
      · obtain rfl := Option.some.inj same
        exact ⟨storedAt, found⟩

theorem submit_cases (settings : FlowSettings) (key : String) (initial : State) (heartbeat : Bool)
    (now : Rat) (flow : PluginFlowController State Value Failure) :
    Submits settings key initial heartbeat flow
      (flow.submit settings key initial heartbeat now) := by
  rw [submit]
  split
  · exact .refuses ⟨rfl, rfl, rfl, fun _ _ => id, Nat.le_refl _⟩
  obtain ⟨kept, small, answers⟩ := retained_cases settings flow.completed key now
  generalize retained settings flow.completed key now = looked at kept small answers
  obtain ⟨found, completed⟩ := looked
  cases found with
  | some result =>
    obtain ⟨storedAt, stored⟩ := answers result rfl
    exact .replays ⟨rfl, rfl, rfl, kept, small⟩ stored
  | none =>
    dsimp only
    split
    · rename_i primary flying
      exact .joins ⟨rfl, rfl, rfl, kept, small⟩ flying
    · rename_i free
      split
      · have same : Same flow
            { flow with completed := completed, dropped := flow.dropped + 1 } :=
          ⟨rfl, rfl, rfl, kept, small⟩
        exact .refuses same
      · rename_i room
        have same : Same flow
            { flow with completed := completed, accepted := flow.accepted + 1 } :=
          ⟨rfl, rfl, rfl, kept, small⟩
        exact .leads same free (Nat.lt_of_not_le room)

/-! ### What stays -/

/-- A submission goes on as another: of the same key, operation and part, and settled and ended alike
if it was. -/
structure Persists (submission next : FlowSubmission State Value Failure) : Prop where
  key : next.key = submission.key
  initial : next.initial = submission.initial
  part : next.part = submission.part
  future : ∀ outcome, submission.future = some outcome → next.future = some outcome
  phase : ∀ outcome, submission.phase = .ended outcome → next.phase = .ended outcome

/-- Every submission of a controller goes on in another, and so does every attempt. -/
structure Extends (operation : Operation State Event Value Failure)
    (flow after : PluginFlowController State Value Failure) : Prop where
  submissions : ∀ (index : Nat) (submission : FlowSubmission State Value Failure),
    flow.submissions[index]? = some submission →
      ∃ next, after.submissions[index]? = some next ∧ Persists submission next
  attempts : ∀ (attempt : Nat) (running : FlowAttempt State),
    flow.attempts[attempt]? = some running →
      ∃ next, after.attempts[attempt]? = some next ∧ next.caller = running.caller ∧
        operation.Descends running.state next.state

/-- A submission leads a key. -/
def Leads (flow : PluginFlowController State Value Failure) (index : Nat) (key : String) : Prop :=
  ∃ submission, flow.submissions[index]? = some submission ∧ submission.part = .leads ∧
    submission.key = key

/-- A submission has settled its future. -/
def Settles (flow : PluginFlowController State Value Failure) (index : Nat)
    (outcome : Except (FlowError Failure) Value) : Prop :=
  ∃ submission, flow.submissions[index]? = some submission ∧ submission.future = some outcome

/-- A submission that led a key has returned a result. -/
def Answers (flow : PluginFlowController State Value Failure) (key : String) (result : Value) :
    Prop :=
  ∃ (index : Nat) (submission : FlowSubmission State Value Failure),
    flow.submissions[index]? = some submission ∧ submission.part = .leads ∧
      submission.key = key ∧ submission.phase = .ended (.ok result)

/-- How a submission that leads has ended: interrupted, without an attempt left, or as one of its
attempts. -/
inductive Source (operation : Operation State Event Value Failure)
    (flow : PluginFlowController State Value Failure) (index : Nat) :
    Except (FlowError Failure) Value → Prop
  | interrupted : Source operation flow index (.error .cancelled)
  | exhausted {detail : String} :
      Source operation flow index (.error (.refused .retriesExhausted detail))
  | attempt {attempt : Nat} {running : FlowAttempt State}
      {outcome : Except (FlowError Failure) Value}
      (stored : flow.attempts[attempt]? = some running) (caller : running.caller = index)
      (ended : operation.outcome running.state = some outcome) : Source operation flow index outcome

/-- What a submission is, by its part: one that leads waits for an attempt of its own, or has settled
what it ended with; one that joined waits for the future, or has ended with it or interrupted. -/
inductive Row (operation : Operation State Event Value Failure) (settings : FlowSettings)
    (flow : PluginFlowController State Value Failure) (index : Nat)
    (submission : FlowSubmission State Value Failure) : Prop
  | runs {attempt : Nat} {running : FlowAttempt State} (leads : submission.part = .leads)
      (current : submission.current = some attempt) (unsettled : submission.future = none)
      (attempts : flow.attempts[attempt]? = some running) (caller : running.caller = index)
  | concluded {outcome : Except (FlowError Failure) Value} (leads : submission.part = .leads)
      (phase : submission.phase = .ended outcome)
      (settled : submission.future = some (outcome.mapError (coalescedFailure settings)))
      (source : flow.Source operation index outcome)
  | joined {primary : Nat} (joins : submission.part = .joins primary)
      (phase : submission.phase = .joined) (leads : flow.Leads primary submission.key)
  | left {primary : Nat} (joins : submission.part = .joins primary)
      (phase : submission.phase = .ended (.error .cancelled))
      (interrupted : submission.interrupted = true) (leads : flow.Leads primary submission.key)
  | shared {primary : Nat} {outcome : Except (FlowError Failure) Value}
      (joins : submission.part = .joins primary) (phase : submission.phase = .ended outcome)
      (leads : flow.Leads primary submission.key) (settles : flow.Settles primary outcome)
  | replayed {result : Value} (replays : submission.part = .replays)
      (phase : submission.phase = .ended (.ok result)) (answers : flow.Answers submission.key result)
  | refused {refusal : FlowRefusal} {detail : String} (refused : submission.part = .refused)
      (phase : submission.phase = .ended (.error (.refused refusal detail)))

namespace Extends

variable {flow middle after : PluginFlowController State Value Failure}

theorem leads (extended : Extends operation flow after) {index : Nat} {key : String}
    (leads : flow.Leads index key) : after.Leads index key := by
  obtain ⟨submission, stored, part, same⟩ := leads
  obtain ⟨next, found, persists⟩ := extended.submissions index submission stored
  exact ⟨next, found, persists.part.trans part, persists.key.trans same⟩

variable {index : Nat} {outcome : Except (FlowError Failure) Value}

theorem settles (extended : Extends operation flow after) (settles : flow.Settles index outcome) :
    after.Settles index outcome := by
  obtain ⟨submission, stored, future⟩ := settles
  obtain ⟨next, found, persists⟩ := extended.submissions index submission stored
  exact ⟨next, found, persists.future outcome future⟩

theorem answers (extended : Extends operation flow after) {key : String} {result : Value}
    (answers : flow.Answers key result) : after.Answers key result := by
  obtain ⟨index, submission, stored, part, same, phase⟩ := answers
  obtain ⟨next, found, persists⟩ := extended.submissions index submission stored
  exact ⟨index, next, found, persists.part.trans part, persists.key.trans same,
    persists.phase _ phase⟩

theorem source (extended : Extends operation flow after)
    (source : flow.Source operation index outcome) : after.Source operation index outcome := by
  cases source with
  | interrupted => exact .interrupted
  | exhausted => exact .exhausted
  | attempt stored caller ended =>
    obtain ⟨next, found, same, descends⟩ := extended.attempts _ _ stored
    exact .attempt found (same.trans caller) (descends.outcome ended)

theorem descends (extended : Extends operation flow after) {caller : Nat} {state next : State}
    (before : ∃ submission, flow.submissions[caller]? = some submission ∧
      operation.Descends submission.initial state) (goes : operation.Descends state next) :
    ∃ submission, after.submissions[caller]? = some submission ∧
      operation.Descends submission.initial next := by
  obtain ⟨submission, stored, descends⟩ := before
  obtain ⟨other, found, persists⟩ := extended.submissions caller submission stored
  exact ⟨other, found, persists.initial ▸ descends.trans goes⟩

theorem row (extended : Extends operation flow after)
    {submission : FlowSubmission State Value Failure}
    (row : flow.Row operation settings index submission) :
    after.Row operation settings index submission := by
  cases row with
  | runs leads current unsettled attempts caller =>
    obtain ⟨next, found, same, -⟩ := extended.attempts _ _ attempts
    exact .runs leads current unsettled found (same.trans caller)
  | concluded leads phase settled source =>
    exact .concluded leads phase settled (extended.source source)
  | joined joins phase leads => exact .joined joins phase (extended.leads leads)
  | left joins phase interrupted leads => exact .left joins phase interrupted (extended.leads leads)
  | shared joins phase leads settles =>
    exact .shared joins phase (extended.leads leads) (extended.settles settles)
  | replayed replays phase answers => exact .replayed replays phase (extended.answers answers)
  | refused refused phase => exact .refused refused phase

end Extends

/-- What a controller keeps. -/
structure Kept (operation : Operation State Event Value Failure) (settings : FlowSettings)
    (flow : PluginFlowController State Value Failure) : Prop where
  rows : ∀ (index : Nat) (submission : FlowSubmission State Value Failure),
    flow.submissions[index]? = some submission → flow.Row operation settings index submission
  flights : ∀ key index, flow.inFlight.get? key = some index ↔
    ∃ submission, flow.submissions[index]? = some submission ∧ submission.key = key ∧
      submission.current.isSome = true
  running : ∀ (attempt : Nat) (running : FlowAttempt State),
    flow.attempts[attempt]? = some running → operation.outcome running.state = none →
    ∃ submission, flow.submissions[running.caller]? = some submission ∧
      submission.current = some attempt
  /-- Every attempt goes on from what the operation of its submission starts as. -/
  descends : ∀ (attempt : Nat) (running : FlowAttempt State),
    flow.attempts[attempt]? = some running →
    ∃ submission, flow.submissions[running.caller]? = some submission ∧
      operation.Descends submission.initial running.state
  answers : ∀ key storedAt result, flow.completed.get? key = some (storedAt, result) →
    flow.Answers key result
  bounded : flow.inFlight.size ≤ settings.maxInFlight
  retains : flow.completed.size ≤ settings.resultRetention

/-! ### What a step keeps -/

section

variable {flow after : PluginFlowController State Value Failure}

/-- The attempts of a controller are those of another that have gone on. -/
structure Follows (operation : Operation State Event Value Failure)
    (flow after : PluginFlowController State Value Failure) : Prop where
  forth : ∀ (attempt : Nat) (running : FlowAttempt State),
    flow.attempts[attempt]? = some running →
      ∃ next, after.attempts[attempt]? = some next ∧ next.caller = running.caller ∧
        operation.Descends running.state next.state
  back : ∀ (attempt : Nat) (next : FlowAttempt State), after.attempts[attempt]? = some next →
    ∃ running, flow.attempts[attempt]? = some running ∧ next.caller = running.caller ∧
      operation.Descends running.state next.state

theorem follows_of_eq (same : after.attempts = flow.attempts) : Follows operation flow after where
  forth _ running stored := ⟨running, same ▸ stored, rfl, .refl⟩
  back _ next stored := ⟨next, same ▸ stored, rfl, .refl⟩

theorem follows_cancelAttempt (attempt : Nat) :
    Follows operation flow (flow.cancelAttempt operation attempt) where
  forth other running stored := by
    rw [cancelAttempt, List.getElem?_modify, stored]
    refine ⟨_, rfl, by dsimp only; split <;> rfl, ?_⟩
    dsimp only
    split
    · exact .cancel .refl
    · exact .refl
  back other next stored := by
    rw [cancelAttempt, List.getElem?_modify, Option.map_eq_map] at stored
    obtain ⟨running, found, rfl⟩ := Option.map_eq_some_iff.mp stored
    refine ⟨running, found, by split <;> rfl, ?_⟩
    split
    · exact .cancel .refl
    · exact .refl

variable {attempt index : Nat} {next submission added : FlowSubmission State Value Failure}
  {key : String} {now : Rat} {running : FlowAttempt State}
  {base : PluginFlowController State Value Failure} {initial : State} {heartbeat : Bool}

theorem follows_advance {next : State} {event : Event}
    (stored : flow.attempts[attempt]? = some running)
    (steps : operation.step running.state event = some next) :
    Follows operation flow
      { flow with attempts := flow.attempts.set attempt { running with state := next } } where
  forth other old found := by
    rw [Table.getElem?_set stored]
    split
    · rename_i same
      obtain rfl := Option.some.inj (stored.symm.trans (same ▸ found))
      exact ⟨_, rfl, rfl, .step .refl steps⟩
    · exact ⟨old, found, rfl, .refl⟩
  back other new found := by
    rw [Table.getElem?_set stored] at found
    split at found
    · rename_i same
      cases found
      exact ⟨running, same ▸ stored, rfl, .step .refl steps⟩
    · exact ⟨new, found, rfl, .refl⟩

theorem Persists.refl (submission : FlowSubmission State Value Failure) :
    Persists submission submission := ⟨rfl, rfl, rfl, fun _ => id, fun _ => id⟩

theorem extends_set (stored : flow.submissions[index]? = some submission)
    (persists : Persists submission next)
    (submissions : after.submissions = flow.submissions.set index next)
    (attempts : ∀ (attempt : Nat) (running : FlowAttempt State),
      flow.attempts[attempt]? = some running →
        ∃ next, after.attempts[attempt]? = some next ∧ next.caller = running.caller ∧
          operation.Descends running.state next.state) :
    Extends operation flow after where
  submissions other old found := by
    rw [submissions, Table.getElem?_set stored]
    split
    · rename_i same
      obtain rfl := Option.some.inj (stored.symm.trans (same ▸ found))
      exact ⟨next, rfl, persists⟩
    · exact ⟨old, found, Persists.refl old⟩
  attempts := attempts

theorem rows_set (kept : flow.Kept operation settings) (extended : Extends operation flow after)
    (stored : flow.submissions[index]? = some submission)
    (submissions : after.submissions = flow.submissions.set index next)
    (row : after.Row operation settings index next) (other : Nat)
    (found : FlowSubmission State Value Failure) (holds : after.submissions[other]? = some found) :
    after.Row operation settings other found := by
  rw [submissions, Table.getElem?_set stored] at holds
  split at holds
  · rename_i same
    cases holds
    exact same ▸ row
  · exact extended.row (kept.rows other found holds)

/-- A controller is kept when a submission goes on with the attempt it has, if it has one. -/
theorem Kept.update (kept : flow.Kept operation settings)
    (stored : flow.submissions[index]? = some submission) (persists : Persists submission next)
    (current : next.current = submission.current)
    (submissions : after.submissions = flow.submissions.set index next)
    (follows : Follows operation flow after) (inFlight : after.inFlight = flow.inFlight)
    (completed : after.completed = flow.completed)
    (row : Extends operation flow after → after.Row operation settings index next) :
    after.Kept operation settings := by
  have extended : Extends operation flow after :=
    extends_set stored persists submissions follows.forth
  refine ⟨rows_set kept extended stored submissions (row extended), fun key other => ?_,
    fun attempt running found ended => ?_, fun attempt running found => ?_,
    fun key storedAt result found => ?_, ?_, ?_⟩
  · rw [inFlight, kept.flights, submissions, Table.getElem?_set stored]
    by_cases same : other = index
    · rw [if_pos same, same, stored]
      simp only [Option.some.injEq, exists_eq_left', persists.key, current]
    · rw [if_neg same]
  · obtain ⟨old, before, caller, goes⟩ := follows.back attempt running found
    obtain ⟨holder, holds, has⟩ := kept.running attempt old before (goes.outcome_eq_none ended)
    rw [caller, submissions, Table.getElem?_set stored]
    split
    · rename_i same
      obtain rfl := Option.some.inj (stored.symm.trans (same ▸ holds))
      exact ⟨next, rfl, current.trans has⟩
    · exact ⟨holder, holds, has⟩
  · obtain ⟨old, before, caller, goes⟩ := follows.back attempt running found
    rw [caller]
    exact extended.descends (kept.descends attempt old before) goes
  · rw [completed] at found
    exact extended.answers (kept.answers key storedAt result found)
  · rw [inFlight]
    exact kept.bounded
  · rw [completed]
    exact kept.retains

theorem Kept.follow (kept : flow.Kept operation settings)
    (submissions : after.submissions = flow.submissions) (follows : Follows operation flow after)
    (inFlight : after.inFlight = flow.inFlight) (completed : after.completed = flow.completed) :
    after.Kept operation settings := by
  have extended : Extends operation flow after :=
    ⟨fun _ old found => ⟨old, submissions ▸ found, Persists.refl old⟩, follows.forth⟩
  refine ⟨fun index submission stored => ?_, fun key index => ?_,
    fun attempt running found ended => ?_, fun attempt running found => ?_,
    fun key storedAt result found => ?_, ?_, ?_⟩
  · rw [submissions] at stored
    exact extended.row (kept.rows index submission stored)
  · rw [inFlight, submissions]
    exact kept.flights key index
  · obtain ⟨old, before, caller, goes⟩ := follows.back attempt running found
    rw [submissions, caller]
    exact kept.running attempt old before (goes.outcome_eq_none ended)
  · obtain ⟨old, before, caller, goes⟩ := follows.back attempt running found
    rw [caller]
    exact extended.descends (kept.descends attempt old before) goes
  · rw [completed] at found
    exact extended.answers (kept.answers key storedAt result found)
  · rw [inFlight]
    exact kept.bounded
  · rw [completed]
    exact kept.retains

/-- The attempt that a submission waits for runs for no other one. -/
theorem Kept.current_eq (kept : flow.Kept operation settings)
    (stored : flow.submissions[index]? = some submission)
    (current : submission.current = some attempt) :
    submission.part = .leads ∧ submission.future = none ∧
      ∃ running, flow.attempts[attempt]? = some running ∧ running.caller = index := by
  cases kept.rows index submission stored with
  | runs leads same unsettled attempts caller =>
    cases current.symm.trans same
    exact ⟨leads, unsettled, _, attempts, caller⟩
  | concluded _ phase | joined _ phase | left _ phase | shared _ phase | replayed _ phase
  | refused _ phase =>
    rw [FlowSubmission.current, phase] at current
    cases current

/-- An attempt that runs is not the one that a submission has seen end. -/
theorem Kept.current_ne (kept : flow.Kept operation settings) {other : Nat}
    {ended : FlowAttempt State} (stored : flow.submissions[index]? = some submission)
    (current : submission.current = some attempt) (attempts : flow.attempts[attempt]? = some ended)
    (ends : (operation.outcome ended.state).isSome = true)
    (found : flow.attempts[other]? = some running) (runs : operation.outcome running.state = none) :
    running.caller ≠ index := by
  rintro rfl
  obtain ⟨holder, holds, has⟩ := kept.running other running found runs
  obtain rfl := Option.some.inj (stored.symm.trans holds)
  obtain rfl := Option.some.inj (current.symm.trans has)
  obtain rfl := Option.some.inj (attempts.symm.trans found)
  rw [runs] at ends
  cases ends

theorem kept_retries (kept : flow.Kept operation settings) {retried : Nat}
    (stored : flow.submissions[index]? = some submission)
    (current : submission.current = some attempt)
    (attempts : flow.attempts[attempt]? = some running)
    (ended : (operation.outcome running.state).isSome = true) :
    ((({ flow with retried := retried }.begin index submission.initial).setSubmission index
      { submission with phase := .waiting flow.attempts.length (submission.number + 1) })).Kept
        operation settings := by
  obtain ⟨leads, unsettled, -, -, -⟩ := kept.current_eq stored current
  have persists : Persists submission
      { submission with phase := .waiting flow.attempts.length (submission.number + 1) } := by
    refine ⟨rfl, rfl, rfl, fun _ => id, fun outcome phase => ?_⟩
    rw [FlowSubmission.current, phase] at current
    cases current
  have extended : Extends operation flow
      (({ flow with retried := retried }.begin index submission.initial).setSubmission index
        { submission with phase := .waiting flow.attempts.length (submission.number + 1) }) := by
    refine extends_set stored persists rfl fun other old found => ?_
    have bound : other ≠ flow.attempts.length :=
      Nat.ne_of_lt (List.getElem?_eq_some_iff.mp found).1
    refine ⟨old, ?_, rfl, .refl⟩
    show (flow.attempts ++ [_])[other]? = _
    rw [Table.getElem?_concat, if_neg bound, found]
  have first : (flow.attempts ++ [(⟨index, submission.initial⟩ : FlowAttempt State)])[
      flow.attempts.length]? = some ⟨index, submission.initial⟩ := by
    rw [Table.getElem?_concat, if_pos rfl]
  refine ⟨rows_set kept extended stored rfl (.runs leads rfl unsettled first rfl), fun key other => ?_,
    fun other next found runs => ?_, fun other next found => ?_,
    fun key storedAt result found => extended.answers (kept.answers key storedAt result found),
    kept.bounded, kept.retains⟩
  · show flow.inFlight.get? key = some other ↔ ∃ holder,
      (flow.submissions.set index _)[other]? = some holder ∧ _
    rw [kept.flights, Table.getElem?_set stored]
    by_cases same : other = index
    · rw [if_pos same, same, stored]
      simp only [Option.some.injEq, exists_eq_left', current, Option.isSome_some]
      exact and_congr_right fun _ => iff_of_true trivial rfl
    · rw [if_neg same]
  · replace found : (flow.attempts ++ [(⟨index, submission.initial⟩ : FlowAttempt State)])[
      other]? = some next := found
    show ∃ holder, (flow.submissions.set index _)[next.caller]? = some holder ∧ _
    rw [Table.getElem?_concat] at found
    rw [Table.getElem?_set stored]
    split at found
    · rename_i same
      cases found
      exact ⟨_, if_pos rfl, by rw [same]; rfl⟩
    · rw [if_neg (kept.current_ne stored current attempts ended found runs)]
      exact kept.running other next found runs
  · replace found : (flow.attempts ++ [(⟨index, submission.initial⟩ : FlowAttempt State)])[
      other]? = some next := found
    rw [Table.getElem?_concat] at found
    split at found
    · cases found
      exact extended.descends ⟨submission, stored, .refl⟩ .refl
    · exact extended.descends (kept.descends other next found) .refl

theorem size_popOldest (bound : Nat) (completed : Dict String (Rat × Value)) :
    (popOldest bound completed).size ≤ bound := by
  show (completed.entries.drop (completed.size - bound)).length ≤ bound
  rw [List.length_drop, ← Dict.size]
  omega

theorem get?_retain {completed : Dict String (Rat × Value)} {other : String} {storedAt : Rat}
    {result found : Value}
    (kept : (retain settings completed key result now).get? other = some (storedAt, found)) :
    other = key ∧ found = result ∨ completed.get? other = some (storedAt, found) := by
  have among : (other, storedAt, found) ∈ ((completed.erase key).set key (now, result)).entries :=
    List.mem_of_mem_drop (Dict.get?_eq_some_iff.mp kept)
  rw [← Dict.get?_eq_some_iff, Dict.get?_set, Dict.get?_erase] at among
  split at among
  · rename_i same
    cases among
    exact .inl ⟨same, rfl⟩
  · exact .inr among

/-- A submission that leads ends. -/
theorem kept_conclude (kept : flow.Kept operation settings) {failed : Nat}
    {outcome : Except (FlowError Failure) Value}
    (stored : flow.submissions[index]? = some submission)
    (current : submission.current = some attempt)
    (attempts : flow.attempts[attempt]? = some running)
    (ended : (operation.outcome running.state).isSome = true)
    (ends : Concludes operation settings submission running outcome) :
    ({ flow with failed := failed }.conclude settings index submission outcome now).Kept
      operation settings := by
  obtain ⟨leads, unsettled, other, found, caller⟩ := kept.current_eq stored current
  obtain rfl := Option.some.inj (attempts.symm.trans found)
  have flying : flow.inFlight.get? submission.key = some index :=
    (kept.flights submission.key index).mpr ⟨submission, stored, rfl, by rw [current]; rfl⟩
  generalize concludes : { flow with failed := failed }.conclude settings index submission outcome
    now = after
  have next : after.submissions = flow.submissions.set index
      { submission with
        future := some (outcome.mapError (coalescedFailure settings)), phase := .ended outcome } := by
    rw [← concludes, submissions_conclude, unsettled, Option.getD_none]
  have own := Table.getElem?_set stored { submission with
    future := some (outcome.mapError (coalescedFailure settings)), phase := .ended outcome } index
  rw [if_pos rfl, ← next] at own
  have sameAttempts : after.attempts = flow.attempts := by
    rw [← concludes, attempts_conclude]
  have sameFlights : after.inFlight = flow.inFlight.erase submission.key := by
    rw [← concludes, inFlight_conclude]
  have persists : Persists submission { submission with
      future := some (outcome.mapError (coalescedFailure settings)), phase := .ended outcome } := by
    refine ⟨rfl, rfl, rfl, fun _ future => ?_, fun _ phase => ?_⟩
    · rw [unsettled] at future
      cases future
    · rw [FlowSubmission.current, phase] at current
      cases current
  have extended : Extends operation flow after := extends_set stored persists next fun _ old found =>
    ⟨old, sameAttempts ▸ found, rfl, .refl⟩
  have source : after.Source operation index outcome := by
    cases ends with
    | interrupted => exact .interrupted
    | exhausted => exact .exhausted
    | outcome _ ended _ => exact .attempt (sameAttempts ▸ attempts) caller ended
  refine ⟨rows_set kept extended stored next (.concluded leads rfl rfl source),
    fun key other => ?_, fun other old found runs => ?_, fun other old found => ?_,
    fun key storedAt result found => ?_, ?_, ?_⟩
  · rw [sameFlights, Dict.get?_erase, next, Table.getElem?_set stored]
    by_cases same : other = index
    · rw [if_pos same]
      constructor
      · intro still
        split at still
        · cases still
        · rename_i differs
          obtain ⟨holder, holds, keys, -⟩ := (kept.flights key other).mp still
          rw [same, stored] at holds
          cases holds
          exact absurd keys.symm differs
      · rintro ⟨_, same, -, busy⟩
        cases same
        cases busy
    · rw [if_neg same, ← kept.flights]
      split
      · rename_i keys
        refine iff_of_false nofun fun still => same ?_
        rw [keys, flying] at still
        exact (Option.some.inj still).symm
      · exact Iff.rfl
  · rw [sameAttempts] at found
    rw [next, Table.getElem?_set stored,
      if_neg (kept.current_ne stored current attempts ended found runs)]
    exact kept.running other old found runs
  · rw [sameAttempts] at found
    exact extended.descends (kept.descends other old found) .refl
  · cases outcome with
    | error error =>
      have same : after.completed = flow.completed := by
        rw [← concludes]
        rfl
      rw [same] at found
      exact extended.answers (kept.answers key storedAt result found)
    | ok value =>
      have same : after.completed = retain settings flow.completed submission.key value now := by
        rw [← concludes]
        rfl
      rw [same] at found
      obtain ⟨rfl, rfl⟩ | before := get?_retain found
      · exact ⟨index, _, own, leads, rfl, rfl⟩
      · exact extended.answers (kept.answers key storedAt result before)
  · rw [sameFlights]
    exact Nat.le_trans (Dict.size_erase_le _ _) kept.bounded
  · cases outcome with
    | error error =>
      rw [← concludes]
      exact kept.retains
    | ok value =>
      rw [← concludes]
      exact size_popOldest _ _

/-- A controller with one more submission and maybe one more attempt goes on from before. -/
theorem extends_add (same : Same flow base)
    (submissions : after.submissions = base.submissions ++ [added])
    (attempts : ∃ more, after.attempts = base.attempts ++ more) : Extends operation flow after where
  submissions index submission stored := by
    have bound : index ≠ flow.submissions.length :=
      Nat.ne_of_lt (List.getElem?_eq_some_iff.mp stored).1
    refine ⟨submission, ?_, Persists.refl submission⟩
    rw [submissions, same.submissions, Table.getElem?_concat, if_neg bound, stored]
  attempts attempt running stored := by
    obtain ⟨more, holds⟩ := attempts
    have bound := (List.getElem?_eq_some_iff.mp stored).1
    refine ⟨running, ?_, rfl, .refl⟩
    rw [holds, same.attempts, List.getElem?_append_left bound, stored]

theorem rows_add (kept : flow.Kept operation settings) (same : Same flow base)
    (extended : Extends operation flow after)
    (submissions : after.submissions = base.submissions ++ [added])
    (row : after.Row operation settings flow.submissions.length added) (index : Nat)
    (submission : FlowSubmission State Value Failure)
    (stored : after.submissions[index]? = some submission) :
    after.Row operation settings index submission := by
  rw [submissions, same.submissions, Table.getElem?_concat] at stored
  split at stored
  · rename_i last
    cases stored
    exact last ▸ row
  · exact extended.row (kept.rows index submission stored)

/-- A controller is kept when a submission is added that waits for no attempt. -/
theorem kept_add (kept : flow.Kept operation settings) (same : Same flow base) {part : FlowPart}
    {phase : FlowPhase Value Failure}
    (idle : ∀ submission : FlowSubmission State Value Failure, submission.phase = phase →
      submission.current = none)
    (row : ∀ submission : FlowSubmission State Value Failure, submission.key = key →
      submission.part = part → submission.phase = phase →
        flow.Row operation settings flow.submissions.length submission) :
    (base.add key initial heartbeat part phase).Kept operation settings := by
  have extended : Extends operation flow (base.add key initial heartbeat part phase) :=
    extends_add same rfl ⟨[], (List.append_nil _).symm⟩
  refine ⟨rows_add kept same extended rfl (extended.row (row _ rfl rfl rfl)), fun other index => ?_,
    fun attempt running found runs => ?_, fun attempt running found => ?_,
    fun other storedAt result found => ?_, ?_, ?_⟩
  · show base.inFlight.get? other = some index ↔ ∃ holder,
      (base.submissions ++ [_])[index]? = some holder ∧ _
    rw [same.inFlight, kept.flights, same.submissions, Table.getElem?_concat]
    split
    · rename_i last
      rw [last, List.getElem?_eq_none (Nat.le_refl _)]
      refine iff_of_false nofun ?_
      rintro ⟨_, new, -, busy⟩
      cases new
      rw [idle _ rfl] at busy
      cases busy
    · exact Iff.rfl
  · replace found : base.attempts[attempt]? = some running := found
    rw [same.attempts] at found
    obtain ⟨holder, holds, has⟩ := kept.running attempt running found runs
    have bound : running.caller ≠ flow.submissions.length :=
      Nat.ne_of_lt (List.getElem?_eq_some_iff.mp holds).1
    refine ⟨holder, ?_, has⟩
    show (base.submissions ++ [_])[running.caller]? = _
    rw [same.submissions, Table.getElem?_concat, if_neg bound, holds]
  · replace found : base.attempts[attempt]? = some running := found
    rw [same.attempts] at found
    exact extended.descends (kept.descends attempt running found) .refl
  · exact extended.answers (kept.answers other storedAt result (same.completed _ _ found))
  · show base.inFlight.size ≤ _
    rw [same.inFlight]
    exact kept.bounded
  · exact Nat.le_trans same.size kept.retains

theorem kept_leads (kept : flow.Kept operation settings) (same : Same flow base)
    (free : flow.inFlight.get? key = none) (room : flow.inFlight.size < settings.maxInFlight) :
    (({ base with inFlight := base.inFlight.set key base.submissions.length }.begin
      base.submissions.length initial).add key initial heartbeat .leads
        (.waiting base.attempts.length 1)).Kept operation settings := by
  generalize after_def : ({ base with inFlight := base.inFlight.set key base.submissions.length }.begin
      base.submissions.length initial).add key initial heartbeat .leads
        (.waiting base.attempts.length 1) = after
  have submissions : after.submissions = base.submissions ++ [{
      key, initial, part := .leads, heartbeat := if heartbeat then some false else none,
      interrupted := false, future := none, phase := .waiting base.attempts.length 1 }] := by
    rw [← after_def]
    rfl
  have attempts : after.attempts = base.attempts ++ [⟨base.submissions.length, initial⟩] := by
    rw [← after_def]
    rfl
  have inFlight : after.inFlight = base.inFlight.set key base.submissions.length := by
    rw [← after_def]
    rfl
  have completed : after.completed = base.completed := by
    rw [← after_def]
    rfl
  have extended : Extends operation flow after := extends_add same submissions ⟨_, attempts⟩
  have first : after.attempts[base.attempts.length]? = some ⟨base.submissions.length, initial⟩ := by
    rw [attempts, Table.getElem?_concat, if_pos rfl]
  refine ⟨rows_add kept same extended submissions
      (.runs rfl rfl rfl first (congrArg List.length same.submissions)),
    fun other index => ?_, fun attempt running found runs => ?_,
    fun attempt running found => ?_, fun other storedAt result found => ?_, ?_, ?_⟩
  · rw [inFlight, submissions, same.inFlight, same.submissions, Dict.get?_set,
      Table.getElem?_concat]
    by_cases last : index = flow.submissions.length
    · rw [if_pos last]
      simp only [Option.some.injEq, exists_eq_left', last]
      constructor
      · intro set
        split at set
        · rename_i keys
          exact ⟨keys.symm, rfl⟩
        · obtain ⟨_, beyond, -, -⟩ := (kept.flights other _).mp set
          rw [List.getElem?_eq_none (Nat.le_refl _)] at beyond
          cases beyond
      · rintro ⟨keys, -⟩
        rw [if_pos keys.symm]
    · rw [if_neg last, ← kept.flights]
      split
      · rename_i keys
        rw [keys, free]
        exact iff_of_false (fun same => last (Option.some.inj same).symm) nofun
      · exact Iff.rfl
  · rw [attempts, same.attempts, Table.getElem?_concat] at found
    rw [submissions, same.submissions]
    split at found
    · rename_i last
      cases found
      refine ⟨_, by rw [same.submissions, Table.getElem?_concat, if_pos rfl], ?_⟩
      rw [last]
      exact congrArg some (congrArg List.length same.attempts)
    · obtain ⟨holder, holds, has⟩ := kept.running attempt running found runs
      have bound : running.caller ≠ flow.submissions.length :=
        Nat.ne_of_lt (List.getElem?_eq_some_iff.mp holds).1
      exact ⟨holder, by rw [Table.getElem?_concat, if_neg bound, holds], has⟩
  · rw [attempts, same.attempts, Table.getElem?_concat] at found
    split at found
    · cases found
      refine ⟨_, by rw [submissions, Table.getElem?_concat, if_pos rfl], .refl⟩
    · exact extended.descends (kept.descends attempt running found) .refl
  · rw [completed] at found
    exact extended.answers (kept.answers other storedAt result (same.completed _ _ found))
  · rw [inFlight, same.inFlight]
    exact Nat.le_trans (Dict.size_set_le _ _ _) room
  · rw [completed]
    exact Nat.le_trans same.size kept.retains

/-- A submission stays what it is when only its heartbeat changes or it is interrupted. -/
theorem Row.touch (row : flow.Row operation settings index submission)
    (key : next.key = submission.key) (part : next.part = submission.part)
    (future : next.future = submission.future) (phase : next.phase = submission.phase)
    (interrupted : submission.interrupted = true → next.interrupted = true) :
    flow.Row operation settings index next := by
  have current : next.current = submission.current := by
    rw [FlowSubmission.current, FlowSubmission.current, phase]
  cases row with
  | runs leads waits unsettled attempts caller =>
    exact .runs (part.trans leads) (current.trans waits) (future.trans unsettled) attempts caller
  | concluded leads ended settled source =>
    exact .concluded (part.trans leads) (phase.trans ended) (future.trans settled) source
  | joined joins waits leads => exact .joined (part.trans joins) (phase.trans waits) (key ▸ leads)
  | left joins ended left leads =>
    exact .left (part.trans joins) (phase.trans ended) (interrupted left) (key ▸ leads)
  | shared joins ended leads settles =>
    exact .shared (part.trans joins) (phase.trans ended) (key ▸ leads) settles
  | replayed replays ended answers =>
    exact .replayed (part.trans replays) (phase.trans ended) (key ▸ answers)
  | refused refused ended => exact .refused (part.trans refused) (phase.trans ended)

theorem Kept.touch (kept : flow.Kept operation settings)
    (stored : flow.submissions[index]? = some submission) (key : next.key = submission.key)
    (initial : next.initial = submission.initial) (part : next.part = submission.part)
    (future : next.future = submission.future) (phase : next.phase = submission.phase)
    (interrupted : submission.interrupted = true → next.interrupted = true) :
    (flow.setSubmission index next).Kept operation settings :=
  kept.update stored
    ⟨key, initial, part, fun _ settled => future.trans settled, fun _ ended => phase.trans ended⟩
    (by rw [FlowSubmission.current, FlowSubmission.current, phase]) rfl (follows_of_eq rfl) rfl rfl
    fun extended => extended.row
      ((kept.rows index submission stored).touch key part future phase interrupted)

/-- One submission goes on, and the others stay. -/
def Touches (flow after : PluginFlowController State Value Failure) (index : Nat) : Prop :=
  ∃ submission next, flow.submissions[index]? = some submission ∧
    after.submissions = flow.submissions.set index next ∧ Persists submission next

theorem touches_resume (kept : flow.Kept operation settings)
    (resumes : Resumes operation settings index now flow after) : flow.Touches after index := by
  cases resumes with
  | waits stored _ => exact ⟨_, _, stored, rfl, rfl, rfl, rfl, fun _ => id, fun _ => id⟩
  | stops stored phase =>
    exact ⟨_, _, stored, rfl, rfl, rfl, rfl, fun _ => id, fun _ ended => by
      cases phase.symm.trans ended⟩
  | @retries submission attempt running stored current _ _ _ _ _ =>
    refine ⟨_, _, stored, rfl, rfl, rfl, rfl, fun _ => id, fun _ ended => ?_⟩
    rw [FlowSubmission.current, ended] at current
    cases current
  | concludes failed stored current _ _ _ =>
    obtain ⟨-, unsettled, -⟩ := kept.current_eq stored current
    refine ⟨_, _, stored, submissions_conclude _ _ _ _ _ _, rfl, rfl, rfl, fun _ settled => ?_,
      fun _ ended => ?_⟩
    · cases unsettled.symm.trans settled
    · rw [FlowSubmission.current, ended] at current
      cases current
  | leaves stored _ phase _ | shares stored _ phase _ _ =>
    exact ⟨_, _, stored, rfl, rfl, rfl, rfl, fun _ => id, fun _ ended => by
      cases phase.symm.trans ended⟩

/-- What is submitted comes after what was submitted before. -/
theorem submissions_submits (submits : Submits settings key initial heartbeat flow after) :
    ∃ added, after.submissions = flow.submissions ++ [added] ∧ added.key = key ∧
      added.initial = initial := by
  cases submits with
  | refuses same | replays same _ | joins same _ | leads same _ _ =>
    exact ⟨_, congrArg (· ++ _) same.submissions, rfl, rfl⟩

/-- Only a submission that has not ended goes on. -/
theorem open_of_resume (resumes : Resumes operation settings index now flow after) :
    ∃ submission, flow.submissions[index]? = some submission ∧
      ∀ outcome, submission.phase ≠ .ended outcome := by
  cases resumes with
  | stops stored phase | leaves stored _ phase _ | shares stored _ phase _ _ =>
    exact ⟨_, stored, fun _ ended => by cases phase.symm.trans ended⟩
  | waits stored current | retries stored current _ _ _ _ _ | concludes _ stored current _ _ _ =>
    refine ⟨_, stored, fun _ ended => ?_⟩
    rw [FlowSubmission.current, ended] at current
    cases current

theorem kept_submit (kept : flow.Kept operation settings)
    (submits : Submits settings key initial heartbeat flow after) :
    after.Kept operation settings := by
  cases submits with
  | refuses same =>
    refine kept_add kept same (fun submission phase => by rw [FlowSubmission.current, phase])
      fun submission _ part phase => .refused part phase
  | replays same found =>
    refine kept_add kept same (fun submission phase => by rw [FlowSubmission.current, phase])
      fun submission same part phase => .replayed part phase ?_
    exact same ▸ kept.answers _ _ _ found
  | joins same flying =>
    obtain ⟨primary, stored, keys, busy⟩ := (kept.flights _ _).mp flying
    obtain ⟨attempt, current⟩ := Option.isSome_iff_exists.mp busy
    refine kept_add kept same (fun submission phase => by rw [FlowSubmission.current, phase])
      fun submission same part phase => .joined part phase ?_
    exact same ▸ ⟨primary, stored, (kept.current_eq stored current).1, keys⟩
  | leads same free room => exact kept_leads kept same free room

theorem kept_interrupt (kept : flow.Kept operation settings)
    (interrupts : flow.interrupt operation index = some after) : after.Kept operation settings := by
  obtain ⟨submission, stored, -, ends⟩ := interrupt_cases interrupts
  have touched : (flow.setSubmission index
      { submission with interrupted := true }).Kept operation settings :=
    kept.touch stored rfl rfl rfl rfl rfl fun _ => rfl
  obtain rfl | ⟨attempt, rfl⟩ := ends
  · exact touched
  · exact touched.follow rfl (follows_cancelAttempt attempt) rfl rfl

theorem kept_resume (kept : flow.Kept operation settings)
    (resumes : Resumes operation settings index now flow after) :
    after.Kept operation settings := by
  cases resumes with
  | waits stored _ => exact kept.touch stored rfl rfl rfl rfl rfl id
  | @stops submission attempt number stored phase =>
    have current : submission.current = some attempt := by rw [FlowSubmission.current, phase]
    obtain ⟨leads, unsettled, running, attempts, caller⟩ := kept.current_eq stored current
    have persists : Persists submission { submission with phase := .stopping attempt number } :=
      ⟨rfl, rfl, rfl, fun _ => id, fun outcome ended => by cases phase.symm.trans ended⟩
    have follows : Follows operation flow (flow.cancelAttempt operation attempt) :=
      follows_cancelAttempt attempt
    refine kept.update stored persists current.symm rfl ⟨follows.forth, follows.back⟩ rfl rfl
      fun extended => ?_
    obtain ⟨next, found, same, -⟩ := extended.attempts _ _ attempts
    exact .runs leads rfl unsettled found (same.trans caller)
  | retries stored current attempts ended _ _ _ => exact kept_retries kept stored current attempts ended
  | concludes failed stored current attempts ended ends =>
    exact kept_conclude kept stored current attempts ended ends
  | @leaves submission primary stored joins phase interrupted =>
    have persists : Persists submission { submission with phase := .ended (.error .cancelled) } :=
      ⟨rfl, rfl, rfl, fun _ => id, fun outcome ended => by cases phase.symm.trans ended⟩
    refine kept.update stored persists (by rw [FlowSubmission.current, FlowSubmission.current, phase])
      rfl (follows_of_eq rfl) rfl rfl fun extended => ?_
    cases kept.rows index submission stored with
    | joined same _ leads => exact .left same rfl interrupted (extended.leads leads)
    | runs same | concluded same | replayed same | refused same => cases joins.symm.trans same
    | left _ ended | shared _ ended => cases phase.symm.trans ended
  | @shares submission leader primary outcome stored joins phase leads settled =>
    have persists : Persists submission { submission with phase := .ended outcome } :=
      ⟨rfl, rfl, rfl, fun _ => id, fun outcome ended => by cases phase.symm.trans ended⟩
    refine kept.update stored persists (by rw [FlowSubmission.current, FlowSubmission.current, phase])
      rfl (follows_of_eq rfl) rfl rfl fun extended => ?_
    cases kept.rows index submission stored with
    | joined same _ leads' =>
      cases joins.symm.trans same
      exact .shared same rfl (extended.leads leads') (extended.settles ⟨leader, leads, settled⟩)
    | runs same | concluded same | replayed same | refused same => cases joins.symm.trans same
    | left _ ended | shared _ ended => cases phase.symm.trans ended

/-- Every step of a controller keeps it. -/
theorem kept_step (kept : flow.Kept operation settings) {action : FlowAction State Event}
    (steps : flow.step operation settings action = some after) : after.Kept operation settings := by
  cases action with
  | submit key initial heartbeat now =>
    obtain rfl := Option.some.inj steps
    exact kept_submit kept (submit_cases settings key initial heartbeat now flow)
  | interrupt index => exact kept_interrupt kept steps
  | beat index =>
    obtain ⟨submission, stored, steps⟩ := Option.bind_eq_some_iff.mp steps
    obtain rfl := Option.some.inj steps
    exact kept.touch stored rfl rfl rfl rfl rfl id
  | advance attempt event =>
    obtain ⟨running, stored, steps⟩ := Option.bind_eq_some_iff.mp steps
    obtain ⟨next, goes, steps⟩ := Option.bind_eq_some_iff.mp steps
    obtain rfl := Option.some.inj steps
    exact kept.follow rfl (follows_advance stored goes) rfl rfl
  | resume index now => exact kept_resume kept (resume_cases steps)

end

theorem kept_empty :
    (empty : PluginFlowController State Value Failure).Kept operation settings where
  rows _ _ stored := by simp [empty] at stored
  flights _ _ := by simp [empty]
  running _ _ stored := by simp [empty] at stored
  descends _ _ stored := by simp [empty] at stored
  answers _ _ _ found := by simp [empty] at found
  bounded := Nat.zero_le _
  retains := Nat.zero_le _

/-- Every run keeps the controller. -/
theorem kept_run {actions : List (FlowAction State Event)}
    (runs : Machine.run (step operation settings) empty actions = some flow) :
    flow.Kept operation settings :=
  Machine.invariant_run (Kept operation settings) (fun _ _ _ kept => kept_step kept) kept_empty runs

/-! ### Books -/

/-- The key that an attempt is made for. -/
def keyOf (flow : PluginFlowController State Value Failure) (running : FlowAttempt State) :
    Option String :=
  (flow.submissions[running.caller]?).map FlowSubmission.key

/-- What a caller that joined gets: nothing if it was interrupted, or what the primary ended with,
where it shares in no cancellation. As soon as the primary has ended, it can be had. -/
structure SharesWith (operation : Operation State Event Value Failure) (settings : FlowSettings)
    (flow : PluginFlowController State Value Failure) (index : Nat)
    (submission leader : FlowSubmission State Value Failure) : Prop where
  leads : leader.part = .leads
  key : leader.key = submission.key
  ended : ∀ outcome, submission.phase = .ended outcome →
    outcome = .error .cancelled ∧ submission.interrupted = true ∨
      ∃ own, leader.phase = .ended own ∧ outcome = own.mapError (coalescedFailure settings)
  ready : submission.phase = .joined → submission.interrupted = false →
    ∀ own, leader.phase = .ended own → ∀ now,
      flow.resume operation settings index now = some (flow.setSubmission index
        { submission with phase := .ended (own.mapError (coalescedFailure settings)) })

/-- The books of a controller. -/
structure Books (operation : Operation State Event Value Failure) (settings : FlowSettings)
    (flow : PluginFlowController State Value Failure) : Prop where
  bounded : flow.inFlight.size ≤ settings.maxInFlight
  retains : flow.completed.size ≤ settings.resultRetention
  /-- Of one key, at most one attempt runs. -/
  single : ∀ (first second : Nat) (one other : FlowAttempt State),
    flow.attempts[first]? = some one → flow.attempts[second]? = some other →
    operation.outcome one.state = none → operation.outcome other.state = none →
    flow.keyOf one = flow.keyOf other → first = second
  /-- No key is in flight without a submission that has not ended. -/
  free : ∀ key, (∀ (index : Nat) (submission : FlowSubmission State Value Failure),
      flow.submissions[index]? = some submission → submission.key = key →
        ∃ outcome, submission.phase = .ended outcome) →
    key ∉ flow.inFlight.keys
  joined : ∀ (index primary : Nat) (submission : FlowSubmission State Value Failure),
    flow.submissions[index]? = some submission → submission.part = .joins primary →
    ∃ leader, flow.submissions[primary]? = some leader ∧
      SharesWith operation settings flow index submission leader
  /-- Whatever a caller that joined does changes nothing but itself. -/
  undisturbed : ∀ (index primary : Nat) (submission : FlowSubmission State Value Failure)
      (action : FlowAction State Event) (after : PluginFlowController State Value Failure),
    flow.submissions[index]? = some submission → submission.part = .joins primary →
    (action = .interrupt index ∨ ∃ now, action = .resume index now) →
    flow.step operation settings action = some after →
    ∃ next, after = flow.setSubmission index next
  /-- A key that is answered from retention starts nothing. -/
  answered : ∀ (key : String) (initial : State) (heartbeat : Bool) (now storedAt : Rat)
      (result : Value), ¬ (key.length < 1 ∨ maxIdempotencyKeyChars < key.length) →
    flow.completed.get? key = some (storedAt, result) →
    ¬ settings.resultTtlSeconds < now - storedAt →
    ∃ added, (flow.submit settings key initial heartbeat now).submissions =
        flow.submissions ++ [added] ∧
      added.phase = .ended (.ok result) ∧
      (flow.submit settings key initial heartbeat now).attempts = flow.attempts ∧
      (flow.submit settings key initial heartbeat now).inFlight = flow.inFlight
  /-- What was answered from retention is what a submission of the key has returned. -/
  replayed : ∀ (index : Nat) (submission : FlowSubmission State Value Failure),
    flow.submissions[index]? = some submission → submission.part = .replays →
    ∃ result, submission.phase = .ended (.ok result) ∧ flow.Answers submission.key result

section

variable {flow : PluginFlowController State Value Failure}

theorem Kept.single (kept : flow.Kept operation settings) {first second : Nat}
    {one other : FlowAttempt State} (firstStored : flow.attempts[first]? = some one)
    (secondStored : flow.attempts[second]? = some other)
    (oneRuns : operation.outcome one.state = none) (otherRuns : operation.outcome other.state = none)
    (same : flow.keyOf one = flow.keyOf other) : first = second := by
  obtain ⟨holder, stored, current⟩ := kept.running first one firstStored oneRuns
  obtain ⟨another, storedOther, currentOther⟩ := kept.running second other secondStored otherRuns
  rw [keyOf, keyOf, stored, storedOther] at same
  have keys : holder.key = another.key := Option.some.inj same
  have one_flight : flow.inFlight.get? holder.key = some one.caller :=
    (kept.flights _ _).mpr ⟨holder, stored, rfl, by rw [current]; rfl⟩
  have other_flight : flow.inFlight.get? holder.key = some other.caller :=
    (kept.flights _ _).mpr ⟨another, storedOther, keys.symm, by rw [currentOther]; rfl⟩
  obtain callers := Option.some.inj (one_flight.symm.trans other_flight)
  rw [callers, storedOther] at stored
  cases stored
  exact Option.some.inj (current.symm.trans currentOther)

theorem Kept.free (kept : flow.Kept operation settings) {key : String}
    (ended : ∀ (index : Nat) (submission : FlowSubmission State Value Failure),
      flow.submissions[index]? = some submission → submission.key = key →
        ∃ outcome, submission.phase = .ended outcome) : key ∉ flow.inFlight.keys := by
  rw [Dict.mem_keys_iff]
  rintro ⟨index, flying⟩
  obtain ⟨submission, stored, same, busy⟩ := (kept.flights key index).mp flying
  obtain ⟨outcome, phase⟩ := ended index submission stored same
  rw [FlowSubmission.current, phase] at busy
  cases busy

variable {index primary : Nat} {submission : FlowSubmission State Value Failure}

/-- A submission that leads has settled its future as soon as it has ended, and not before. -/
theorem Kept.future_eq (kept : flow.Kept operation settings)
    {leader : FlowSubmission State Value Failure} (stored : flow.submissions[index]? = some leader)
    (leads : leader.part = .leads) :
    (∀ own, leader.phase = .ended own →
      leader.future = some (own.mapError (coalescedFailure settings))) ∧
    ∀ outcome, leader.future = some outcome → ∃ own, leader.phase = .ended own ∧
      outcome = own.mapError (coalescedFailure settings) := by
  cases kept.rows index leader stored with
  | runs _ current unsettled =>
    refine ⟨fun own ended => ?_, fun outcome settled => ?_⟩
    · rw [FlowSubmission.current, ended] at current
      cases current
    · cases unsettled.symm.trans settled
  | concluded _ phase settled =>
    refine ⟨fun own ended => ?_, fun outcome future => ⟨_, phase, ?_⟩⟩
    · cases phase.symm.trans ended
      exact settled
    · exact (Option.some.inj (settled.symm.trans future)).symm
  | joined other | left other | shared other | replayed other | refused other =>
    cases leads.symm.trans other

theorem Kept.sharesWith (kept : flow.Kept operation settings)
    (stored : flow.submissions[index]? = some submission) (joins : submission.part = .joins primary) :
    ∃ leader, flow.submissions[primary]? = some leader ∧
      SharesWith operation settings flow index submission leader := by
  have leading : flow.Leads primary submission.key := by
    cases kept.rows index submission stored with
    | joined same _ leads | left same _ _ leads | shared same _ leads =>
      cases joins.symm.trans same
      exact leads
    | runs other | concluded other | replayed other | refused other =>
      cases joins.symm.trans other
  obtain ⟨leader, found, leads, key⟩ := leading
  obtain ⟨settled, settles⟩ := kept.future_eq found leads
  refine ⟨leader, found, leads, key, fun outcome ended => ?_, fun phase remains own ends now => ?_⟩
  · cases kept.rows index submission stored with
    | joined _ phase => cases phase.symm.trans ended
    | left _ phase interrupted =>
      cases phase.symm.trans ended
      exact .inl ⟨rfl, interrupted⟩
    | shared same phase _ future =>
      cases joins.symm.trans same
      cases phase.symm.trans ended
      obtain ⟨holder, holds, future⟩ := future
      obtain rfl := Option.some.inj (found.symm.trans holds)
      exact .inr (settles _ future)
    | runs other | concluded other | replayed other | refused other =>
      cases joins.symm.trans other
  · simp only [resume, stored, phase, joins, remains, found, settled own ends, Option.bind_eq_bind,
      Option.bind_some]
    rfl

theorem Kept.undisturbed (kept : flow.Kept operation settings) {action : FlowAction State Event}
    {after : PluginFlowController State Value Failure}
    (stored : flow.submissions[index]? = some submission) (joins : submission.part = .joins primary)
    (own : action = .interrupt index ∨ ∃ now, action = .resume index now)
    (steps : flow.step operation settings action = some after) :
    ∃ next, after = flow.setSubmission index next := by
  have idle : submission.current = none := by
    cases current : submission.current with
    | none => rfl
    | some attempt => cases joins.symm.trans (kept.current_eq stored current).1
  obtain rfl | ⟨now, rfl⟩ := own
  · replace steps : flow.interrupt operation index = some after := steps
    rw [interrupt, stored] at steps
    cases phase : submission.phase with
    | waiting attempt | stopping attempt =>
      rw [FlowSubmission.current, phase] at idle
      cases idle
    | joined | ended =>
      simp only [phase, Option.bind_eq_bind, Option.bind_some] at steps
      first
      | exact ⟨_, (Option.some.inj steps).symm⟩
      | cases steps
  · replace steps := resume_cases steps
    cases steps with
    | waits => exact ⟨_, rfl⟩
    | leaves => exact ⟨_, rfl⟩
    | shares => exact ⟨_, rfl⟩
    | stops found phase =>
      obtain rfl := Option.some.inj (stored.symm.trans found)
      rw [FlowSubmission.current, phase] at idle
      cases idle
    | retries found current | concludes _ found current =>
      obtain rfl := Option.some.inj (stored.symm.trans found)
      cases idle.symm.trans current

theorem answered_of_retained {key : String} {initial : State} {heartbeat : Bool}
    {now storedAt : Rat} {result : Value}
    (valid : ¬ (key.length < 1 ∨ maxIdempotencyKeyChars < key.length))
    (found : flow.completed.get? key = some (storedAt, result))
    (fresh : ¬ settings.resultTtlSeconds < now - storedAt) :
    ∃ added, (flow.submit settings key initial heartbeat now).submissions =
        flow.submissions ++ [added] ∧
      added.phase = .ended (.ok result) ∧
      (flow.submit settings key initial heartbeat now).attempts = flow.attempts ∧
      (flow.submit settings key initial heartbeat now).inFlight = flow.inFlight := by
  rw [submit, if_neg valid, retained, found]
  simp only [if_neg fresh]
  exact ⟨_, rfl, rfl, rfl, rfl⟩

end

/-- Whatever is submitted, interrupted and resumed, and whatever operations do: the books are kept. The
tables stay within their limits, one attempt runs for a key, callers that join share what becomes of it,
and a key that is answered from retention starts nothing. -/
theorem books_of_run {actions : List (FlowAction State Event)}
    {flow : PluginFlowController State Value Failure}
    (runs : Machine.run (step operation settings) empty actions = some flow) :
    flow.Books operation settings := by
  have kept := kept_run runs
  refine ⟨kept.bounded, kept.retains, fun _ _ _ _ => kept.single, fun _ => kept.free,
    fun _ _ _ => kept.sharesWith, fun _ _ _ _ _ => kept.undisturbed,
    fun _ _ _ _ _ _ => answered_of_retained, fun index submission stored replays => ?_⟩
  cases kept.rows index submission stored with
  | replayed _ phase answers => exact ⟨_, phase, answers⟩
  | runs other | concluded other | joined other | left other | shared other | refused other =>
    cases replays.symm.trans other

/-! ### A key that is submitted three times -/

/-- An operation that ends as it is told to. -/
def taskOperation : Operation (Option (Except (FlowError Unit) Nat)) (Except (FlowError Unit) Nat)
    Nat Unit where
  step state event := if state.isNone then some (some event) else none
  cancel state := state.or (some (.error .cancelled))
  outcome := id
  outcome_step := by
    rintro _ next event ended rfl steps
    cases steps
  outcome_cancel := by
    rintro _ ended rfl
    rfl

def twoAtOnce : FlowSettings where
  pluginId := "vision"
  maxInFlight := 2
  deadlineSeconds := "30"
  maxRetries := 1
  resultRetention := 1
  resultTtlSeconds := 300
  maxInFlight_pos := by decide
  resultRetention_pos := by decide

/-- A second submission joins the first, and a third is answered from what is retained. -/
theorem books_of_run_joined : ∃ flow : PluginFlowController _ _ _,
    Machine.run (step taskOperation twoAtOnce) empty
        [.submit "scan" none true 0, .submit "scan" none true 0, .beat 0, .resume 0 30,
          .advance 0 (.ok 7), .resume 0 31, .resume 1 31, .submit "scan" none true 32] =
      some flow ∧
    flow.submissions.map FlowSubmission.phase =
      [.ended (.ok 7), .ended (.ok 7), .ended (.ok 7)] ∧
    flow.attempts.length = 1 ∧ flow.Books taskOperation twoAtOnce := by
  have passes : (Machine.run (step taskOperation twoAtOnce) empty
      [.submit "scan" none true 0, .submit "scan" none true 0, .beat 0, .resume 0 30,
        .advance 0 (.ok 7), .resume 0 31, .resume 1 31, .submit "scan" none true 32]).any
          fun flow => decide (flow.submissions.map FlowSubmission.phase =
            [.ended (.ok 7), .ended (.ok 7), .ended (.ok 7)] ∧ flow.attempts.length = 1) := by
    decide +kernel
  obtain ⟨flow, runs, ends⟩ := Machine.exists_run_of_any passes
  obtain ⟨phases, attempts⟩ := of_decide_eq_true ends
  exact ⟨flow, runs, phases, attempts, books_of_run runs⟩

end PluginFlowController

end Omnitensor
