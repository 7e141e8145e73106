/-
This file says what an attempt keeps, whatever its stages, the gate and the token do.

While an attempt guards a stage, the stages before it have run in their order, each after its checks,
and the stages after it are left. So a result that succeeded has the log of all six; any result is
one of the job of the attempt; and only the delivery has delivered.
-/

import Omnitensor.PipelineStages

namespace Omnitensor

namespace Pipeline

variable {Output : Type}

/-! ### The state machine -/

namespace PipelineStateMachine

variable {machine : PipelineStateMachine Output} {output : StageOutput Output}

/-- A machine publishes a result that it is told to, if it has published none. -/
theorem terminalResult_finish (open_ : machine.terminalResult = none) (status : PluginResultStatus)
    (output : Option Output) (detail : String) (nowMs : Nat) :
    (machine.finish status output detail nowMs).terminalResult =
      some ⟨machine.jobId, status, output, detail, nowMs⟩ := by
  rw [finish, open_]
  rfl

theorem new_eq_ok {jobId : String} (made : new jobId = .ok machine) :
    machine = ⟨jobId, .queued, 0, none, none⟩ := by
  rw [new] at made
  split at made
  · cases made
  · exact (Except.ok.inj made).symm

/-- What a machine does with an output of the type that its stage requires. -/
theorem advance_eq_ok {next : PipelineStateMachine Output} {nowMs : Nat}
    (open_ : machine.terminalResult = none) (advances : machine.advance output nowMs = .ok next) :
    ∃ following, transition machine.stage = some (output.typeName, following) ∧
      next.jobId = machine.jobId ∧
      (following = .terminal ∧ (∃ value detail, next.terminalResult =
          some ⟨machine.jobId, .succeeded, some value, detail, nowMs⟩) ∨
        following ≠ .terminal ∧ next.stage = following ∧ next.terminalResult = none) := by
  rw [advance] at advances
  split at advances
  · cases advances
  · rename_i expected following step
    split at advances
    · cases advances
    · rename_i same
      rw [not_not.mp same]
      refine ⟨following, step, ?_⟩
      split at advances
      · rename_i value detail
        cases advances
        have published := terminalResult_finish (show
          ({ machine with lastOutput := some (.delivered value detail) } :
            PipelineStateMachine Output).terminalResult = none from open_)
          .succeeded (some value) detail nowMs
        exact ⟨by simp only [finish, open_]; rfl, .inl ⟨rfl, value, detail, published⟩⟩
      · rename_i other
        cases advances
        refine ⟨rfl, ?_⟩
        by_cases last : following = .terminal
        · -- The last stage requires what is delivered.
          subst last
          have type : output.typeName = "DeliveredOutput" := by
            rw [not_not.mp same]
            revert step
            cases machine.stage <;> simp [transition, eq_comm]
          cases output with
          | delivered value detail => exact absurd rfl (other value detail rfl)
          | _ => simp [StageOutput.typeName] at type
        · exact .inr ⟨last, rfl, open_⟩

/-- A machine rejects only an output of another type than its stage requires. -/
theorem advance_eq_error {nowMs : Nat} {error : PipelineTransitionError} {expected : String}
    {following : PipelineStage} (rejects : machine.advance output nowMs = .error error)
    (requires : transition machine.stage = some (expected, following)) :
    output.typeName ≠ expected := by
  rw [advance, requires] at rejects
  dsimp only at rejects
  split at rejects
  · assumption
  · split at rejects <;> cases rejects

end PipelineStateMachine

/-- The stage after one is the next in their order, and nothing follows the delivery. -/
theorem transition_of_drop {index : Nat} {stage : PipelineStage} {rest : List PipelineStage}
    (order : stageOrder.drop index = stage :: rest) :
    ∃ name following, PipelineStateMachine.transition stage = some (name, following) ∧
      (rest = [] ∧ following = .terminal ∧ stage = .deliver ∨
        following ≠ .terminal ∧ stage ≠ .deliver ∧ ∃ others, rest = following :: others) := by
  match index, order with
  | 0, order | 1, order | 2, order | 3, order | 4, order | 5, order =>
    cases order
    exact ⟨_, _, rfl, by simp⟩
  | index + 6, order => simp [stageOrder] at order

namespace StageRun

/-! ### What a step does -/

/-- How the guard of a stage goes on. -/
inductive Moves (token : Option String) (task : StageTask Output) :
    StageGuard Output → StageGuard Output → Prop
  | drops {guard : StageGuard Output} (waits : guard = .waiting ∨ guard = .cancelling) :
      Moves token task guard (.unwatching (.error .cancelled))
  | takes {outcome : Except StageError (StageOutput Output)} (ended : task.outcome = some outcome) :
      Moves token task .waiting (.unwatching outcome)
  | stops {detail : String} (cancelled : token = some detail) :
      Moves token task .waiting .cancelling
  | stopped : Moves token task .cancelling (.unwatching (.error (.jobCancelled (token.getD ""))))
  | abandons {exit : Except StageError (StageOutput Output)} :
      Moves token task (.unwatching exit) (.abandoning exit)

/-- How an attempt goes on. -/
inductive Goes (refusals : PipelineStage → Option String) (token : Option String) (nowMs : Nat)
    (run : StageRun Output) : StageRun Output → Prop
  | begins (phase : run.phase = .created) :
      Goes refusals token nowMs run (run.begin refusals token nowMs)
  | ends (phase : run.phase = .created) :
      Goes refusals token nowMs run { run with phase := .done (.error .cancelled) }
  | moves {machine : PipelineStateMachine Output} {rest : List PipelineStage}
      {guard next : StageGuard Output} {task : StageTask Output}
      (phase : run.phase = .guarding machine rest guard) (stored : run.task = some task)
      (moves : Moves token task guard next) :
      Goes refusals token nowMs run
        { run with cancelRequested := false, phase := .guarding machine rest next }
  | drops {machine : PipelineStateMachine Output} {rest : List PipelineStage}
      {exit : Except StageError (StageOutput Output)} {task : StageTask Output}
      (stored : run.task = some task)
      (phase : run.phase = .guarding machine rest (.unwatching exit) ∨
        run.phase = .guarding machine rest (.abandoning exit) ∧ task.outcome.isSome = true)
      (cancelled : run.cancelRequested = true) :
      Goes refusals token nowMs run { run with phase := .done (.error .cancelled) }
  | leaves {machine : PipelineStateMachine Output} {rest : List PipelineStage}
      {exit : Except StageError (StageOutput Output)} {task : StageTask Output}
      (stored : run.task = some task)
      (phase : run.phase = .guarding machine rest (.unwatching exit) ∨
        run.phase = .guarding machine rest (.abandoning exit))
      (ended : task.outcome.isSome = true) :
      Goes refusals token nowMs run (run.leave refusals token nowMs machine rest exit)

variable {nowMs index : Nat} {refusals : PipelineStage → Option String} {token : Option String}
  {run : StageRun Output} {task other : StageTask Output} {machine : PipelineStateMachine Output}
  {rest : List PipelineStage} {event : StageEvent Output}

theorem resume_cases {next : StageRun Output}
    (resumes : run.resume refusals token nowMs = some next) :
    Goes refusals token nowMs run next := by
  rw [resume] at resumes
  split at resumes
  · rename_i phase
    split at resumes
    · cases resumes
      exact .ends phase
    · cases resumes
      exact .begins phase
  · cases resumes
  · rename_i machine rest guard phase
    rw [Option.bind_eq_bind, Option.bind_eq_some_iff] at resumes
    obtain ⟨task, stored, resumes⟩ := resumes
    split at resumes
    · cases resumes
      exact .moves phase stored (.drops (.inl rfl))
    · rename_i outcome _ ended
      cases resumes
      exact .moves phase stored (.takes ended)
    · obtain ⟨detail, cancelled, rfl⟩ := Option.map_eq_some_iff.mp resumes
      exact .moves phase stored (.stops cancelled)
    · cases resumes
    · cases resumes
      exact .moves phase stored (.drops (.inr rfl))
    · cases resumes
      exact .moves phase stored .stopped
    · rename_i cancelled
      cases resumes
      exact .drops stored (.inl phase) cancelled
    · rename_i ended
      cases resumes
      exact .leaves stored (.inl phase) (by rw [ended]; rfl)
    · cases resumes
      exact .moves phase stored .abandons
    · cases resumes
    · rename_i cancelled ended
      cases resumes
      exact .drops stored (.inr ⟨phase, by rw [ended]; rfl⟩) cancelled
    · rename_i ended
      cases resumes
      exact .leaves stored (.inr phase) (by rw [ended]; rfl)

/-! ### What an attempt keeps -/

/-- The notes of a stage that has run. -/
def passed (stage : PipelineStage) : List StageNote :=
  [.admitted stage, .uncancelled stage, .ran stage]

/-- The task of a stage has ended of itself with what its stage does not take. -/
inductive Fails (task : StageTask Output) : Prop
  | raised {name message : String} (ended : task.outcome = some (.error (.exception name message)))
  | mismatched {output : StageOutput Output} {expected : String} {following : PipelineStage}
      (ended : task.outcome = some (.ok output))
      (requires : PipelineStateMachine.transition task.stage = some (expected, following))
      (differs : output.typeName ≠ expected)

/-- What an attempt returns: a result of its job, which succeeded only after all stages have run, and
failed only because one has. -/
structure Fits (run : StageRun Output) (result : PluginResult Output) : Prop where
  jobId : result.jobId = run.jobId
  succeeds : result.status = .succeeded → run.log = stageOrder.flatMap passed ∧
    ∃ task, run.task = some task ∧ task.stage = .deliver
  fails : result.status = .failed → ∃ task, run.task = some task ∧ Fails task

/-- An attempt guards a stage after those before it have run, and its machine is at that stage. -/
structure Guards (run : StageRun Output) (machine : PipelineStateMachine Output)
    (rest : List PipelineStage) (index : Nat) (task : StageTask Output) : Prop where
  stored : run.task = some task
  order : stageOrder.drop index = task.stage :: rest
  stage : machine.stage = task.stage
  jobId : machine.jobId = run.jobId
  unpublished : machine.terminalResult = none
  log : run.log = (stageOrder.take index).flatMap passed ++
    [.admitted task.stage, .uncancelled task.stage]

/-- What a guard leaves with is what its task has ended with, or a cancellation. -/
def Exits (task : StageTask Output) (guard : StageGuard Output) : Prop :=
  ∀ exit, guard = .unwatching exit ∨ guard = .abandoning exit →
    task.outcome = some exit ∨ exit = .error .cancelled ∨
      ∃ detail, exit = .error (.jobCancelled detail)

/-- Where an attempt can be. -/
inductive Place (run : StageRun Output) : Prop
  | created (phase : run.phase = .created) (task : run.task = none) (log : run.log = [])
  | guards {machine : PipelineStateMachine Output} {rest : List PipelineStage}
      {guard : StageGuard Output} {index : Nat} {task : StageTask Output}
      (phase : run.phase = .guarding machine rest guard)
      (guards : run.Guards machine rest index task) (exits : Exits task guard)
  | returned {result : PluginResult Output} (phase : run.phase = .done (.ok (some result)))
      (fits : run.Fits result)
  | raised {error : FlowError String} (phase : run.phase = .done (.error error))
      (own : error = .cancelled ∨ ∃ invalid, error = .raised invalid)

/-- Only the delivery has delivered. -/
structure Sound (run : StageRun Output) : Prop where
  place : run.Place
  delivery : ∀ task ∈ run.task, task.delivered = true → task.stage = .deliver

theorem take_succ_of_drop {Value : Type} {values : List Value} {value : Value} {rest : List Value}
    (order : values.drop index = value :: rest) :
    values.take (index + 1) = values.take index ++ [value] ∧ values.drop (index + 1) = rest := by
  have here : values[index]? = some value := by
    have first := congrArg (fun list => list[0]?) order
    rwa [List.getElem?_drop, Nat.add_zero] at first
  refine ⟨by rw [List.take_add_one, here]; rfl, ?_⟩
  rw [← List.drop_drop, order]
  rfl

/-- What a job that does not succeed returns. -/
theorem place_returned (jobId : machine.jobId = run.jobId)
    (unpublished : machine.terminalResult = none) {status : PluginResultStatus}
    (stops : status ≠ .succeeded)
    (fails : status = .failed → ∃ task, run.task = some task ∧ Fails task) (detail : String)
    (nowMs : Nat) : (run.returned (machine.finish status none detail nowMs)).Place := by
  refine @Place.returned _ _ ⟨machine.jobId, status, none, detail, nowMs⟩ ?_
    ⟨jobId, fun succeeds => absurd succeeds stops, fails⟩
  rw [returned, PipelineStateMachine.terminalResult_finish unpublished]

theorem place_cancel {run : StageRun Output} {machine : PipelineStateMachine Output}
    (jobId : machine.jobId = run.jobId) (unpublished : machine.terminalResult = none)
    (detail : String) (nowMs : Nat) : (run.returned (machine.cancel detail nowMs)).Place :=
  place_returned jobId unpublished (by decide) (fun fails => by cases fails) detail nowMs

theorem place_enter {run : StageRun Output} {machine : PipelineStateMachine Output} {index : Nat}
    {stage : PipelineStage} {rest : List PipelineStage}
    (refusals : PipelineStage → Option String) (token : Option String) (nowMs : Nat)
    (order : stageOrder.drop index = stage :: rest) (at_ : machine.stage = stage)
    (jobId : machine.jobId = run.jobId) (unpublished : machine.terminalResult = none)
    (log : run.log = (stageOrder.take index).flatMap passed) :
    (run.enter refusals token nowMs machine (stage :: rest)).Place := by
  unfold enter
  dsimp only
  split
  · exact place_cancel jobId unpublished _ nowMs
  · exact @place_cancel _ (run.note (.admitted stage)) machine jobId unpublished _ nowMs
  · have noted : ((run.note (.admitted stage)).note (.uncancelled stage)).log =
        (stageOrder.take index).flatMap passed ++ [.admitted stage, .uncancelled stage] := by
      show run.log ++ _ ++ _ = _
      rw [log, List.append_assoc]
      rfl
    have guards : Guards { (run.note (.admitted stage)).note (.uncancelled stage) with
        phase := .guarding machine rest .waiting
        task := some ⟨stage, none, false⟩ } machine rest index ⟨stage, none, false⟩ :=
      ⟨rfl, order, at_, jobId, unpublished, noted⟩
    exact .guards rfl guards nofun

theorem place_leave (refusals : PipelineStage → Option String) (token : Option String) (nowMs : Nat)
    (guards : run.Guards machine rest index task) {exit : Except StageError (StageOutput Output)}
    (exits : task.outcome = some exit ∨ exit = .error .cancelled ∨
      ∃ detail, exit = .error (.jobCancelled detail)) :
    (run.leave refusals token nowMs machine rest exit).Place := by
  obtain ⟨expected, following, requires, order⟩ := transition_of_drop guards.order
  rw [leave.eq_def]
  split
  · exact .raised rfl (.inl rfl)
  · exact place_cancel guards.jobId guards.unpublished _ nowMs
  · exact place_cancel guards.jobId guards.unpublished _ nowMs
  · obtain ended | other | ⟨_, other⟩ := exits
    · exact place_returned guards.jobId guards.unpublished (by decide)
        (fun _ => ⟨task, guards.stored, .raised ended⟩) _ nowMs
    · cases other
    · cases other
  · rename_i output
    obtain ended | other | ⟨_, other⟩ := exits
    · split
      · rename_i error rejects
        have differs := PipelineStateMachine.advance_eq_error rejects (guards.stage ▸ requires)
        exact place_returned guards.jobId guards.unpublished (by decide)
          (fun _ => ⟨task, guards.stored, .mismatched ended requires differs⟩) _ nowMs
      · rename_i next advances
        obtain ⟨_, step, jobId, ends⟩ :=
          PipelineStateMachine.advance_eq_ok guards.unpublished advances
        obtain ⟨before, after⟩ := take_succ_of_drop guards.order
        have log : (run.note (.ran machine.stage)).log =
            (stageOrder.take (index + 1)).flatMap passed := by
          show run.log ++ _ = _
          rw [guards.log, before, List.flatMap_append, List.append_assoc, guards.stage]
          rfl
        rw [guards.stage, requires] at step
        cases step
        obtain ⟨rfl, rfl, last⟩ | ⟨_, _, others, rfl⟩ := order
        · obtain ⟨-, value, detail, published⟩ | ⟨impossible, -, -⟩ := ends
          · have all : (run.note (.ran machine.stage)).log = stageOrder.flatMap passed := by
              refine log.trans ?_
              rw [← List.take_append_drop (index + 1) stageOrder, after, List.append_nil,
                List.take_take, Nat.min_self]
            refine @Place.returned _ _ ⟨machine.jobId, .succeeded, some value, detail, nowMs⟩ ?_
              ⟨guards.jobId, fun _ => ⟨all, task, guards.stored, last⟩, nofun⟩
            rw [enter, returned, published]
          · exact absurd rfl impossible
        · obtain ⟨impossible, -⟩ | ⟨-, stage, unpublished⟩ := ends
          · contradiction
          · exact place_enter refusals token nowMs after stage (jobId.trans guards.jobId)
              unpublished log
    · cases other
    · cases other

/-- An attempt has entered a stage, and its task has not begun. -/
structure Enters (run : StageRun Output) (stage : PipelineStage) : Prop where
  task : run.task = some ⟨stage, none, false⟩
  runs : ∀ outcome, run.phase ≠ .done outcome

theorem task_enter (refusals : PipelineStage → Option String) (token : Option String) (nowMs : Nat)
    (machine : PipelineStateMachine Output) (stages : List PipelineStage) :
    (run.enter refusals token nowMs machine stages).task = run.task ∨
      ∃ stage rest, stages = stage :: rest ∧
        (run.enter refusals token nowMs machine stages).Enters stage := by
  rw [enter.eq_def]
  split
  · exact .inl rfl
  · split
    · exact .inl rfl
    · exact .inl rfl
    · exact .inr ⟨_, _, rfl, rfl, nofun⟩

/-- When a guard lets go, the task stays, or is replaced by one of a stage after it. -/
theorem task_leave {run : StageRun Output} (refusals : PipelineStage → Option String)
    (token : Option String) (nowMs : Nat) (machine : PipelineStateMachine Output)
    (rest : List PipelineStage) (exit : Except StageError (StageOutput Output)) :
    (run.leave refusals token nowMs machine rest exit).task = run.task ∨
      ∃ stage others, rest = stage :: others ∧
        (run.leave refusals token nowMs machine rest exit).Enters stage := by
  rw [leave.eq_def]
  split
  · exact .inl rfl
  · exact .inl rfl
  · exact .inl rfl
  · exact .inl rfl
  · split
    · exact .inl rfl
    · exact task_enter refusals token nowMs _ rest

theorem task_begin {run : StageRun Output} (refusals : PipelineStage → Option String)
    (token : Option String) (nowMs : Nat) :
    (run.begin refusals token nowMs).task = run.task ∨
      ∃ stage, (run.begin refusals token nowMs).Enters stage := by
  rw [begin]
  split
  · exact .inl rfl
  · split
    · exact .inl rfl
    · obtain same | ⟨stage, _, _, new⟩ := task_enter refusals token nowMs _ stageOrder
      · exact .inl same
      · exact .inr ⟨stage, new⟩

theorem place_begin (refusals : PipelineStage → Option String) (token : Option String) (nowMs : Nat)
    (log : run.log = []) : (run.begin refusals token nowMs).Place := by
  rw [begin]
  split
  · rename_i invalid _
    exact .raised rfl (.inr ⟨invalid, rfl⟩)
  · rename_i machine made
    obtain rfl := PipelineStateMachine.new_eq_ok made
    exact @place_enter _ run _ 0 _ _ refusals token nowMs rfl rfl rfl rfl log

variable {run next : StageRun Output}

theorem Place.guarding {guard : StageGuard Output} (place : run.Place)
    (phase : run.phase = .guarding machine rest guard) :
    ∃ index task, run.Guards machine rest index task ∧ Exits task guard := by
  cases place with
  | guards at_ guards exits =>
    cases phase.symm.trans at_
    exact ⟨_, _, guards, exits⟩
  | created other | returned other | raised other => cases phase.symm.trans other

/-- A task goes on as another one of its stage, which has ended alike if it had. -/
structure Continues (task other : StageTask Output) : Prop where
  stage : other.stage = task.stage
  outcome : ∀ outcome, task.outcome = some outcome → other.outcome = some outcome

theorem Continues.refl (task : StageTask Output) : Continues task task := ⟨rfl, fun _ => id⟩

theorem Continues.fails (continues : Continues task other) (fails : Fails task) : Fails other := by
  cases fails with
  | raised ended => exact .raised (continues.outcome _ ended)
  | mismatched ended requires differs =>
    exact .mismatched (continues.outcome _ ended) (continues.stage ▸ requires) differs

/-- An attempt is where it was as long as its task goes on. -/
theorem Place.follow (place : run.Place) (phase : next.phase = run.phase)
    (jobId : next.jobId = run.jobId) (log : next.log = run.log)
    (none_ : run.task = none → next.task = none)
    (goes : ∀ task, run.task = some task → ∃ other, next.task = some other ∧ Continues task other) :
    next.Place := by
  cases place with
  | created at_ idle empty => exact .created (phase.trans at_) (none_ idle) (log.trans empty)
  | guards at_ guards exits =>
    obtain ⟨stored, order, stage, job, unpublished, noted⟩ := guards
    obtain ⟨other, found, continues⟩ := goes _ stored
    refine .guards (phase.trans at_) ⟨found, continues.stage ▸ order,
      stage.trans continues.stage.symm, job.trans jobId.symm, unpublished,
      by rw [log, noted, continues.stage]⟩ fun exit leaves => ?_
    exact (exits exit leaves).imp_left (continues.outcome exit)
  | returned at_ fits =>
    refine .returned (phase.trans at_) ⟨fits.jobId.trans jobId.symm, fun status => ?_,
      fun status => ?_⟩
    · obtain ⟨all, task, stored, last⟩ := fits.succeeds status
      obtain ⟨other, found, continues⟩ := goes task stored
      exact ⟨log.trans all, other, found, continues.stage.trans last⟩
    · obtain ⟨task, stored, fails⟩ := fits.fails status
      obtain ⟨other, found, continues⟩ := goes task stored
      exact ⟨other, found, continues.fails fails⟩
  | raised at_ own => exact .raised (phase.trans at_) own

theorem Sound.cancel (sound : run.Sound) : Sound { run with cancelRequested := true } :=
  ⟨sound.place.follow rfl rfl rfl id fun task stored => ⟨task, stored, .refl task⟩, sound.delivery⟩

theorem exits_moves {guard following : StageGuard Output} (exits : Exits task guard)
    (moves : Moves token task guard following) : Exits task following := by
  intro exit leaves
  cases moves with
  | drops =>
    obtain same | same := leaves <;> cases same
    exact .inr (.inl rfl)
  | takes ended =>
    obtain same | same := leaves <;> cases same
    exact .inl ended
  | stops => obtain same | same := leaves <;> cases same
  | stopped =>
    obtain same | same := leaves <;> cases same
    exact .inr (.inr ⟨_, rfl⟩)
  | abandons =>
    obtain same | same := leaves <;> cases same
    exact exits exit (.inl rfl)

theorem Sound.goes (sound : run.Sound) (goes : Goes refusals token nowMs run next) :
    next.Sound := by
  have fresh : ∀ {stage : PipelineStage} {other : StageRun Output},
      other.Enters stage →
        ∀ task ∈ other.task, task.delivered = true → task.stage = .deliver := by
    intro stage other new task member delivered
    rw [new.task] at member
    cases member
    cases delivered
  cases goes with
  | begins phase =>
    cases sound.place with
    | created _ _ log =>
      refine ⟨place_begin refusals token nowMs log, ?_⟩
      obtain same | ⟨stage, new⟩ := @task_begin _ run refusals token nowMs
      · rw [same]
        exact sound.delivery
      · exact fresh new
    | guards other | returned other | raised other => cases phase.symm.trans other
  | ends phase => exact ⟨.raised rfl (.inl rfl), sound.delivery⟩
  | moves phase stored moves =>
    obtain ⟨index, _, guards, exits⟩ := sound.place.guarding phase
    cases stored.symm.trans guards.stored
    obtain ⟨stored, order, stage, job, unpublished, noted⟩ := guards
    exact ⟨.guards rfl ⟨stored, order, stage, job, unpublished, noted⟩ (exits_moves exits moves),
      sound.delivery⟩
  | drops => exact ⟨.raised rfl (.inl rfl), sound.delivery⟩
  | @leaves machine rest exit task stored phase ended =>
    constructor
    · rcases phase with phase | phase <;>
        obtain ⟨index, _, guards, exits⟩ := sound.place.guarding phase
      · exact place_leave refusals token nowMs guards (exits exit (.inl rfl))
      · exact place_leave refusals token nowMs guards (exits exit (.inr rfl))
    · obtain same | ⟨stage, _, _, new⟩ := @task_leave _ run refusals token nowMs machine rest exit
      · rw [same]
        exact sound.delivery
      · exact fresh new

/-- The task of an attempt that goes on as another one leaves the attempt where it is. -/
theorem Sound.withTask (sound : run.Sound) (stored : run.task = some task)
    (continues : Continues task other) (delivery : other.delivered = true → other.stage = .deliver) :
    Sound { run with task := some other } := by
  refine ⟨sound.place.follow rfl rfl rfl (fun idle => ?_) fun old found => ?_, fun new member => ?_⟩
  · cases stored.symm.trans idle
  · cases stored.symm.trans found
    exact ⟨other, rfl, continues⟩
  · cases member
    exact delivery

/-- Every step of an attempt keeps it. -/
theorem Sound.step (sound : run.Sound) (steps : run.step event = some next) : next.Sound := by
  cases event with
  | resume refusals token nowMs => exact sound.goes (resume_cases steps)
  | deliver =>
    obtain ⟨task, changed, stored, _, changes, rfl⟩ := onTask_cases steps
    split at changes
    · rename_i delivers
      cases changes
      exact sound.withTask stored ⟨rfl, fun _ => id⟩ fun _ => delivers.1
    · cases changes
  | finish outcome =>
    obtain ⟨task, changed, stored, runs, changes, rfl⟩ := onTask_cases steps
    cases changes
    refine sound.withTask stored ⟨rfl, fun other ended => ?_⟩ (sound.delivery task stored)
    cases runs.symm.trans ended

theorem sound_new (jobId : String) (call : Nat) : (new jobId call : StageRun Output).Sound :=
  ⟨.created rfl rfl rfl, nofun⟩

/-! ### Deliveries -/

/-- The delivery of an attempt had its side effect. -/
def delivered (run : StageRun Output) : Bool := run.task.any StageTask.delivered

/-- The delivery is the last stage, so an attempt that goes on has delivered if it had. -/
theorem delivered_goes (sound : run.Sound) (goes : Goes refusals token nowMs run next) :
    next.delivered = run.delivered := by
  have fresh : ∀ {stage : PipelineStage} {other : StageRun Output},
      other.Enters stage → other.delivered = false := by
    intro stage other new
    rw [delivered, new.task]
    rfl
  cases goes with
  | begins phase =>
    cases sound.place with
    | created _ idle =>
      obtain same | ⟨stage, new⟩ := @task_begin _ run refusals token nowMs
      · rw [delivered, same, delivered]
      · rw [fresh new, delivered, idle]
        rfl
    | guards other | returned other | raised other => cases phase.symm.trans other
  | ends | moves | drops => rfl
  | @leaves machine rest exit task stored phase _ =>
    obtain same | ⟨stage, others, left, new⟩ :=
      @task_leave _ run refusals token nowMs machine rest exit
    · rw [delivered, same, delivered]
    · rw [fresh new, delivered, stored]
      refine (Bool.eq_false_iff.mpr fun did => ?_).symm
      have placed : ∃ index other, run.Guards machine rest index other := by
        rcases phase with phase | phase <;>
          obtain ⟨index, other, guards, -⟩ := sound.place.guarding phase <;>
          exact ⟨index, other, guards⟩
      obtain ⟨index, _, guards⟩ := placed
      cases stored.symm.trans guards.stored
      obtain ⟨_, _, _, ⟨last, -⟩ | ⟨-, other, -⟩⟩ := transition_of_drop guards.order
      · cases last.symm.trans left
      · exact other (sound.delivery task stored did)

/-- An attempt whose job was cancelled enters no stage. -/
theorem task_goes_of_cancelled {detail : String} (goes : Goes refusals (some detail) nowMs run next) :
    next.task = run.task := by
  have enter : ∀ (other : StageRun Output) machine stages,
      (other.enter refusals (some detail) nowMs machine stages).task = other.task := by
    intro other machine stages
    rw [enter.eq_def]
    split
    · rfl
    · split
      · rfl
      · rfl
      · contradiction
  cases goes with
  | begins =>
    rw [begin]
    split
    · rfl
    · split
      · rfl
      · exact enter run _ _
  | ends | moves | drops => rfl
  | @leaves machine rest exit =>
    rw [leave.eq_def]
    split
    · rfl
    · rfl
    · rfl
    · rfl
    · split
      · rfl
      · exact enter (run.note (.ran machine.stage)) _ _

/-! ### Whose attempt it is -/

theorem serves_enter (run : StageRun Output) (refusals : PipelineStage → Option String)
    (token : Option String) (nowMs : Nat) (machine : PipelineStateMachine Output)
    (stages : List PipelineStage) :
    (run.enter refusals token nowMs machine stages).jobId = run.jobId ∧
      (run.enter refusals token nowMs machine stages).call = run.call := by
  rw [enter.eq_def]
  split
  · exact ⟨rfl, rfl⟩
  · split <;> exact ⟨rfl, rfl⟩

theorem serves_goes (goes : Goes refusals token nowMs run next) :
    next.jobId = run.jobId ∧ next.call = run.call := by
  cases goes with
  | begins =>
    rw [begin]
    split
    · exact ⟨rfl, rfl⟩
    · split
      · exact ⟨rfl, rfl⟩
      · exact serves_enter run refusals token nowMs _ _
  | ends | moves | drops => exact ⟨rfl, rfl⟩
  | @leaves machine rest exit =>
    rw [leave.eq_def]
    split
    · exact ⟨rfl, rfl⟩
    · exact ⟨rfl, rfl⟩
    · exact ⟨rfl, rfl⟩
    · exact ⟨rfl, rfl⟩
    · split
      · exact ⟨rfl, rfl⟩
      · exact serves_enter (run.note (.ran machine.stage)) refusals token nowMs _ _

/-- An attempt serves its job and its call as long as it takes steps. -/
theorem serves_step (steps : run.step event = some next) :
    next.jobId = run.jobId ∧ next.call = run.call := by
  cases event with
  | resume refusals token nowMs => exact serves_goes (resume_cases steps)
  | deliver | finish =>
    obtain ⟨_, _, _, _, _, rfl⟩ := onTask_cases steps
    exact ⟨rfl, rfl⟩

/-- What an attempt keeps, however it goes on. -/
theorem sound_of_descends {jobId : String} {call : Nat}
    (descends : (stages Output).Descends (new jobId call) run) :
    run.Sound ∧ run.jobId = jobId ∧ run.call = call := by
  induction descends with
  | refl => exact ⟨sound_new jobId call, rfl, rfl⟩
  | step _ steps inductionHypothesis =>
    obtain ⟨sound, job, call⟩ := inductionHypothesis
    obtain ⟨sameJob, sameCall⟩ := serves_step steps
    exact ⟨sound.step steps, sameJob.trans job, sameCall.trans call⟩
  | cancel _ inductionHypothesis =>
    obtain ⟨sound, serves⟩ := inductionHypothesis
    exact ⟨sound.cancel, serves⟩

end StageRun

end Pipeline

end Omnitensor
