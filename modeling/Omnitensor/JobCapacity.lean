/-
This file proves when a finished job gives its capacity back.

An entry of the active table stands for one task and is filed under that task's job id. The
completion callback takes it out after the outcome was recorded, and nothing guards the host
code that is called there: a call that raises leaves the entry in the table for good. Admission
counts the table before it adds to it, so the table never outgrows its limit either way.
-/

import Omnitensor.JobSubmissionSteps

namespace Omnitensor

/-! ### Completions that return -/

/-- The end of a task can be told: `str` of its exception does not raise. -/
def TaskOutcome.describable : TaskOutcome → Bool
  | .failed _ _ none => false
  | _ => true

namespace JobSubmissionService

/-- Nothing raises that is called to record an outcome. The store refuses job ids and owners that
are not well formed. -/
def CompletionHost.quiet (host : CompletionHost) (results : Option JobResultStore)
    (jobId owner : String) (outcome : TaskOutcome) : Bool :=
  outcome.describable && !host.finishRaises &&
    (results.isNone ||
      (!host.clockRaises && !host.storeRaises && JobResultStore.validates jobId owner))

theorem recordOutcome_isSome (results : Option JobResultStore) (host : CompletionHost)
    (jobId owner : String) (outcome : TaskOutcome) :
    (recordOutcome results host jobId owner outcome).isSome =
      host.quiet results jobId owner outcome := by
  have told : ∀ described : Option (ResultStatus × String),
      terminalStatus outcome = described → described.isSome = outcome.describable := by
    rintro _ rfl
    cases outcome with
    | failed stable className text => cases text <;> rfl
    | succeeded value => rfl
    | cancelled => rfl
  unfold recordOutcome CompletionHost.quiet
  cases described : terminalStatus outcome with
  | none =>
    rw [← told none described]
    rfl
  | some terminal =>
    obtain ⟨status, detail⟩ := terminal
    rw [← told _ described]
    cases host.finishRaises with
    | true => rfl
    | false =>
      cases results with
      | none => rfl
      | some store =>
        cases host.clockRaises <;> cases host.storeRaises <;>
          simp [JobResultStore.recordResult_isSome]

/-! ### The active table -/

/-- A task has no entry in the active table. -/
def Absent (service : JobSubmissionService) (task : Nat) : Prop :=
  ∀ entry ∈ service.active.values, entry.task ≠ task

instance (service : JobSubmissionService) (task : Nat) : Decidable (service.Absent task) :=
  inferInstanceAs (Decidable (∀ entry ∈ _, _))

variable {before after : List JobTask} {service : JobSubmissionService}

theorem absent_iff_get? {task : Nat} :
    service.Absent task ↔
      ∀ id entry, service.active.get? id = some entry → entry.task ≠ task := by
  constructor
  · exact fun absent id entry found => absent entry (Dict.mem_values_iff.mpr ⟨id, found⟩)
  · intro absent entry member
    obtain ⟨id, found⟩ := Dict.mem_values_iff.mp member
    exact absent id entry found

/-- What a completion must meet to give its capacity back: its entry is gone already, or nothing
raises while its outcome is recorded. -/
def givesBack (service : JobSubmissionService) : Action → Bool
  | .completed task host =>
    decide (service.Absent task) ||
      (service.tasks[task]?.all fun row =>
        row.outcome.all (host.quiet service.results row.jobId row.owner))
  | _ => true

/-- The active table keeps to its limit, and its entries stand for tasks of their job and owner. -/
structure Registered (maxActiveJobs : Nat) (service : JobSubmissionService) : Prop where
  limit : service.maxActiveJobs = maxActiveJobs
  bound : service.active.size ≤ maxActiveJobs
  coherent : ∀ id entry, service.active.get? id = some entry →
    ∃ row, service.tasks[entry.task]? = some row ∧ row.jobId = id ∧ row.owner = entry.owner

/-- Tables of tasks of which the second keeps every task's job and owner. -/
def KeepsTasks (before after : List JobTask) : Prop :=
  ∀ (task : Nat) (row : JobTask), before[task]? = some row →
    ∃ kept, after[task]? = some kept ∧ kept.jobId = row.jobId ∧ kept.owner = row.owner

theorem SameTasks.keeps (same : SameTasks before after) : KeepsTasks before after := by
  intro task row found
  obtain ⟨kept, keptFound, identical⟩ := (same task).1 row found
  exact ⟨kept, keptFound, identical.jobId, identical.owner⟩

theorem KeepsTasks.trans {first second third : List JobTask} (before : KeepsTasks first second)
    (after : KeepsTasks second third) : KeepsTasks first third := by
  intro task row found
  obtain ⟨middle, middleFound, jobId, owner⟩ := before task row found
  obtain ⟨kept, keptFound, sameJobId, sameOwner⟩ := after task middle middleFound
  exact ⟨kept, keptFound, sameJobId.trans jobId, sameOwner.trans owner⟩

theorem keepsTasks_append (tasks : List JobTask) (row : JobTask) :
    KeepsTasks tasks (tasks ++ [row]) := fun _ old found =>
  ⟨old, (List.getElem?_append_left (List.getElem?_eq_some_iff.mp found).1).trans found, rfl, rfl⟩

theorem keepsTasks_set {tasks : List JobTask} {task : Nat} {old new : JobTask}
    (found : tasks[task]? = some old) (jobId : new.jobId = old.jobId)
    (owner : new.owner = old.owner) : KeepsTasks tasks (tasks.set task new) := by
  intro other row rowFound
  rw [Table.getElem?_set found]
  split
  · rename_i same
    rw [same, found] at rowFound
    cases rowFound
    exact ⟨new, rfl, jobId, owner⟩
  · exact ⟨row, rowFound, rfl, rfl⟩

namespace Registered

variable {maxActiveJobs : Nat} {service : JobSubmissionService}

variable {next : JobSubmissionService} {task : Nat}

/-- What only loses entries and keeps the tasks stays registered. -/
theorem shrink (registered : Registered maxActiveJobs service)
    (limit : next.maxActiveJobs = service.maxActiveJobs)
    (smaller : next.active.size ≤ service.active.size)
    (fewer : ∀ id entry, next.active.get? id = some entry → service.active.get? id = some entry)
    (keeps : KeepsTasks service.tasks next.tasks) : Registered maxActiveJobs next where
  limit := limit.trans registered.limit
  bound := smaller.trans registered.bound
  coherent id entry found := by
    obtain ⟨row, rowFound, jobId, owner⟩ := registered.coherent id entry (fewer id entry found)
    obtain ⟨kept, keptFound, sameJobId, sameOwner⟩ := keeps entry.task row rowFound
    exact ⟨kept, keptFound, sameJobId.trans jobId, sameOwner.trans owner⟩

theorem submitted (registered : Registered maxActiveJobs service) {submission : Submission}
    (submits : Submitted service submission next) : Registered maxActiveJobs next := by
  cases submits with
  | unchanged => exact registered
  | abandoned _ _ same =>
    exact registered.shrink rfl (Nat.le_refl _) (fun _ _ found => found)
      ((keepsTasks_append _ _).trans same.keeps)
  | @begun jobId results tasks room new _ _ same =>
    have keeps := (keepsTasks_append service.tasks _).trans same.keeps
    refine ⟨registered.limit, ?_, fun id entry found => ?_⟩
    · rw [Dict.size_set, if_neg new]
      exact Nat.le_trans room registered.limit.le
    · rw [Dict.get?_set] at found
      split at found
      · rename_i here
        cases found
        obtain ⟨row, rowFound, identical⟩ :=
          (same service.tasks.length).1 _ List.getElem?_concat_length
        exact ⟨row, rowFound, identical.jobId.trans here.symm, identical.owner⟩
      · obtain ⟨row, rowFound, sameJobId, sameOwner⟩ := registered.coherent id entry found
        obtain ⟨kept, keptFound, keptJobId, keptOwner⟩ := keeps entry.task row rowFound
        exact ⟨kept, keptFound, keptJobId.trans sameJobId, keptOwner.trans sameOwner⟩

theorem step (registered : Registered maxActiveJobs service) {action : Action}
    (steps : JobSubmissionService.step service action = some next) :
    Registered maxActiveJobs next := by
  cases action with
  | submit submission =>
    obtain rfl := Option.some.inj steps
    exact registered.submitted (submitted_submit service submission)
  | cancel cancellation =>
    obtain rfl := Option.some.inj steps
    obtain ⟨tasks, same, keeps⟩ := cancel_eq service cancellation
    rw [same]
    exact registered.shrink rfl (Nat.le_refl _) (fun _ _ found => found) keeps.keeps
  | result publishable request =>
    obtain rfl := Option.some.inj steps
    obtain ⟨results, same, _⟩ := jobResult_eq publishable service request
    rw [same]
    exact registered.shrink rfl (Nat.le_refl _) (fun _ _ found => found) (SameTasks.refl _).keeps
  | progress now timestamp jobId stage fraction detail =>
    obtain rfl := Option.some.inj steps
    obtain ⟨results, same, _⟩ := noteProgress_eq service now timestamp jobId stage fraction detail
    rw [same]
    exact registered.shrink rfl (Nat.le_refl _) (fun _ _ found => found) (SameTasks.refl _).keeps
  | settle task outcome =>
    obtain ⟨row, found, _, rfl⟩ := step_settle steps
    exact registered.shrink rfl (Nat.le_refl _) (fun _ _ found => found)
      (keepsTasks_set found rfl rfl)
  | completed task host =>
    obtain ⟨row, outcome, found, _, reported⟩ := step_completed steps
    exact registered.shrink reported.maxActiveJobs_eq reported.size_active_le reported.get?_active
      (reported.tasks_eq ▸ keepsTasks_set found rfl rfl)
  | start =>
    obtain rfl := Option.some.inj steps
    exact registered.shrink rfl (Nat.le_refl _) (fun _ _ found => found) (SameTasks.refl _).keeps
  | stop =>
    obtain rfl := Option.some.inj steps
    exact registered.shrink rfl (Nat.le_refl _) (fun _ _ found => found)
      (sameTasks_foldl_cancelTask _ _).keeps

/-- The entry a task has is filed under its job id, for its owner. -/
theorem exists_of_not_absent (registered : Registered maxActiveJobs service) {row : JobTask}
    (found : service.tasks[task]? = some row) (present : ¬ service.Absent task) :
    ∃ entry, service.active.get? row.jobId = some entry ∧ entry.task = task ∧
      entry.owner = row.owner := by
  simp only [absent_iff_get?, not_forall, not_not] at present
  obtain ⟨id, entry, stored, rfl⟩ := present
  obtain ⟨known, knownFound, rfl, owner⟩ := registered.coherent id entry stored
  rw [found] at knownFound
  cases knownFound
  exact ⟨entry, stored, rfl, owner.symm⟩

/-- After a task's completion callback its entry is gone exactly when it was gone before or nothing
raised. -/
theorem absent_completed_iff (registered : Registered maxActiveJobs service) {host : CompletionHost}
    (steps : JobSubmissionService.step service (.completed task host) = some next) :
    next.Absent task ↔ service.givesBack (.completed task host) = true := by
  obtain ⟨row, outcome, found, settled, reported⟩ := step_completed steps
  simp only [givesBack, found, settled, Option.all_some, Bool.or_eq_true, decide_eq_true_eq]
  by_cases present : service.Absent task
  · refine iff_of_true (absent_iff_get?.mpr fun id entry stored => ?_) (Or.inl present)
    exact absent_iff_get?.mp present id entry (reported.get?_active id entry stored)
  obtain ⟨entry, stored, own, owner⟩ := registered.exists_of_not_absent found present
  -- The entry is this task's own, so the outcome is filed for the task's owner.
  have filed : service.outcomeOwner row.jobId = row.owner := by
    rw [outcomeOwner, stored]
    exact owner
  rw [or_iff_right present, ← recordOutcome_isSome]
  cases reported with
  | raised raises =>
    rw [filed] at raises
    rw [raises]
    exact iff_of_false present Bool.false_ne_true
  | recorded records =>
    rw [filed] at records
    rw [records]
    refine iff_of_true (absent_iff_get?.mpr fun id left kept same => ?_) rfl
    -- An entry of this task would be filed under its job id, which has been taken out.
    obtain ⟨known, knownFound, rfl, _⟩ :=
      registered.coherent id left (get?_of_get?_withoutTask kept)
    rw [same, found] at knownFound
    cases knownFound
    exact task_ne_of_get?_withoutTask kept same

/-- A completion that takes its entry out makes room for one job. -/
theorem size_completed (registered : Registered maxActiveJobs service) {host : CompletionHost}
    (steps : JobSubmissionService.step service (.completed task host) = some next)
    (present : ¬ service.Absent task) (absent : next.Absent task) :
    next.active.size + 1 = service.active.size := by
  obtain ⟨row, outcome, found, settled, reported⟩ := step_completed steps
  obtain ⟨entry, stored, own, _⟩ := registered.exists_of_not_absent found present
  cases reported with
  | raised => exact absurd absent present
  | recorded =>
    have taken : withoutTask service.active task row.jobId = service.active.erase row.jobId := by
      rw [withoutTask, stored, Option.any_some, if_pos (decide_eq_true own)]
    show (withoutTask service.active task row.jobId).size + 1 = _
    rw [taken, Dict.size_erase_add_one stored]

end Registered

theorem registered_initial (maxActiveJobs : Nat) (results : Option JobResultStore) :
    Registered maxActiveJobs (initial maxActiveJobs results) where
  limit := rfl
  bound := Nat.zero_le _
  coherent id entry found := by cases found

theorem registered_of_reachable {maxActiveJobs : Nat} {results : Option JobResultStore}
    (reachable : Machine.Reachable step (initial maxActiveJobs results) service) :
    Registered maxActiveJobs service :=
  reachable.invariant (Registered maxActiveJobs)
    (fun _ _ _ registered steps => registered.step steps) (registered_initial maxActiveJobs results)

/-! ### Runs that give their capacity back -/

/-- A task whose callback has run has no entry. -/
def Returned (service : JobSubmissionService) : Prop :=
  ∀ (task : Nat) (row : JobTask), service.tasks[task]? = some row → row.reported = true →
    service.Absent task

namespace Returned

variable {service next : JobSubmissionService}

/-- What adds no entry and reports no task keeps what is returned returned. -/
theorem shrink (returned : service.Returned)
    (fewer : ∀ id entry, next.active.get? id = some entry → service.active.get? id = some entry)
    (reports : ∀ (task : Nat) (row : JobTask), next.tasks[task]? = some row →
      row.reported = true → ∃ old, service.tasks[task]? = some old ∧ old.reported = true) :
    next.Returned := by
  intro task row found reported
  obtain ⟨old, oldFound, oldReported⟩ := reports task row found reported
  have absent := absent_iff_get?.mp (returned task old oldFound oldReported)
  exact absent_iff_get?.mpr fun id entry stored => absent id entry (fewer id entry stored)

end Returned

theorem SameTasks.reports (same : SameTasks before after) (task : Nat) (row : JobTask)
    (found : after[task]? = some row) (reported : row.reported = true) :
    ∃ old, before[task]? = some old ∧ old.reported = true := by
  obtain ⟨old, oldFound, identical⟩ := (same task).2 row found
  exact ⟨old, oldFound, identical.reported.symm.trans reported⟩

/-- A task that was reported after another one began was reported before. -/
theorem reports_begun {jobId owner : String}
    (same : SameTasks (before ++ [freshTask jobId owner]) after) (task : Nat) (row : JobTask)
    (found : after[task]? = some row) (reported : row.reported = true) :
    ∃ old, before[task]? = some old ∧ old.reported = true := by
  obtain ⟨old, oldFound, oldReported⟩ := same.reports task row found reported
  rw [Table.getElem?_concat] at oldFound
  split at oldFound
  · cases oldFound
    cases oldReported
  · exact ⟨old, oldFound, oldReported⟩

namespace Returned

variable {maxActiveJobs : Nat} {service next : JobSubmissionService}

theorem submitted (returned : service.Returned) {submission : Submission}
    (submits : Submitted service submission next) : next.Returned := by
  cases submits with
  | unchanged => exact returned
  | abandoned _ _ same => exact returned.shrink (fun _ _ found => found) (reports_begun same)
  | begun _ _ _ _ same =>
    intro task row found reported
    obtain ⟨old, oldFound, oldReported⟩ := reports_begun same task row found reported
    refine absent_iff_get?.mpr fun id entry stored => ?_
    rw [Dict.get?_set] at stored
    split at stored
    · -- The new entry stands for a task that did not exist.
      cases stored
      exact Nat.ne_of_gt (List.getElem?_eq_some_iff.mp oldFound).1
    · exact absent_iff_get?.mp (returned task old oldFound oldReported) id entry stored

/-- After a completion everything is returned exactly when the completion gave its capacity
back. -/
theorem completed_iff (returned : service.Returned)
    (registered : Registered maxActiveJobs service) {task : Nat} {host : CompletionHost}
    (steps : JobSubmissionService.step service (.completed task host) = some next) :
    next.Returned ↔ service.givesBack (.completed task host) = true := by
  rw [← registered.absent_completed_iff steps]
  obtain ⟨row, outcome, found, _, reported⟩ := step_completed steps
  constructor
  · intro everything
    refine everything task { row with reported := true } ?_ rfl
    rw [reported.tasks_eq, Table.getElem?_set found, if_pos rfl]
  · intro absent other after afterFound afterReported
    rw [reported.tasks_eq, Table.getElem?_set found] at afterFound
    split at afterFound
    · rename_i here
      exact here ▸ absent
    · have before := absent_iff_get?.mp (returned other after afterFound afterReported)
      exact absent_iff_get?.mpr fun id entry stored =>
        before id entry (reported.get?_active id entry stored)

theorem step_iff (returned : service.Returned) (registered : Registered maxActiveJobs service)
    {action : Action} (steps : JobSubmissionService.step service action = some next) :
    next.Returned ↔ service.givesBack action = true := by
  cases action with
  | submit submission =>
    obtain rfl := Option.some.inj steps
    exact iff_of_true (returned.submitted (submitted_submit service submission)) rfl
  | cancel cancellation =>
    obtain rfl := Option.some.inj steps
    obtain ⟨tasks, same, keeps⟩ := cancel_eq service cancellation
    rw [same]
    exact iff_of_true (returned.shrink (fun _ _ found => found) keeps.reports) rfl
  | result publishable request =>
    obtain rfl := Option.some.inj steps
    obtain ⟨results, same, _⟩ := jobResult_eq publishable service request
    rw [same]
    exact iff_of_true returned rfl
  | progress now timestamp jobId stage fraction detail =>
    obtain rfl := Option.some.inj steps
    obtain ⟨results, same, _⟩ := noteProgress_eq service now timestamp jobId stage fraction detail
    rw [same]
    exact iff_of_true returned rfl
  | settle task outcome =>
    obtain ⟨row, found, _, rfl⟩ := step_settle steps
    refine iff_of_true ?_ rfl
    refine returned.shrink (fun _ _ stored => stored) fun other after afterFound reported => ?_
    rw [Table.getElem?_set found] at afterFound
    split at afterFound
    · rename_i here
      cases afterFound
      exact ⟨row, here ▸ found, reported⟩
    · exact ⟨after, afterFound, reported⟩
  | completed task host => exact returned.completed_iff registered steps
  | start =>
    obtain rfl := Option.some.inj steps
    exact iff_of_true returned rfl
  | stop =>
    obtain rfl := Option.some.inj steps
    exact iff_of_true
      (returned.shrink (fun _ _ found => found) (sameTasks_foldl_cancelTask _ _).reports) rfl

end Returned

theorem returned_initial (maxActiveJobs : Nat) (results : Option JobResultStore) :
    (initial maxActiveJobs results).Returned := fun _ _ found => by cases found

/-- The active table never outgrows its limit, whatever host code does. A completion callback takes
its entry out, and makes room, exactly when its entry was gone before or nothing raised while
the outcome was recorded; so the tasks whose callback has run have no entry throughout a
run exactly when every completion of the run is of that kind. -/
theorem capacity_returned {maxActiveJobs : Nat} {results : Option JobResultStore}
    {actions : List Action} {service : JobSubmissionService}
    (runs : Machine.run step (initial maxActiveJobs results) actions = some service) :
    service.active.size ≤ maxActiveJobs ∧
      (∀ (task : Nat) (host : CompletionHost) (next : JobSubmissionService),
        step service (.completed task host) = some next →
          (next.Absent task ↔ service.givesBack (.completed task host) = true) ∧
            (¬ service.Absent task → next.Absent task →
              next.active.size + 1 = service.active.size)) ∧
      (Machine.Throughout step (fun before action => ∀ after ∈ step before action, after.Returned)
          (initial maxActiveJobs results) actions ↔
        Machine.Throughout step (fun before action => before.givesBack action = true)
          (initial maxActiveJobs results) actions) := by
  have registered := registered_of_reachable ⟨actions, runs⟩
  refine ⟨registered.bound, fun task host next steps =>
    ⟨registered.absent_completed_iff steps, registered.size_completed steps⟩, ?_⟩
  refine Machine.throughout_congr
    (fun state => Registered maxActiveJobs state ∧ state.Returned) ?_ ?_
    ⟨registered_initial maxActiveJobs results, returned_initial maxActiveJobs results⟩ runs
  · rintro state action next ⟨coherent, returned⟩ steps
    simp only [steps, Option.mem_def, Option.some.injEq, forall_eq']
    exact returned.step_iff coherent steps
  · rintro state action next ⟨coherent, returned⟩ gives steps
    exact ⟨coherent.step steps, (returned.step_iff coherent steps).mpr gives⟩

/-! ### Two runs -/

/-- A submission that every host call accepts. -/
def plainSubmission (jobId owner : String) : Submission where
  malformed := none
  requestId := "request"
  workloadId := "documents"
  owner := owner
  authorized := .accepts
  admission := .accepts
  mintedId := some jobId
  dispatch := .accepts
  startRaises := false
  progressRaises := false
  replyRaises := false
  timestamp := 1
  now := 0

/-- Host code that raises nothing when a job ends. -/
def plainHost : CompletionHost where
  finishRaises := false
  clockRaises := false
  storeRaises := false
  timestamp := 2
  now := 1

/-- A store without records, with the default bounds. -/
def emptyStore : JobResultStore where
  maxRetainedJobs := 256
  resultTtl := 900
  records := Dict.empty

/-- A job is abandoned, another one takes the one place there is, and both end. -/
def returningActions : List Action :=
  [.submit { plainSubmission "first" "uid:1" with replyRaises := true },
    .submit (plainSubmission "second" "uid:2"),
    .settle 0 .cancelled, .completed 0 { plainHost with finishRaises := true },
    .settle 1 (.succeeded (.object "report")), .completed 1 plainHost]

/-- The observer raises for the abandoned job alone, which has no entry then. -/
theorem capacity_returned_abandoned :
    ∃ service, Machine.run step (initial 1 (some emptyStore)) returningActions = some service ∧
      service.active.size ≤ 1 ∧
      Machine.Throughout step (fun before action => ∀ after ∈ step before action, after.Returned)
        (initial 1 (some emptyStore)) returningActions := by
  have outcome : (Machine.run step (initial 1 (some emptyStore)) returningActions).isSome = true := by
    decide +kernel
  have gives : Machine.Throughout step (fun before action => before.givesBack action = true)
      (initial 1 (some emptyStore)) returningActions := by decide +kernel
  obtain ⟨service, runs⟩ := Option.isSome_iff_exists.mp outcome
  obtain ⟨bound, _, exact⟩ := capacity_returned runs
  exact ⟨service, runs, bound, exact.mpr gives⟩

/-- A job ends, and the observer raises when it is told. -/
def leakingActions : List Action :=
  [.submit (plainSubmission "first" "uid:1"), .settle 0 (.succeeded (.object "report")),
    .completed 0 { plainHost with finishRaises := true }]

/-- The callback of the job's task has run, and the job is still in the active table. -/
theorem not_capacity_returned :
    ¬ ∀ (maxActiveJobs : Nat) (results : Option JobResultStore) (actions : List Action)
      (service : JobSubmissionService),
      Machine.run step (initial maxActiveJobs results) actions = some service →
      service.active.size ≤ maxActiveJobs ∧ service.Returned := by
  intro claim
  have outcome : (Machine.run step (initial 1 (some emptyStore)) leakingActions).map (fun service =>
      (service.tasks[0]?.map JobTask.reported, decide (service.Absent 0))) =
      some (some true, false) := by decide +kernel
  obtain ⟨service, runs, both⟩ := Option.map_eq_some_iff.mp outcome
  obtain ⟨ended, present⟩ := Prod.mk.inj both
  obtain ⟨row, found, reported⟩ := Option.map_eq_some_iff.mp ended
  have returned := (claim 1 (some emptyStore) leakingActions service runs).2
  exact of_decide_eq_false present (returned 0 row found reported)

end JobSubmissionService

end Omnitensor
