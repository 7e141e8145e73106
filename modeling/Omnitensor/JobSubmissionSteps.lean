/-
This file says what each operation of the job submission service does.

Every operation changes few of the service's tables: the store gains at most a record of one job
for one owner, the tasks keep all but their requests to stop, and the active table gains or
loses one entry. A fact about runs needs these lemmas alone.
-/

import Omnitensor.JobSubmission
import Omnitensor.Table

namespace Omnitensor

/-! ### What the store holds -/

/-- A store, if there is one, holds what another held, and besides records of allowed jobs for
allowed owners alone. -/
def Adds (before after : Option JobResultStore) (allowed : String → String → Prop) : Prop :=
  ∀ store, after = some store → ∃ held, before = some held ∧
    ∀ id entry, store.records.get? id = some entry →
      held.records.get? id = some entry ∨ allowed id entry.1

theorem Adds.refl (results : Option JobResultStore) (allowed : String → String → Prop) :
    Adds results results allowed := fun store same => ⟨store, same, fun _ _ => Or.inl⟩

/-- One job for one owner. -/
def only (jobId owner : String) : String → String → Prop :=
  fun other otherOwner => other = jobId ∧ otherOwner = owner

namespace JobResultStore

variable {store recorded : JobResultStore} {now : Rat} {jobId owner : String}

variable {entry : String × JobRecord}

theorem get?_of_get?_expire {id : String} (found : (store.expire now).records.get? id = some entry) :
    store.records.get? id = some entry := (Dict.get?_filter_of_accept.mp found).1

theorem get?_store {record : JobRecord} {id : String}
    (found : (store.store now jobId owner record).records.get? id = some entry) :
    store.records.get? id = some entry ∨ (id = jobId ∧ entry = (owner, record)) := by
  have kept := Dict.get?_of_get?_drop found
  rw [Dict.get?_set, Dict.get?_erase] at kept
  split at kept
  · rename_i same
    exact Or.inr ⟨same, (Option.some.inj kept).symm⟩
  · exact Or.inl (get?_of_get?_expire kept)

theorem adds_store (record : JobRecord) :
    Adds (some store) (some (store.store now jobId owner record)) (only jobId owner) := by
  intro filed same
  obtain rfl := Option.some.inj same
  refine ⟨store, rfl, fun id entry found => ?_⟩
  exact (get?_store found).imp_right fun ⟨same, filed⟩ => ⟨same, congrArg Prod.fst filed⟩

theorem adds_recordProgress {progress : JobProgress}
    (records : store.recordProgress now jobId owner progress = some recorded) :
    Adds (some store) (some recorded) (only jobId owner) := by
  unfold recordProgress at records
  split at records
  · cases records
  · split at records
    · split at records
      · cases records
        exact Adds.refl _ _
      · cases records
        exact adds_store _
    · cases records
      exact adds_store _

theorem adds_recordResult {result : JobResult}
    (records : store.recordResult now jobId owner result = some recorded) :
    Adds (some store) (some recorded) (only jobId owner) := by
  unfold recordResult at records
  split at records
  · cases records
  · cases records
    exact adds_store _

theorem recordResult_isSome {result : JobResult} :
    (store.recordResult now jobId owner result).isSome = validates jobId owner := by
  unfold recordResult
  cases validates jobId owner <;> rfl

end JobResultStore

/-- What a progress report leaves of a store, if there is one: what it was, or what recording the
progress gives. -/
def Noted (now : Rat) (jobId owner : String) (before after : Option JobResultStore) : Prop :=
  after = before ∨ ∃ store recorded progress, before = some store ∧
    store.recordProgress now jobId owner progress = some recorded ∧ after = some recorded

variable {before after : Option JobResultStore}

theorem Noted.adds {now : Rat} {jobId owner : String} (noted : Noted now jobId owner before after) :
    Adds before after (only jobId owner) := by
  obtain rfl | ⟨store, recorded, progress, rfl, records, rfl⟩ := noted
  · exact Adds.refl _ _
  · exact JobResultStore.adds_recordProgress records

/-- What a request leaves of a store, if there is one: what it was, or what looking a job up
leaves. -/
def Looked (now : Rat) (before after : Option JobResultStore) : Prop :=
  after = before ∨ ∃ store jobId owner, before = some store ∧
    after = some (store.get now jobId owner).1

theorem JobResultStore.get?_of_get?_get {store : JobResultStore} {now : Rat}
    {jobId owner id : String} {entry : String × JobRecord}
    (found : (store.get now jobId owner).1.records.get? id = some entry) :
    store.records.get? id = some entry := by
  unfold JobResultStore.get at found
  split at found
  · exact found
  · dsimp only at found
    split at found <;> exact get?_of_get?_expire found

theorem Looked.adds {now : Rat} (looked : Looked now before after)
    (allowed : String → String → Prop) : Adds before after allowed := by
  obtain rfl | ⟨store, jobId, owner, rfl, rfl⟩ := looked
  · exact Adds.refl _ _
  · intro expired same
    obtain rfl := Option.some.inj same
    exact ⟨store, rfl, fun id entry found => Or.inl (JobResultStore.get?_of_get?_get found)⟩

namespace JobSubmissionService

/-! ### What each operation does -/

section

variable (service : JobSubmissionService) (now : Rat) (timestamp : Int) (jobId stage : String)
  (fraction : Option Rat) (detail : String)

/-- Progress touches the store alone. -/
theorem noteProgress_eq : ∃ results,
    service.noteProgress now timestamp jobId stage fraction detail =
      { service with results := results } ∧
    ((results = service.results) ∨ ∃ active, service.active.get? jobId = some active ∧
      Noted now jobId active.owner service.results results) := by
  unfold noteProgress
  split
  · rename_i active store entry wired
    split
    · rename_i recorded records
      exact ⟨some recorded, rfl, Or.inr ⟨active, entry,
        Or.inr ⟨store, recorded, _, wired, records, rfl⟩⟩⟩
    · exact ⟨service.results, rfl, Or.inl rfl⟩
  · exact ⟨service.results, rfl, Or.inl rfl⟩

end

/-- A task row that is kept, but for a request to stop. -/
structure SameTask (before after : JobTask) : Prop where
  jobId : after.jobId = before.jobId
  owner : after.owner = before.owner
  outcome : after.outcome = before.outcome
  reported : after.reported = before.reported

theorem SameTask.refl (row : JobTask) : SameTask row row := ⟨rfl, rfl, rfl, rfl⟩

theorem SameTask.trans {first second third : JobTask} (before : SameTask first second)
    (after : SameTask second third) : SameTask first third :=
  ⟨after.jobId.trans before.jobId, after.owner.trans before.owner,
    after.outcome.trans before.outcome, after.reported.trans before.reported⟩

/-- Tables of tasks that differ in requests to stop alone. -/
def SameTasks (before after : List JobTask) : Prop :=
  ∀ (task : Nat), (∀ row, before[task]? = some row → ∃ kept, after[task]? = some kept ∧
      SameTask row kept) ∧
    ∀ kept, after[task]? = some kept → ∃ row, before[task]? = some row ∧ SameTask row kept

theorem SameTasks.refl (tasks : List JobTask) : SameTasks tasks tasks :=
  fun _ => ⟨fun row found => ⟨row, found, SameTask.refl row⟩,
    fun row found => ⟨row, found, SameTask.refl row⟩⟩

theorem SameTasks.trans {first second third : List JobTask} (before : SameTasks first second)
    (after : SameTasks second third) : SameTasks first third := by
  refine fun task => ⟨fun row found => ?_, fun kept found => ?_⟩
  · obtain ⟨middle, middleFound, same⟩ := (before task).1 row found
    obtain ⟨kept, keptFound, also⟩ := (after task).1 middle middleFound
    exact ⟨kept, keptFound, same.trans also⟩
  · obtain ⟨middle, middleFound, also⟩ := (after task).2 kept found
    obtain ⟨row, rowFound, same⟩ := (before task).2 middle middleFound
    exact ⟨row, rowFound, same.trans also⟩

theorem sameTasks_cancelTask (tasks : List JobTask) (task : Nat) :
    SameTasks tasks (cancelTask tasks task) := by
  intro other
  have touched : ∀ row : JobTask,
      SameTask row (if task = other then { row with cancelRequested := true } else row) := by
    intro row
    split <;> exact ⟨rfl, rfl, rfl, rfl⟩
  rw [cancelTask, List.getElem?_modify, Option.map_eq_map]
  refine ⟨fun row found => ⟨_, by rw [found]; rfl, touched row⟩, fun kept found => ?_⟩
  obtain ⟨row, rowFound, rfl⟩ := Option.map_eq_some_iff.mp found
  exact ⟨row, rowFound, touched row⟩

theorem sameTasks_foldl_cancelTask (tasks : List JobTask) (cancelled : List Nat) :
    SameTasks tasks (cancelled.foldl cancelTask tasks) := by
  induction cancelled generalizing tasks with
  | nil => exact SameTasks.refl tasks
  | cons first rest inductionHypothesis =>
    exact (sameTasks_cancelTask tasks first).trans (inductionHypothesis _)

/-- The row of a job that has just begun. -/
def freshTask (jobId owner : String) : JobTask := ⟨jobId, owner, false, none, false⟩

/-- A submission changes nothing, begins a job, or begins one and abandons it. -/
inductive Submitted (service : JobSubmissionService) (submission : Submission) :
    JobSubmissionService → Prop where
  | unchanged : Submitted service submission service
  | begun {jobId : String} {results : Option JobResultStore} {tasks : List JobTask}
      (room : service.active.size < service.maxActiveJobs)
      (new : jobId ∉ service.active.keys) (told : submission.replyRaises = false)
      (noted : Noted submission.now jobId submission.owner service.results results)
      (same : SameTasks (service.tasks ++ [freshTask jobId submission.owner]) tasks) :
      Submitted service submission
        { service with
          active := service.active.set jobId
            ⟨submission.workloadId, service.tasks.length, submission.owner⟩
          results := results
          tasks := tasks }
  | abandoned {jobId : String} {results : Option JobResultStore} {tasks : List JobTask}
      (untold : submission.replyRaises = true)
      (noted : Noted submission.now jobId submission.owner service.results results)
      (same : SameTasks (service.tasks ++ [freshTask jobId submission.owner]) tasks) :
      Submitted service submission { service with results := results, tasks := tasks }

variable {service began next : JobSubmissionService} {jobId : String} {task : Nat}
  {submission : Submission} {active : Dict String ActiveJob}

/-- What beginning a job leaves when it does not fail. -/
theorem beginJob_begun (begins : service.beginJob submission = (began, .begun jobId)) :
    jobId ∉ service.active.keys ∧ ∃ results,
      Noted submission.now jobId submission.owner service.results results ∧
      began =
        { service with
          active := service.active.set jobId
            ⟨submission.workloadId, service.tasks.length, submission.owner⟩
          results := results
          tasks := service.tasks ++ [freshTask jobId submission.owner] } := by
  unfold beginJob at begins
  split at begins
  · cases begins
  · split at begins
    · cases begins
    · rename_i minted _ admissible
      have new : minted ∉ service.active.keys := by
        intro member
        refine admissible ?_
        rw [Dict.contains_iff.mpr member, Bool.or_true]
      split at begins
      · cases begins
      · cases begins
      · dsimp only at begins
        split at begins
        · cases begins
          exact ⟨new, service.results, Or.inl rfl, rfl⟩
        · cases begins
          refine ⟨new, ?_⟩
          obtain ⟨results, same, rfl | ⟨active, entry, noted⟩⟩ := noteProgress_eq
            { service with
              active := service.active.set jobId
                ⟨submission.workloadId, service.tasks.length, submission.owner⟩
              tasks := service.tasks ++ [⟨jobId, submission.owner, false, none, false⟩] }
            submission.now submission.timestamp jobId "queued" (some 0) "Job accepted and queued"
          · exact ⟨service.results, Or.inl rfl, same⟩
          · rw [Dict.get?_set_self] at entry
            cases entry
            exact ⟨results, noted, same⟩

/-- A job that is not begun leaves nothing. -/
theorem beginJob_eq_service {outcome : Begun}
    (begins : service.beginJob submission = (began, outcome))
    (failed : ∀ jobId, outcome ≠ .begun jobId) : began = service := by
  unfold beginJob at begins
  split at begins
  · exact (Prod.mk.inj begins).1.symm
  · split at begins
    · exact (Prod.mk.inj begins).1.symm
    · split at begins
      · exact (Prod.mk.inj begins).1.symm
      · exact (Prod.mk.inj begins).1.symm
      · dsimp only at begins
        split at begins
        · exact absurd (Prod.mk.inj begins).2.symm (failed _)
        · exact absurd (Prod.mk.inj begins).2.symm (failed _)

theorem submitted_submit (service : JobSubmissionService) (submission : Submission) :
    Submitted service submission (service.submit submission).1 := by
  unfold submit
  split
  · exact .unchanged
  split
  · exact .unchanged
  split
  · exact .unchanged
  · exact .unchanged
  split
  · exact .unchanged
  rename_i full
  have room : service.active.size < service.maxActiveJobs := Nat.not_le.mp full
  split
  · exact .unchanged
  · exact .unchanged
  split
  · rename_i began begins
    rw [beginJob_eq_service begins fun _ same => by cases same]
    exact .unchanged
  · rename_i began code message begins
    rw [beginJob_eq_service begins fun _ same => by cases same]
    exact .unchanged
  · rename_i began jobId begins
    obtain ⟨new, results, noted, rfl⟩ := beginJob_begun begins
    split
    · rename_i untold
      -- Taking out the entry that was just set leaves the table as it was.
      have back : (service.active.set jobId
          ⟨submission.workloadId, service.tasks.length, submission.owner⟩).erase jobId =
            service.active := by
        rw [Dict.erase_set_self, Dict.erase_of_not_mem new]
      simp only [abandonJob, Dict.get?_set_self, back]
      exact .abandoned untold noted (sameTasks_cancelTask _ _)
    · rename_i told
      exact .begun room new (Bool.not_eq_true _ ▸ told) noted (SameTasks.refl _)

/-- A cancellation asks a task to stop, at most. -/
theorem cancel_eq (service : JobSubmissionService) (cancellation : Cancellation) :
    ∃ tasks, (service.cancel cancellation).1 = { service with tasks := tasks } ∧
      SameTasks service.tasks tasks := by
  have idle : ∃ tasks, service = { service with tasks := tasks } ∧ SameTasks service.tasks tasks :=
    ⟨service.tasks, rfl, SameTasks.refl _⟩
  unfold cancel
  split
  · exact idle
  dsimp only
  split
  · exact idle
  split
  · exact idle
  split
  · exact idle
  · exact idle
  · exact ⟨_, rfl, sameTasks_cancelTask _ _⟩

/-- Looking a job up touches the store alone. -/
theorem lookup_eq (service : JobSubmissionService) (now : Rat) (jobId owner : String) :
    ∃ results, (service.lookup now jobId owner).1 = { service with results := results } ∧
      Looked now service.results results := by
  unfold lookup
  split
  · exact ⟨service.results, rfl, Or.inl rfl⟩
  cases wired : service.results with
  | none =>
    refine ⟨none, ?_, Or.inl rfl⟩
    dsimp only
    split
    · rfl
    · split <;> rfl
  | some store =>
    refine ⟨some (store.get now jobId owner).1, ?_, Or.inr ⟨store, jobId, owner, rfl, rfl⟩⟩
    dsimp only
    split
    · rfl
    · split
      · rfl
      · split <;> rfl

/-- A result request touches the store alone. -/
theorem jobResult_eq (publishable : JobResultReply → Bool) (service : JobSubmissionService)
    (request : ResultRequest) :
    ∃ results, (service.jobResult publishable request).1 = { service with results := results } ∧
      Looked request.now service.results results := by
  unfold jobResult
  dsimp only
  split
  · exact ⟨service.results, rfl, Or.inl rfl⟩
  · have looked := lookup_eq service request.now request.jobId request.owner
    split
    · rename_i looks
      rwa [looks] at looked
    · rename_i looks
      rw [looks] at looked
      split <;> exact looked

/-- The owner an outcome is filed for. -/
def outcomeOwner (service : JobSubmissionService) (jobId : String) : String :=
  match service.active.get? jobId with
  | some active => active.owner
  | none => anonymousOwner

theorem adds_recordOutcome {results after : Option JobResultStore} {host : CompletionHost}
    {owner : String} {outcome : TaskOutcome}
    (records : recordOutcome results host jobId owner outcome = some after) :
    Adds results after (only jobId owner) := by
  unfold recordOutcome at records
  split at records
  · cases records
  split at records
  · cases records
  split at records
  · cases records
    exact Adds.refl _ _
  split at records
  · cases records
  · obtain ⟨recorded, stores, rfl⟩ := Option.map_eq_some_iff.mp records
    exact JobResultStore.adds_recordResult stores

/-- The active table without the entry of a task, when that is what a job id has. -/
def withoutTask (active : Dict String ActiveJob) (task : Nat) (jobId : String) :
    Dict String ActiveJob :=
  if (active.get? jobId).any fun entry => decide (entry.task = task) then active.erase jobId
  else active

theorem get?_of_get?_withoutTask {id : String} {entry : ActiveJob}
    (found : (withoutTask active task jobId).get? id = some entry) :
    active.get? id = some entry := by
  unfold withoutTask at found
  split at found
  · rw [Dict.get?_erase] at found
    split at found
    · cases found
    · exact found
  · exact found

theorem task_ne_of_get?_withoutTask {entry : ActiveJob}
    (found : (withoutTask active task jobId).get? jobId = some entry) : entry.task ≠ task := by
  intro own
  have stored := get?_of_get?_withoutTask found
  rw [withoutTask, stored, Option.any_some, if_pos (decide_eq_true own), Dict.get?_erase,
    if_pos rfl] at found
  cases found

theorem size_withoutTask_le (active : Dict String ActiveJob) (task : Nat) (jobId : String) :
    (withoutTask active task jobId).size ≤ active.size := by
  unfold withoutTask
  split
  · exact Dict.size_erase_le _ _
  · exact Nat.le_refl _

/-- A completion callback stops where recording the outcome raises, or it files the outcome and takes
its own entry out. -/
inductive Reported (service : JobSubmissionService) (task : Nat) (row : JobTask)
    (host : CompletionHost) (outcome : TaskOutcome) : JobSubmissionService → Prop where
  | raised
      (raises : recordOutcome service.results host row.jobId (service.outcomeOwner row.jobId)
        outcome = none) :
      Reported service task row host outcome
        { service with tasks := service.tasks.set task { row with reported := true } }
  | recorded {results : Option JobResultStore}
      (records : recordOutcome service.results host row.jobId (service.outcomeOwner row.jobId)
        outcome = some results) :
      Reported service task row host outcome
        { service with
          tasks := service.tasks.set task { row with reported := true }
          results := results
          active := withoutTask service.active task row.jobId }

/-- The callback files the outcome for the owner it finds, whatever that is. -/
theorem reported_jobCompleted (service : JobSubmissionService) (task : Nat) (row : JobTask)
    (host : CompletionHost) (outcome : TaskOutcome) :
    Reported service task row host outcome
      (jobCompleted
        { service with tasks := service.tasks.set task { row with reported := true } } host task
        row.jobId outcome) := by
  cases entry : service.active.get? row.jobId with
  | none =>
    have owner : service.outcomeOwner row.jobId = anonymousOwner := by
      rw [outcomeOwner, entry]
    have same : withoutTask service.active task row.jobId = service.active := by
      rw [withoutTask, entry]
      rfl
    cases records : recordOutcome service.results host row.jobId anonymousOwner outcome with
    | none =>
      simp only [jobCompleted, entry, records]
      exact .raised (owner ▸ records)
    | some results =>
      simp only [jobCompleted, entry, records]
      have reported : Reported service task row host outcome _ := .recorded (owner ▸ records)
      rwa [same] at reported
  | some active =>
    have owner : service.outcomeOwner row.jobId = active.owner := by
      rw [outcomeOwner, entry]
    have less : withoutTask service.active task row.jobId =
        if active.task = task then service.active.erase row.jobId else service.active := by
      simp only [withoutTask, entry, Option.any_some, decide_eq_true_eq]
    cases records : recordOutcome service.results host row.jobId active.owner outcome with
    | none =>
      simp only [jobCompleted, entry, records]
      exact .raised (owner ▸ records)
    | some results =>
      simp only [jobCompleted, entry, records]
      have reported : Reported service task row host outcome _ := .recorded (owner ▸ records)
      rw [less] at reported
      split at reported
      · rename_i own
        rwa [if_pos own]
      · rename_i foreign
        rwa [if_neg foreign]

/-- A completion runs once, of a task that has ended. -/
theorem step_completed {host : CompletionHost}
    (steps : step service (.completed task host) = some next) :
    ∃ row outcome, service.tasks[task]? = some row ∧ row.outcome = some outcome ∧
      Reported service task row host outcome next := by
  simp only [step] at steps
  split at steps
  · rename_i row found
    split at steps
    · rename_i outcome settled unreported
      refine ⟨row, outcome, found, settled, ?_⟩
      obtain rfl := Option.some.inj steps
      exact reported_jobCompleted service task row host outcome
    · cases steps
  · cases steps

namespace Reported

variable {service next : JobSubmissionService} {task : Nat} {row : JobTask} {host : CompletionHost}
  {outcome : TaskOutcome}

theorem tasks_eq (reported : Reported service task row host outcome next) :
    next.tasks = service.tasks.set task { row with reported := true } := by
  cases reported <;> rfl

theorem maxActiveJobs_eq (reported : Reported service task row host outcome next) :
    next.maxActiveJobs = service.maxActiveJobs := by
  cases reported <;> rfl

/-- No entry is new. -/
theorem get?_active (reported : Reported service task row host outcome next) (id : String)
    (entry : ActiveJob) (found : next.active.get? id = some entry) :
    service.active.get? id = some entry := by
  cases reported with
  | raised => exact found
  | recorded => exact get?_of_get?_withoutTask found

theorem size_active_le (reported : Reported service task row host outcome next) :
    next.active.size ≤ service.active.size := by
  cases reported with
  | raised => exact Nat.le_refl _
  | recorded => exact size_withoutTask_le _ _ _

end Reported

/-- A task ends once. -/
theorem step_settle {outcome : TaskOutcome}
    (steps : step service (.settle task outcome) = some next) :
    ∃ row, service.tasks[task]? = some row ∧ row.outcome = none ∧
      next =
        { service with tasks := service.tasks.set task { row with outcome := some outcome } } := by
  simp only [step] at steps
  split at steps
  · rename_i row found
    split at steps
    · rename_i running
      exact ⟨row, found, running, (Option.some.inj steps).symm⟩
    · cases steps
  · cases steps

end JobSubmissionService

end Omnitensor
