/-
This file proves what a caller can learn of the jobs of other callers, and that a result is final.

A job is known in two places, the active table and the store, and each place names the owner it
answers to. As long as both name the owner who submitted the job, a foreign job is answered as
one that never existed, whatever other callers do; so two runs cannot be told apart by asking for
foreign jobs. One step can name another owner: the completion of a task without an entry in the
active table is filed for the anonymous owner.
-/

import Omnitensor.JobCapacity

namespace Omnitensor

/-! ### Records that stay -/

namespace JobResultStore

variable {store : JobResultStore}

theorem evict_of_size_le (small : store.records.size ≤ store.maxRetainedJobs) :
    store.evict = store := by
  rw [evict, Nat.sub_eq_zero_of_le small, Dict.drop_zero]

/-- The store has a record that is young enough at a later time. -/
structure Holds (store : JobResultStore) (later : Rat) (jobId owner : String)
    (record : JobRecord) : Prop where
  found : store.records.get? jobId = some (owner, record)
  fresh : store.fresh later record = true

namespace Holds

variable {store recorded : JobResultStore} {later now : Rat} {jobId owner other otherOwner : String}
  {record : JobRecord}

theorem expire (holds : store.Holds later jobId owner record) (early : now ≤ later) :
    (store.expire now).Holds later jobId owner record where
  found := by
    refine Dict.get?_filter_of_accept.mpr ⟨holds.found, decide_eq_true ?_⟩
    have young : later - store.resultTtl ≤ record.updatedAt := of_decide_eq_true holds.fresh
    exact le_trans (sub_le_sub_right early store.resultTtl) young
  fresh := holds.fresh

/-- With room for one more, filing the record of another job drops nothing. -/
theorem stored (holds : store.Holds later jobId owner record) (early : now ≤ later)
    (room : store.records.size < store.maxRetainedJobs) (different : jobId ≠ other)
    (new : JobRecord) :
    (store.store now other otherOwner new).Holds later jobId owner record where
  found := by
    have small : ((((store.expire now).records.erase other).set other
        (otherOwner, new)).size) ≤ store.maxRetainedJobs := by
      have fewer : (store.expire now).records.size ≤ store.records.size :=
        List.length_filter_le _ _
      have erased := Dict.size_erase_le (store.expire now).records other
      rw [Dict.size_set]
      split <;> omega
    rw [JobResultStore.store, evict_of_size_le small, Dict.get?_set, if_neg different,
      Dict.get?_erase, if_neg different]
    exact (holds.expire early).found
  fresh := holds.fresh

/-- A terminal record stays, whoever reports progress of whatever job. -/
theorem recordProgress (holds : store.Holds later jobId owner record) (final : record.terminal)
    (early : now ≤ later) (room : store.records.size < store.maxRetainedJobs)
    {progress : JobProgress}
    (records : store.recordProgress now other otherOwner progress = some recorded) :
    recorded.Holds later jobId owner record := by
  unfold JobResultStore.recordProgress at records
  split at records
  · cases records
  split at records
  · rename_i stored existing found
    split at records
    · cases records
      exact holds
    · rename_i running
      cases records
      refine holds.stored early room ?_ _
      rintro rfl
      rw [holds.found] at found
      cases found
      exact running final
  · rename_i unknown
    cases records
    refine holds.stored early room ?_ _
    rintro rfl
    rw [holds.found] at unknown
    cases unknown

theorem recordResult (holds : store.Holds later jobId owner record) (early : now ≤ later)
    (room : store.records.size < store.maxRetainedJobs) (different : jobId ≠ other)
    {result : JobResult} (records : store.recordResult now other otherOwner result = some recorded) :
    recorded.Holds later jobId owner record := by
  unfold JobResultStore.recordResult at records
  split at records
  · cases records
  · cases records
    exact holds.stored early room different _

theorem get (holds : store.Holds later jobId owner record) (early : now ≤ later) :
    (store.get now other otherOwner).1.Holds later jobId owner record := by
  unfold JobResultStore.get
  split
  · exact holds
  · dsimp only
    split <;> exact holds.expire early

end Holds

/-- What a reader gets is held. -/
theorem holds_of_get {now : Rat} {jobId owner : String} {record : JobRecord}
    (reads : (store.get now jobId owner).2 = some record) : store.Holds now jobId owner record := by
  unfold JobResultStore.get at reads
  split at reads
  · cases reads
  · dsimp only at reads
    split at reads
    · rename_i stored kept found
      split at reads
      · rename_i own
        cases reads
        obtain ⟨there, young⟩ := Dict.get?_filter_of_accept.mp found
        exact ⟨own ▸ there, young⟩
      · cases reads
    · cases reads

/-- A reader gets what is held for it. -/
theorem Holds.reads {now : Rat} {jobId owner : String} {record : JobRecord}
    (holds : store.Holds now jobId owner record) (valid : validates jobId owner = true) :
    (store.get now jobId owner).2 = some record := by
  have kept := (holds.expire (le_refl now)).found
  simp only [JobResultStore.get, valid, Bool.not_true, Bool.false_eq_true, if_false, kept, if_true]

end JobResultStore

namespace JobSubmissionService

/-! ### Who a job belongs to -/

/-- An owner submitted a job of this id, and it began. -/
def SubmittedBy (service : JobSubmissionService) (owner jobId : String) : Prop :=
  ∃ row ∈ service.tasks, row.jobId = jobId ∧ row.owner = owner

instance (service : JobSubmissionService) (owner jobId : String) :
    Decidable (service.SubmittedBy owner jobId) :=
  inferInstanceAs (Decidable (∃ row ∈ _, _))

variable {service : JobSubmissionService}

theorem SubmittedBy.of_keeps {next : JobSubmissionService} {owner jobId : String}
    (submitted : service.SubmittedBy owner jobId) (keeps : KeepsTasks service.tasks next.tasks) :
    next.SubmittedBy owner jobId := by
  obtain ⟨row, member, rfl, rfl⟩ := submitted
  obtain ⟨task, found⟩ := List.mem_iff_getElem?.mp member
  obtain ⟨kept, keptFound, sameJobId, sameOwner⟩ := keeps task row found
  exact ⟨kept, List.mem_iff_getElem?.mpr ⟨task, keptFound⟩, sameJobId, sameOwner⟩

theorem Registered.submittedBy {maxActiveJobs : Nat} (registered : Registered maxActiveJobs service)
    {id : String} {entry : ActiveJob} (found : service.active.get? id = some entry) :
    service.SubmittedBy entry.owner id := by
  obtain ⟨row, rowFound, jobId, owner⟩ := registered.coherent id entry found
  exact ⟨row, List.mem_iff_getElem?.mpr ⟨entry.task, rowFound⟩, jobId, owner⟩

/-- What a completion must meet not to be filed for a caller it does not belong to: the caller is
not the anonymous one, or submitted the job, or the job is still in the active table. -/
def attributes (caller : String) (service : JobSubmissionService) : Action → Bool
  | .completed task _ =>
    service.tasks[task]?.all fun row =>
      decide (caller ≠ anonymousOwner) || decide (row.owner = caller) ||
        service.active.contains row.jobId
  | _ => true

/-- What is stored for a caller was submitted by that caller. -/
def Attributed (caller : String) (service : JobSubmissionService) : Prop :=
  ∀ store, service.results = some store → ∀ id record,
    store.records.get? id = some (caller, record) → service.SubmittedBy caller id

namespace Attributed

variable {caller : String} {service next : JobSubmissionService}

theorem of_adds (attributed : Attributed caller service) {allowed : String → String → Prop}
    (adds : Adds service.results next.results allowed)
    (keeps : KeepsTasks service.tasks next.tasks)
    (mine : ∀ id, allowed id caller → next.SubmittedBy caller id) : Attributed caller next := by
  intro store wired id record found
  obtain ⟨held, heldWired, kept⟩ := adds store wired
  rcases kept id (caller, record) found with old | permitted
  · exact (attributed held heldWired id record old).of_keeps keeps
  · exact mine id permitted

/-- What leaves the store alone and keeps the tasks files nothing for a caller. -/
theorem of_results_eq (attributed : Attributed caller service)
    (results : next.results = service.results) (keeps : KeepsTasks service.tasks next.tasks) :
    Attributed caller next := by
  have adds : Adds service.results next.results fun _ _ => False := by
    rw [results]
    exact Adds.refl _ _
  exact attributed.of_adds adds keeps fun _ impossible => impossible.elim

theorem submitted (attributed : Attributed caller service) {submission : Submission}
    (submits : Submitted service submission next) : Attributed caller next := by
  -- The new record, if there is one, is filed for the owner of the new task.
  have fresh : ∀ {jobId : String} {results : Option JobResultStore} {tasks : List JobTask},
      Noted submission.now jobId submission.owner service.results results →
      SameTasks (service.tasks ++ [freshTask jobId submission.owner]) tasks →
      ∀ active, Attributed caller
        { service with active := active, results := results, tasks := tasks } := by
    intro jobId results tasks noted same active
    refine attributed.of_adds noted.adds ((keepsTasks_append _ _).trans same.keeps) ?_
    rintro id ⟨rfl, rfl⟩
    obtain ⟨row, rowFound, identical⟩ :=
      (same service.tasks.length).1 _ List.getElem?_concat_length
    exact ⟨row, List.mem_iff_getElem?.mpr ⟨_, rowFound⟩, identical.jobId, identical.owner⟩
  cases submits with
  | unchanged => exact attributed
  | begun _ _ _ noted same => exact fresh noted same _
  | abandoned _ noted same => exact fresh noted same service.active

theorem completed {maxActiveJobs : Nat} (attributed : Attributed caller service)
    (registered : Registered maxActiveJobs service) {task : Nat} {host : CompletionHost}
    (allowed : attributes caller service (.completed task host) = true)
    (steps : JobSubmissionService.step service (.completed task host) = some next) :
    Attributed caller next := by
  obtain ⟨row, outcome, found, _, reported⟩ := step_completed steps
  have keeps : KeepsTasks service.tasks (service.tasks.set task { row with reported := true }) :=
    keepsTasks_set found rfl rfl
  cases reported with
  | raised => exact attributed.of_results_eq rfl keeps
  | recorded records =>
    refine attributed.of_adds (adds_recordOutcome records) keeps ?_
    rintro id ⟨rfl, mine⟩
    cases entry : service.active.get? row.jobId with
    | some active =>
      rw [outcomeOwner, entry] at mine
      exact (mine ▸ registered.submittedBy entry : service.SubmittedBy caller row.jobId).of_keeps
        keeps
    | none =>
      rw [outcomeOwner, entry] at mine
      -- Filed for the anonymous owner: the condition leaves that the task is the caller's own.
      have absent : ¬ service.active.contains row.jobId = true := by
        rw [Dict.contains_iff]
        exact Dict.get?_eq_none_iff.mp entry
      simp only [attributes, found, Option.all_some, Bool.or_eq_true, decide_eq_true_eq] at allowed
      have own : row.owner = caller :=
        (allowed.resolve_right absent).resolve_left fun other => other mine
      have submitted : service.SubmittedBy caller row.jobId :=
        ⟨row, List.mem_iff_getElem?.mpr ⟨task, found⟩, rfl, own⟩
      exact submitted.of_keeps keeps

theorem step {maxActiveJobs : Nat} (attributed : Attributed caller service)
    (registered : Registered maxActiveJobs service) {action : Action}
    (allowed : attributes caller service action = true)
    (steps : JobSubmissionService.step service action = some next) : Attributed caller next := by
  cases action with
  | submit submission =>
    obtain rfl := Option.some.inj steps
    exact attributed.submitted (submitted_submit service submission)
  | cancel cancellation =>
    obtain rfl := Option.some.inj steps
    obtain ⟨tasks, same, keeps⟩ := cancel_eq service cancellation
    rw [same]
    exact attributed.of_results_eq rfl keeps.keeps
  | result publishable request =>
    obtain rfl := Option.some.inj steps
    obtain ⟨results, same, looked⟩ := jobResult_eq publishable service request
    rw [same]
    exact attributed.of_adds (looked.adds fun _ _ => False) (SameTasks.refl _).keeps
      fun _ impossible => impossible.elim
  | progress now timestamp jobId stage fraction detail =>
    obtain rfl := Option.some.inj steps
    obtain ⟨results, same, rfl | ⟨active, entry, noted⟩⟩ :=
      noteProgress_eq service now timestamp jobId stage fraction detail
    · rw [same]
      exact attributed
    · rw [same]
      refine attributed.of_adds noted.adds (SameTasks.refl _).keeps ?_
      rintro id ⟨rfl, rfl⟩
      exact registered.submittedBy entry
  | settle task outcome =>
    obtain ⟨row, found, _, rfl⟩ := step_settle steps
    exact attributed.of_results_eq rfl (keepsTasks_set found rfl rfl)
  | completed task host => exact attributed.completed registered allowed steps
  | start =>
    obtain rfl := Option.some.inj steps
    exact attributed
  | stop =>
    obtain rfl := Option.some.inj steps
    exact attributed.of_results_eq rfl (sameTasks_foldl_cancelTask _ _).keeps

end Attributed

/-! ### Replies about foreign jobs -/

section

variable {caller : String} {maxActiveJobs : Nat} {service : JobSubmissionService}

/-- The store answers first, and the active table where it does not. -/
theorem lookup_snd (service : JobSubmissionService) (now : Rat) (jobId owner : String) :
    (service.lookup now jobId owner).2 =
      if jobId = "" then none
      else
        (service.results.bind fun store => (store.get now jobId owner).2).or
          ((service.active.get? jobId).bind fun active =>
            if active.owner ≠ owner then none else some ⟨jobId, none, none, 0⟩) := by
  unfold lookup
  split
  · rfl
  cases service.results with
  | none =>
    cases service.active.get? jobId with
    | none => rfl
    | some active =>
      simp only [Option.bind_none, Option.none_or, Option.bind_some]
      split <;> rfl
  | some store =>
    cases reads : (store.get now jobId owner).2 with
    | none =>
      simp only [Option.bind_some, reads, Option.none_or]
      cases service.active.get? jobId with
      | none => rfl
      | some active =>
        simp only [Option.bind_some]
        split <;> rfl
    | some record => simp only [Option.bind_some, reads, Option.some_or]

variable {jobId owner : String}

/-- Nothing is known, for a caller, of a job it did not submit. -/
theorem lookup_of_foreign (attributed : Attributed caller service)
    (registered : Registered maxActiveJobs service) (foreign : ¬ service.SubmittedBy caller jobId)
    (now : Rat) : (service.lookup now jobId caller).2 = none := by
  have unfiled : (service.results.bind fun store => (store.get now jobId caller).2) = none := by
    refine Option.bind_eq_none_iff.mpr fun store wired => ?_
    refine Option.eq_none_iff_forall_ne_some.mpr fun record reads => foreign ?_
    exact attributed store wired jobId record (JobResultStore.holds_of_get reads).found
  have inactive : ((service.active.get? jobId).bind fun active =>
      if active.owner ≠ caller then none else some (⟨jobId, none, none, 0⟩ : JobRecord)) = none := by
    refine Option.bind_eq_none_iff.mpr fun active found => if_pos ?_
    rintro rfl
    exact foreign (registered.submittedBy found)
  rw [lookup_snd, unfiled, inactive]
  exact ite_self none

/-- A reply is made from what is known alone. -/
theorem jobResult_congr {first second : JobSubmissionService} {request : ResultRequest}
    (known : (first.lookup request.now request.jobId request.owner).2 =
      (second.lookup request.now request.jobId request.owner).2)
    (publishable : JobResultReply → Bool) :
    (first.jobResult publishable request).2 = (second.jobResult publishable request).2 := by
  unfold jobResult
  dsimp only
  cases request.malformed with
  | some error => rfl
  | none =>
    generalize first.lookup request.now request.jobId request.owner = firstLooked at known ⊢
    generalize second.lookup request.now request.jobId request.owner = secondLooked at known ⊢
    obtain ⟨left, record⟩ := firstLooked
    obtain ⟨right, same⟩ := secondLooked
    obtain rfl : record = same := known
    cases record with
    | none => rfl
    | some record =>
      dsimp only
      split <;> rfl

/-- A cancellation of a job the caller did not submit is answered as in a service without
jobs. -/
theorem cancel_of_foreign (registered : Registered maxActiveJobs service)
    {cancellation : Cancellation} (mine : cancellation.owner = caller)
    (foreign : ¬ service.SubmittedBy caller cancellation.jobId) :
    (service.cancel cancellation).2 = ((initial 0 none).cancel cancellation).2 := by
  have empty : (initial 0 none).active.get? cancellation.jobId = none := rfl
  unfold cancel
  cases cancellation.malformed with
  | some error => rfl
  | none =>
    dsimp only
    rw [empty]
    cases found : service.active.get? cancellation.jobId with
    | none => rfl
    | some active =>
      have other : active.owner ≠ cancellation.owner := by
        intro own
        rw [mine] at own
        exact foreign (own ▸ registered.submittedBy found)
      dsimp only
      rw [if_pos other]

/-! ### Results that are final -/

/-- The store has a terminal record that is young enough at a later time. -/
def Holds (service : JobSubmissionService) (later : Rat) (jobId owner : String)
    (record : JobRecord) : Prop :=
  ∃ store, service.results = some store ∧ store.Holds later jobId owner record

/-- The time at which an action looks at the store. -/
def Action.now : Action → Option Rat
  | .submit submission => some submission.now
  | .result _ request => some request.now
  | .progress now _ _ _ _ _ => some now
  | .completed _ host => some host.now
  | _ => none

/-- An action that is no completion of a job, is over at a later time, and finds room in the
store. -/
def spares (later : Rat) (jobId : String) (service : JobSubmissionService) (action : Action) :
    Bool :=
  (action.now.all fun now => decide (now ≤ later)) &&
    (service.results.all fun store => decide (store.records.size < store.maxRetainedJobs)) &&
      match action with
      | .completed task _ => service.tasks[task]?.all fun row => decide (row.jobId ≠ jobId)
      | _ => true

namespace Holds

variable {service next : JobSubmissionService} {later now : Rat} {jobId owner : String}
  {record : JobRecord}

variable {other otherOwner : String} {results : Option JobResultStore}

theorem noted (holds : service.Holds later jobId owner record) (final : record.terminal)
    (early : now ≤ later)
    (room : ∀ store, service.results = some store → store.records.size < store.maxRetainedJobs)
    (noted : Noted now other otherOwner service.results results) :
    ∃ store, results = some store ∧ store.Holds later jobId owner record := by
  obtain ⟨store, wired, held⟩ := holds
  obtain rfl | ⟨same, recorded, progress, sameWired, records, rfl⟩ := noted
  · exact ⟨store, wired, held⟩
  · obtain rfl := Option.some.inj (wired.symm.trans sameWired)
    exact ⟨recorded, rfl, held.recordProgress final early (room store wired) records⟩

theorem recorded {host : CompletionHost} {outcome : TaskOutcome}
    (holds : service.Holds later jobId owner record) (early : host.now ≤ later)
    (room : ∀ store, service.results = some store → store.records.size < store.maxRetainedJobs)
    (different : jobId ≠ other)
    (records : recordOutcome service.results host other otherOwner outcome = some results) :
    ∃ store, results = some store ∧ store.Holds later jobId owner record := by
  obtain ⟨store, wired, held⟩ := holds
  rw [wired] at records
  unfold recordOutcome at records
  split at records
  · cases records
  split at records
  · cases records
  dsimp only at records
  split at records
  · cases records
  · obtain ⟨filed, files, rfl⟩ := Option.map_eq_some_iff.mp records
    exact ⟨filed, rfl, held.recordResult early (room store wired) different files⟩

theorem submitted {submission : Submission} (holds : service.Holds later jobId owner record)
    (final : record.terminal) (early : submission.now ≤ later)
    (room : ∀ store, service.results = some store → store.records.size < store.maxRetainedJobs)
    (submits : Submitted service submission next) : next.Holds later jobId owner record := by
  cases submits with
  | unchanged => exact holds
  | begun _ _ _ noted _ => exact holds.noted final early room noted
  | abandoned _ noted _ => exact holds.noted final early room noted

theorem step {action : Action} (holds : service.Holds later jobId owner record)
    (final : record.terminal) (spared : spares later jobId service action = true)
    (steps : JobSubmissionService.step service action = some next) :
    next.Holds later jobId owner record := by
  simp only [spares, Bool.and_eq_true, Option.all_eq_true, decide_eq_true_eq] at spared
  obtain ⟨⟨early, room⟩, others⟩ := spared
  cases action with
  | submit submission =>
    obtain rfl := Option.some.inj steps
    exact holds.submitted final (early _ rfl) room (submitted_submit service submission)
  | cancel cancellation =>
    obtain rfl := Option.some.inj steps
    obtain ⟨tasks, same, _⟩ := cancel_eq service cancellation
    rw [same]
    exact holds
  | result publishable request =>
    obtain rfl := Option.some.inj steps
    obtain ⟨results, same, looked⟩ := jobResult_eq publishable service request
    rw [same]
    obtain ⟨store, wired, held⟩ := holds
    obtain rfl | ⟨read, other, otherOwner, readWired, rfl⟩ := looked
    · exact ⟨store, wired, held⟩
    · obtain rfl := Option.some.inj (wired.symm.trans readWired)
      exact ⟨_, rfl, held.get (early _ rfl)⟩
  | progress now timestamp other stage fraction detail =>
    obtain rfl := Option.some.inj steps
    obtain ⟨results, same, rfl | ⟨active, _, noted⟩⟩ :=
      noteProgress_eq service now timestamp other stage fraction detail
    · rw [same]
      exact holds
    · rw [same]
      exact holds.noted final (early _ rfl) room noted
  | settle task outcome =>
    obtain ⟨row, _, _, rfl⟩ := step_settle steps
    exact holds
  | completed task host =>
    obtain ⟨row, outcome, found, _, reported⟩ := step_completed steps
    cases reported with
    | raised => exact holds
    | recorded records =>
      simp only [found, Option.all_some, decide_eq_true_eq] at others
      have different : jobId ≠ row.jobId := Ne.symm others
      exact holds.recorded (early _ rfl) room different records
  | start =>
    obtain rfl := Option.some.inj steps
    exact holds
  | stop =>
    obtain rfl := Option.some.inj steps
    exact holds

/-- What the store holds is known to the owner. -/
theorem known (holds : service.Holds now jobId owner record)
    (valid : JobResultStore.validates jobId owner = true) (named : jobId ≠ "") :
    (service.lookup now jobId owner).2 = some record := by
  obtain ⟨store, wired, held⟩ := holds
  rw [lookup_snd, if_neg named, wired, Option.bind_some, held.reads valid, Option.some_or]

end Holds

/-- A terminal record a reader gets is held by the store. -/
theorem holds_of_known {service : JobSubmissionService} {now : Rat} {record : JobRecord}
    (known : (service.lookup now jobId owner).2 = some record) (final : record.terminal) :
    service.Holds now jobId owner record ∧ JobResultStore.validates jobId owner = true ∧
      jobId ≠ "" := by
  rw [lookup_snd] at known
  split at known
  · cases known
  rename_i named
  cases reads : service.results.bind fun store => (store.get now jobId owner).2 with
  | none =>
    -- A job that is only active has no result.
    rw [reads, Option.none_or] at known
    obtain ⟨active, _, running⟩ := Option.bind_eq_some_iff.mp known
    split at running
    · cases running
    · cases running
      cases final
  | some kept =>
    rw [reads, Option.some_or] at known
    cases known
    obtain ⟨store, wired, gets⟩ := Option.bind_eq_some_iff.mp reads
    refine ⟨⟨store, wired, JobResultStore.holds_of_get gets⟩, ?_, named⟩
    unfold JobResultStore.get at gets
    split at gets
    · cases gets
    · rename_i valid
      simpa using valid

/-- A terminal record stays what its owner reads along a run that spares it. -/
theorem known_of_run {service final : JobSubmissionService} {later : Rat} {record : JobRecord}
    {actions : List Action} (known : (service.lookup later jobId owner).2 = some record)
    (terminal : record.terminal)
    (spared : Machine.Throughout step (fun before action => spares later jobId before action = true)
      service actions) (runs : Machine.run step service actions = some final) :
    (final.lookup later jobId owner).2 = some record := by
  obtain ⟨holds, valid, named⟩ := holds_of_known known terminal
  have kept := Machine.invariant_run_throughout
    (fun state => state.Holds later jobId owner record)
    (fun state action next held spare steps => held.step terminal spare steps) holds spared runs
  exact kept.known valid named

end

/-! ### Two runs -/

/-- The service with a store that holds nothing yet. -/
def opened (maxActiveJobs maxRetainedJobs : Nat) (resultTtl : Rat) : JobSubmissionService :=
  initial maxActiveJobs (some ⟨maxRetainedJobs, resultTtl, Dict.empty⟩)

/-- A run ends in the state, and none of its completions is filed for a caller it does not belong
to. -/
def AttributedRun (caller : String) (service : JobSubmissionService) : Prop :=
  ∃ maxActiveJobs maxRetainedJobs resultTtl actions,
    Machine.run step (opened maxActiveJobs maxRetainedJobs resultTtl) actions = some service ∧
      Machine.Throughout step (fun before action => attributes caller before action = true)
        (opened maxActiveJobs maxRetainedJobs resultTtl) actions

theorem attributed_of_run {caller : String} (reached : AttributedRun caller service) :
    ∃ maxActiveJobs, Registered maxActiveJobs service ∧ Attributed caller service := by
  obtain ⟨maxActiveJobs, maxRetainedJobs, resultTtl, actions, runs, throughout⟩ := reached
  refine ⟨maxActiveJobs, Machine.invariant_run_throughout
    (fun state => Registered maxActiveJobs state ∧ Attributed caller state) ?_
    ⟨registered_initial _ _, ?_⟩ throughout runs⟩
  · rintro state action next ⟨registered, attributed⟩ allowed steps
    exact ⟨registered.step steps, attributed.step registered allowed steps⟩
  · intro store wired id record found
    obtain rfl := Option.some.inj wired
    cases found

/-- Two runs answer a caller alike about jobs it did not submit, whatever the jobs of other callers
are in either. Along a run that spares it, a terminal record stays what its owner reads. -/
theorem foreign_unobservable {caller : String} {first second : JobSubmissionService}
    (firstReached : AttributedRun caller first) (secondReached : AttributedRun caller second) :
    (∀ (publishable : JobResultReply → Bool) (request : ResultRequest), request.owner = caller →
      ¬ first.SubmittedBy caller request.jobId → ¬ second.SubmittedBy caller request.jobId →
        (first.jobResult publishable request).2 = (second.jobResult publishable request).2) ∧
      (∀ cancellation : Cancellation, cancellation.owner = caller →
        ¬ first.SubmittedBy caller cancellation.jobId →
        ¬ second.SubmittedBy caller cancellation.jobId →
          (first.cancel cancellation).2 = (second.cancel cancellation).2) ∧
      ∀ (publishable : JobResultReply → Bool) (request : ResultRequest) (record : JobRecord)
        (actions : List Action) (final : JobSubmissionService),
        (first.lookup request.now request.jobId request.owner).2 = some record →
        record.terminal →
        Machine.Throughout step
          (fun before action => spares request.now request.jobId before action = true) first actions →
        Machine.run step first actions = some final →
          (final.jobResult publishable request).2 = (first.jobResult publishable request).2 := by
  obtain ⟨firstLimit, firstRegistered, firstAttributed⟩ := attributed_of_run firstReached
  obtain ⟨secondLimit, secondRegistered, secondAttributed⟩ := attributed_of_run secondReached
  refine ⟨fun publishable request mine firstForeign secondForeign => ?_,
    fun cancellation mine firstForeign secondForeign => ?_,
    fun publishable request record actions final known terminal spared runs => ?_⟩
  · refine jobResult_congr ?_ publishable
    rw [mine, lookup_of_foreign firstAttributed firstRegistered firstForeign,
      lookup_of_foreign secondAttributed secondRegistered secondForeign]
  · rw [cancel_of_foreign firstRegistered mine firstForeign,
      cancel_of_foreign secondRegistered mine secondForeign]
  · exact jobResult_congr ((known_of_run known terminal spared runs).trans known.symm) publishable

/-- A request for the result of a job. -/
def asking (jobId owner : String) : ResultRequest where
  malformed := none
  requestId := "request"
  jobId := jobId
  owner := owner
  timestamp := 3
  now := 2

/-- A cancellation that is authorized. -/
def cancelling (jobId owner : String) : Cancellation where
  malformed := none
  requestId := "request"
  jobId := jobId
  owner := owner
  authorized := .accepts
  timestamp := 3

/-- A job of one caller, from its submission to its end. -/
def hiddenActions : List Action :=
  [.submit (plainSubmission "hidden" "uid:7"), .progress 0 1 "hidden" "stage" (some (1 / 2)) "half",
    .settle 0 (.succeeded (.object "report")), .completed 0 plainHost]

/-- Late progress, a cancellation by its owner and a poll by a stranger. -/
def lateActions : List Action :=
  [.progress 1 2 "hidden" "stage" (some 1) "late", .cancel (cancelling "hidden" "uid:7"),
    .result (fun _ => true) (asking "hidden" anonymousOwner)]

/-- The anonymous caller is told the same in a service without jobs, and the owner reads the result
again. -/
theorem foreign_unobservable_hidden :
    ∃ first final, Machine.run step (opened 1 256 900) hiddenActions = some first ∧
      Machine.run step first lateActions = some final ∧
      (first.jobResult (fun _ => true) (asking "hidden" anonymousOwner)).2 =
        ((opened 1 256 900).jobResult (fun _ => true) (asking "hidden" anonymousOwner)).2 ∧
      (first.cancel (cancelling "hidden" anonymousOwner)).2 =
        ((opened 1 256 900).cancel (cancelling "hidden" anonymousOwner)).2 ∧
      (final.jobResult (fun _ => true) (asking "hidden" "uid:7")).2 =
        (first.jobResult (fun _ => true) (asking "hidden" "uid:7")).2 := by
  have outcome : ((Machine.run step (opened 1 256 900) hiddenActions).bind fun first =>
      (Machine.run step first lateActions).map fun _ =>
        (decide (first.SubmittedBy anonymousOwner "hidden"),
          (first.lookup 2 "hidden" "uid:7").2,
          decide (Machine.Throughout step
            (fun before action => spares 2 "hidden" before action = true) first lateActions))) =
      some (false,
        some ⟨"hidden", some ⟨"stage", 1 / 2, "half", 1⟩,
          some ⟨.succeeded, .object "report", "Job completed", 2⟩, 1⟩, true) := by decide +kernel
  have attributed : Machine.Throughout step
      (fun before action => attributes anonymousOwner before action = true) (opened 1 256 900)
      hiddenActions := by decide +kernel
  obtain ⟨first, runs, later⟩ := Option.bind_eq_some_iff.mp outcome
  obtain ⟨final, finishes, facts⟩ := Option.map_eq_some_iff.mp later
  simp only [Prod.mk.injEq, decide_eq_false_iff_not, decide_eq_true_eq] at facts
  obtain ⟨foreign, known, spared⟩ := facts
  have absent : ¬ (opened 1 256 900).SubmittedBy anonymousOwner "hidden" := by decide +kernel
  obtain ⟨results, cancels, stays⟩ := foreign_unobservable
    ⟨1, 256, 900, hiddenActions, runs, attributed⟩ ⟨1, 256, 900, [], rfl, trivial⟩
  exact ⟨first, final, runs, finishes,
    results _ (asking "hidden" anonymousOwner) rfl foreign absent,
    cancels (cancelling "hidden" anonymousOwner) rfl foreign absent,
    stays _ (asking "hidden" "uid:7") _ lateActions final known rfl spared finishes⟩

/-- A job of one caller begins, and its acceptance cannot be told; the task stops. -/
def abandonedActions : List Action :=
  [.submit { plainSubmission "hidden" "uid:7" with replyRaises := true }, .settle 0 .cancelled,
    .completed 0 plainHost]

/-- The anonymous caller is told of the job of someone else. -/
theorem not_foreign_unobservable :
    ¬ ∀ (caller : String) (maxActiveJobs maxRetainedJobs : Nat) (resultTtl : Rat)
      (firstActions secondActions : List Action) (first second : JobSubmissionService)
      (publishable : JobResultReply → Bool) (request : ResultRequest),
      Machine.run step (opened maxActiveJobs maxRetainedJobs resultTtl) firstActions = some first →
      Machine.run step (opened maxActiveJobs maxRetainedJobs resultTtl) secondActions =
        some second →
      request.owner = caller → ¬ first.SubmittedBy caller request.jobId →
      ¬ second.SubmittedBy caller request.jobId →
        (first.jobResult publishable request).2 = (second.jobResult publishable request).2 := by
  intro claim
  have outcome : (Machine.run step (opened 2 256 900) abandonedActions).map (fun first =>
      (decide (first.SubmittedBy anonymousOwner "hidden"),
        (first.jobResult (fun _ => true) (asking "hidden" anonymousOwner)).2.map fun reply =>
          reply.state)) =
      some (false, some "cancelled") := by decide +kernel
  obtain ⟨first, runs, both⟩ := Option.map_eq_some_iff.mp outcome
  obtain ⟨foreign, told⟩ := Prod.mk.inj both
  have same := claim anonymousOwner 2 256 900 abandonedActions [] first _ (fun _ => true)
    (asking "hidden" anonymousOwner) runs rfl rfl (of_decide_eq_false foreign)
    (by decide +kernel)
  rw [same] at told
  revert told
  decide +kernel

end JobSubmissionService

end Omnitensor
