/-
This file is about jobs whose submitters cancelled them while they were queued.

The plugin pool drops a cancelled waiter when it is chosen. The scheduler does not look:
its worker takes the next job of its lane whether or not the job's future is still
pending, so a cancelled job occupies the device like any other. A withdrawn job stays
off the executors as long as it waits behind a pending job of its own workload, and leaves
with its lane, by removal, stop or degradation, before it comes to the front.
-/

import Omnitensor.SchedulerConservation

namespace Omnitensor

namespace Scheduler

variable {Result : Type} {scheduler : Scheduler Result}

/-- No job that its submitter cancelled while it was queued was handed to an executor. -/
def KeepsWithdrawn (scheduler : Scheduler Result) : Prop :=
  ∀ (job : Nat) (row : Job Result), scheduler.jobs[job]? = some row →
    row.withdrawal = .whileQueued → job ∉ scheduler.handed

/-- The job at the front of a line, if any, has a pending future. -/
def frontPending (scheduler : Scheduler Result) (line : List Nat) : Bool :=
  line.head?.all fun job => (scheduler.jobs[job]?).all fun row => !row.future.isDone

/-- When a worker takes a job from its lane in this step, the line of every workload that it may
serve has a pending job at its front. -/
def frontsPending (scheduler : Scheduler Result) (action : Action Result) : Bool :=
  match scheduler.turn action with
  | some (index, .answer _ admits) => (scheduler.lane index).items.entries.all fun line =>
      !admitted admits line.1 || scheduler.frontPending line.2
  | _ => true

/-- The worker hands a job to the executor after its submitter cancelled it in the queue. -/
theorem not_keepsWithdrawn :
    ¬ ∀ (depth : QueueDepth) (executors : Dict String Nat) (actions : List (Action Nat))
      (final : Scheduler Nat),
      Machine.run step (create depth executors) actions = some final → KeepsWithdrawn final := by
  intro keeps
  have outcome : (Machine.run step (create ⟨5, by decide⟩ ⟨[("tpu", 0)], by decide⟩)
      ([.start, .submit "tpu" "alpha", .cancelFuture 0,
        .resume 0 (.answer (fun _ => .integer 1) none)] : List (Action Nat))).map (fun final =>
          (final.jobs, final.handed)) =
        some ([⟨"alpha", .cancelled, 0, .whileQueued⟩], [0]) := by decide +kernel
  obtain ⟨final, runs, both⟩ := Option.map_eq_some_iff.mp outcome
  obtain ⟨jobs, handed⟩ := Prod.mk.inj both
  refine keeps _ _ _ final runs 0 ⟨"alpha", .cancelled, 0, .whileQueued⟩ ?_ rfl ?_
  · rw [jobs]
    rfl
  · rw [handed]
    exact List.mem_cons_self

/-- A job withdrawn from a queue has a done future and was not handed out. -/
def Spared (scheduler : Scheduler Result) : Prop :=
  ∀ (job : Nat) (row : Job Result), scheduler.jobs[job]? = some row →
    row.withdrawal = .whileQueued → job ∉ scheduler.handed ∧ row.future ≠ .pending

theorem Spared.of_carries {after : Scheduler Result} (spared : Spared scheduler)
    (carries : Carries scheduler after) : Spared after := by
  intro job row found withdrawn
  rcases carries.jobs job row found with kept | ⟨old, stored, same, done⟩
  · rw [kept] at withdrawn
    cases withdrawn
  · obtain ⟨absent, settled⟩ := spared job old stored (same.trans withdrawn)
    exact ⟨carries.handed ▸ absent, done settled⟩

/-- A pending job that no worker holds was not handed out. -/
theorem Sound.not_handed (sound : Sound scheduler) {job : Nat} {row : Job Result}
    (stored : scheduler.jobs[job]? = some row) (pending : row.future = .pending)
    (free : job ∉ scheduler.tasks.flatMap Worker.held) : job ∉ scheduler.handed := by
  intro member
  have placed := sound.ledger.placed job row stored pending
  have queued := (List.mem_append.mp placed).resolve_right free
  exact (sound.ledger.handedLeft job member).2 queued

theorem spared_cancelFuture (sound : Sound scheduler) (spared : Spared scheduler) {index : Nat}
    {job : Job Result} (stored : scheduler.jobs[index]? = some job) :
    Spared (scheduler.cancelFuture index job) := by
  unfold cancelFuture
  split
  · rename_i pending
    intro other row found withdrawn
    dsimp only at found
    rw [Table.getElem?_set stored] at found
    split at found
    · rename_i same
      cases found
      refine ⟨?_, FutureState.cancelled_ne_pending⟩
      rw [same]
      refine sound.not_handed stored pending fun held => ?_
      simp [held] at withdrawn
    · exact spared other row found withdrawn
  · exact spared

variable {action : Action Result} {index job : Nat} {row : Job Result}
  {weightOf : String → WeightValue} {admits : Option (String → Bool)}

/-- What a worker takes stands at the front of a line that it may serve. -/
theorem pending_of_head
    (fronts : ∀ line ∈ (scheduler.lane index).items.entries, admitted admits line.1 = true →
      scheduler.frontPending line.2 = true)
    (head : scheduler.head index (.answer weightOf admits) = some job)
    (stored : scheduler.jobs[job]? = some row) : row.future = .pending := by
  simp only [Scheduler.head] at head
  split at head
  · cases head
  · rename_i _ advanced chooses
    obtain ⟨chosen, least, pair⟩ := Option.map_eq_some_iff.mp chooses
    obtain ⟨same, _⟩ := Prod.mk.inj pair
    subst same
    have accepted := (List.mem_filter.mp (List.argmin_mem least)).2
    rw [Bool.and_eq_true] at accepted
    obtain ⟨line, found⟩ : ∃ line, (scheduler.lane index).items.get? chosen = some line := by
      refine Option.ne_none_iff_exists'.mp fun absent => ?_
      rw [StrideQueue.waiting, absent] at head
      cases head
    rw [StrideQueue.waiting, found, Option.getD_some] at head
    have front := fronts (chosen, line) (Dict.get?_eq_some_iff.mp found) accepted.2
    simp only [frontPending, head, stored, Option.all_some, Bool.not_eq_true'] at front
    cases future : row.future with
    | pending => rfl
    | _ =>
      rw [future] at front
      cases front

theorem pending_of_served (fronts : scheduler.frontsPending action = true)
    (head : scheduler.served action = some job) (stored : scheduler.jobs[job]? = some row) :
    row.future = .pending := by
  obtain ⟨⟨index, callbacks⟩, turn, head⟩ := Option.bind_eq_some_iff.mp head
  rw [frontsPending, turn] at fronts
  cases callbacks with
  | raiseCancelled passes => cases head
  | raiseError error passes => cases head
  | answer weightOf admits =>
    refine pending_of_head (fun line member may => ?_) head stored
    simpa only [may, Bool.not_true, Bool.false_or] using List.all_eq_true.mp fronts line member

/-- A worker that may serve one line alone takes what is at its front. -/
theorem head_of_alone {key : String} (weightOf : String → WeightValue)
    (consistent : (scheduler.lane index).Consistent) (queued : key ∈ (scheduler.lane index).order) :
    scheduler.head index (.answer weightOf (some fun other => decide (other = key))) =
      ((scheduler.lane index).waiting key).head? := by
  have pending : key ∈ (scheduler.lane index).pending (some fun other => decide (other = key)) :=
    List.mem_filter.mpr ⟨queued, by
      simpa [admitted] using (StrideQueue.Consistent.mem_order_iff consistent).mp queued⟩
  simp only [Scheduler.head, StrideQueue.choose]
  split
  · rename_i none
    rw [Option.map_eq_none_iff, List.argmin_eq_none] at none
    rw [none] at pending
    cases pending
  · rename_i chosen _ chooses
    obtain ⟨least, found, pair⟩ := Option.map_eq_some_iff.mp chooses
    have alone := (List.mem_filter.mp (List.argmin_mem found)).2
    rw [Bool.and_eq_true, admitted, decide_eq_true_eq] at alone
    rw [← (Prod.mk.inj pair).1, alone.2]

/-- The fronts are pending exactly if the worker takes no job that is done, whichever of the workloads that
the admission callback admits it had admitted alone or together. -/
theorem frontsPending_iff (consistent : (scheduler.lane index).Consistent)
    (turn : scheduler.turn action = some (index, .answer weightOf admits)) :
    scheduler.frontsPending action = true ↔ ∀ fewer : Option (String → Bool),
      (∀ key, admitted fewer key = true → admitted admits key = true) → ∀ job row,
        scheduler.head index (.answer weightOf fewer) = some job →
          scheduler.jobs[job]? = some row → row.future = .pending := by
  rw [frontsPending, turn, List.all_eq_true]
  constructor
  · intro fronts fewer among job row head stored
    refine pending_of_head (fun line member may => ?_) head stored
    simpa only [among _ may, Bool.not_true, Bool.false_or] using fronts line member
  · intro takes line member
    rw [Bool.or_eq_true, Bool.not_eq_true', or_iff_not_imp_left, Bool.not_eq_false]
    intro may
    have found := Dict.get?_of_mem_entries member
    have queued : line.1 ∈ (scheduler.lane index).order :=
      consistent.itemKeys ▸ Dict.mem_keys_of_get? found
    rw [frontPending, Option.all_eq_true]
    intro job front
    rw [Option.all_eq_true]
    intro row stored
    rw [takes (some fun other => decide (other = line.1)) ?_ job row ?_ stored]
    · rfl
    · intro key same
      rwa [of_decide_eq_true same]
    · rw [head_of_alone weightOf consistent queued, StrideQueue.waiting, found]
      exact front

/-- A step whose worker finds pending jobs at the fronts hands out no withdrawn one. -/
theorem spared_step {next : Scheduler Result} (sound : Sound scheduler)
    (spared : Spared scheduler) (fronts : scheduler.frontsPending action = true)
    (steps : scheduler.step action = some next) : Spared next := by
  cases history_step sound steps with
  | carries carries => exact spared.of_carries carries
  | withdraws index job _ stored result =>
    rw [result]
    exact spared_cancelFuture sound spared stored
  | hands job middle carries head jobs handed =>
    intro other row found withdrawn
    rw [jobs] at found
    obtain ⟨absent, settled⟩ := spared.of_carries carries other row found withdrawn
    refine ⟨?_, settled⟩
    rw [handed, List.mem_append, List.mem_singleton, not_or]
    refine ⟨absent, ?_⟩
    rintro rfl
    rcases carries.jobs other row found with kept | ⟨old, stored, same, _⟩
    · rw [kept] at withdrawn
      cases withdrawn
    · exact (spared other old stored (same.trans withdrawn)).2 (pending_of_served fronts head stored)

/-- In every run whose workers find pending jobs at the fronts of the lines they may serve, no job
withdrawn from a queue is handed to an executor. -/
theorem keepsWithdrawn_of_frontsPending (depth : QueueDepth) (executors : Dict String Nat)
    (actions : List (Action Result)) (final : Scheduler Result)
    (runs : Machine.run step (create depth executors) actions = some final)
    (fronts : Machine.Throughout step (fun state action => state.frontsPending action = true)
      (create depth executors) actions) :
    KeepsWithdrawn final := by
  have kept := Machine.invariant_run_throughout
    (fun state => Accounted state ∧ Spared state)
    (fun state action next invariant allowed steps =>
      ⟨accounted_step invariant.1 steps,
        spared_step invariant.1.sound invariant.2 allowed steps⟩)
    ⟨accounted_create depth executors, fun job row found => by cases found⟩ fronts runs
  exact fun job row found withdrawn => (kept.2 job row found withdrawn).1

/-- A job is cancelled behind another of its workload. The worker serves that one, and then the
lane is dropped with its backend. -/
theorem keepsWithdrawn_of_frontsPending_dropped :
    let callbacks : PopCallbacks := .answer (fun _ => .integer 1) none
    let actions : List (Action Nat) :=
      [.start, .submit "tpu" "alpha", .submit "tpu" "alpha", .submit "tpu" "beta", .cancelFuture 1,
        .resume 0 callbacks, .updateExecutors Dict.empty, .resume 0 callbacks]
    ∃ final, Machine.run step (create ⟨5, by decide⟩ ⟨[("tpu", 0)], by decide⟩) actions =
        some final ∧
      final.jobs.map Job.withdrawal = [.kept, .whileQueued, .kept] ∧ final.handed = [0] ∧
        KeepsWithdrawn final := by
  intro callbacks actions
  have outcome : (Machine.run step (create ⟨5, by decide⟩ ⟨[("tpu", 0)], by decide⟩) actions).map
      (fun final => (final.jobs.map Job.withdrawal, final.handed)) =
        some ([.kept, .whileQueued, .kept], [0]) := by decide +kernel
  obtain ⟨final, runs, both⟩ := Option.map_eq_some_iff.mp outcome
  obtain ⟨withdrawn, handed⟩ := Prod.mk.inj both
  exact ⟨final, runs, withdrawn, handed,
    keepsWithdrawn_of_frontsPending _ _ actions final runs (by decide +kernel)⟩

end Scheduler

end Omnitensor
