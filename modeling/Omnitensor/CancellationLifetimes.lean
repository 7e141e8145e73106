/-
This file models process lifetimes over one journal of jobs in flight, and proves when the journal
tells the truth.

A process recovers before it tracks any job, then tracks, cancels and releases jobs, and crashes
between two operations. Every write may fail. Beside the file and the registry, a state remembers
which jobs are in flight with the cancellations that were asked for, whether the last write
succeeded, and what the next recovery owes.

The journal tells the truth unless clearing it fails while it holds jobs, because the copy of the
journal was emptied before, or a crash leaves a journal of more bytes than are read.
-/

import Omnitensor.CancellationRegistry
import Omnitensor.Machine

namespace Omnitensor

open JsonCancellationJournal JobCancellationRegistry

/-! ### Lifetimes -/

/-- How far a process is. -/
inductive LifetimeStage where
  /-- It has not recovered. -/
  | awaiting
  /-- Its last recovery raised. -/
  | refused
  | recovered
  | tracking
  deriving DecidableEq

/-- A job in flight, with every cancellation that was asked for since it is tracked. -/
structure JobInFlight where
  profile : String
  asked : List Cancellation
  deriving DecidableEq

namespace JobInFlight

/-- One more cancellation is asked for. -/
def ask (flight : JobInFlight) (jobId : String) (reason : CancellationReason)
    (detail : String) : JobInFlight :=
  { flight with asked := flight.asked ++ [.of jobId reason detail] }

/-- The token of a job whose first cancellation was kept. -/
def token (jobId : String) (flight : JobInFlight) : JobCancellationToken :=
  ⟨jobId, flight.asked.head?⟩

theorem token_ask (jobId : String) (flight : JobInFlight) (reason : CancellationReason)
    (detail : String) :
    ((flight.token jobId).cancel reason detail).2 = (flight.ask jobId reason detail).token jobId := by
  obtain ⟨profile, asked⟩ := flight
  cases asked <;> rfl

end JobInFlight

/-- A journal file and the process that has it. -/
structure JournalLifetimes where
  file : Option (List Char)
  registry : JobCancellationRegistry
  stage : LifetimeStage
  inFlight : Dict String JobInFlight
  /-- The last operation wrote. -/
  wrote : Bool
  /-- The last write succeeded. -/
  synced : Bool
  /-- What the next recovery owes, where the last write before a crash succeeded or a recovery
  raised. -/
  due : Option (Dict String String)
  deriving DecidableEq

/-- What a process does. A fault is a write that raises. -/
inductive LifetimeAction where
  | recover (fault : Bool)
  | track (jobId profileId : String) (fault : Bool)
  | cancel (jobId : String) (reason : CancellationReason) (detail : String)
  | cancelAll (reason : CancellationReason) (detail : String)
  | release (jobId : String) (fault : Bool)
  /-- The process ends, and another one starts. -/
  | crash (maxTrackedJobs : Nat) (positive : 0 < maxTrackedJobs)

namespace JournalLifetimes

/-- The first process, before anything was written. -/
def start (maxTrackedJobs : Nat) (positive : 0 < maxTrackedJobs) : JournalLifetimes :=
  ⟨none, fresh maxTrackedJobs positive, .awaiting, Dict.empty, false, true, some Dict.empty⟩

/-- The jobs in flight as the journal has them. -/
def profiles (inFlight : Dict String JobInFlight) : Dict String String :=
  inFlight.mapValues fun _ flight => flight.profile

variable {Real : Type} [FloatText Real] (str : Json Real → String)

/-- One operation of a process. -/
def step (state : JournalLifetimes) : LifetimeAction → Option JournalLifetimes
  | .recover fault =>
    if state.stage = .tracking then none
    else
      let recovery := state.registry.recover str state.file fault
      let entries := state.registry.journalEntries str state.file
      let written := decide (entries.size ≠ 0)
      match recovery.report with
      | some _ => some { state with
          file := recovery.file, registry := recovery.registry, stage := .recovered
          wrote := written, synced := written || state.synced, due := some Dict.empty }
      | none => some { state with
          file := recovery.file, registry := recovery.registry, stage := .refused
          wrote := written, synced := false, due := some entries }
  | .track jobId profileId fault =>
    if state.stage = .awaiting then none
    else
      match state.registry.track str state.file jobId profileId fault with
      | .error _ => some { state with wrote := false }
      | .ok persisted => some { state with
          file := persisted.file, registry := persisted.registry, stage := .tracking
          inFlight := state.inFlight.set jobId ⟨profileId, []⟩
          wrote := true, synced := persisted.written, due := none }
  | .cancel jobId reason detail => some { state with
      registry := (state.registry.cancel jobId reason detail).2
      inFlight := match state.inFlight.get? jobId with
        | none => state.inFlight
        | some flight => state.inFlight.set jobId (flight.ask jobId reason detail)
      wrote := false }
  | .cancelAll reason detail => some { state with
      registry := (state.registry.cancelAll reason detail).2
      inFlight := state.inFlight.mapValues fun jobId flight => flight.ask jobId reason detail
      wrote := false }
  | .release jobId fault =>
    match state.registry.release str state.file jobId fault with
    | none => some { state with wrote := false }
    | some persisted => some { state with
        file := persisted.file, registry := persisted.registry
        inFlight := state.inFlight.erase jobId
        wrote := true, synced := persisted.written }
  | .crash maxTrackedJobs positive => some { state with
      registry := fresh maxTrackedJobs positive, stage := .awaiting, inFlight := Dict.empty
      wrote := false
      due :=
        if state.stage = .awaiting ∨ state.stage = .refused then state.due
        else if state.synced then some (profiles state.inFlight) else none }

/-! ### The truth -/

/-- A report names exactly these jobs, each once. -/
def Reports (jobs : Dict String String) (report : List Cancellation) : Prop :=
  (report.map Cancellation.jobId).Nodup ∧
    ∀ cancellation, cancellation ∈ report ↔
      ∃ jobId profile, jobs.get? jobId = some profile ∧ cancellation = interrupted jobId profile

/-- The journal tells the truth. -/
structure Truthful (state : JournalLifetimes) : Prop where
  /-- After a successful write the journal holds exactly the jobs in flight. -/
  written : state.wrote = true → state.synced = true →
    jobs str state.file = profiles state.inFlight
  /-- Until a job is tracked, a recovery that does not raise reports what is due. -/
  recovers : state.stage ≠ .tracking → ∀ jobs, state.due = some jobs →
    ∃ report, (state.registry.recover str state.file false).report = some report ∧
      Reports jobs report
  /-- The reason that is kept for a job is that of its first cancellation. -/
  first : ∀ jobId flight, state.inFlight.get? jobId = some flight →
    ∃ token, state.registry.tokens.get? jobId = some token ∧
      token.cancellation = flight.asked.head?

/-- A file is small enough to be read. -/
def Small (file : Option (List Char)) : Prop := (file.map Json.byteLength).getD 0 ≤ maxJournalBytes

/-- An operation keeps the journal truthful: a recovery of some jobs does not raise, and a crash
leaves a journal that is read. -/
def Kept (state : JournalLifetimes) : LifetimeAction → Prop
  | .recover fault => fault = true → (state.registry.journalEntries str state.file).size = 0
  | .crash _ _ => state.synced = true → Small state.file
  | _ => True

instance : (state : JournalLifetimes) → (action : LifetimeAction) →
    Decidable (Kept str state action)
  | _, .recover _ => inferInstanceAs (Decidable (_ → _))
  | _, .crash _ _ => inferInstanceAs (Decidable (_ → _ ≤ _))
  | _, .track _ _ _ => inferInstanceAs (Decidable True)
  | _, .cancel _ _ _ => inferInstanceAs (Decidable True)
  | _, .cancelAll _ _ => inferInstanceAs (Decidable True)
  | _, .release _ _ => inferInstanceAs (Decidable True)

/-! ### Reports -/

theorem reports_reports (jobs : Dict String String) : Reports jobs (reports jobs) := by
  constructor
  · rw [reports, List.map_map]
    exact Dict.nodup _
  · intro cancellation
    rw [reports, List.mem_map]
    constructor
    · rintro ⟨⟨jobId, profile⟩, member, rfl⟩
      have found := Dict.get?_eq_some_iff.mpr member
      rw [Dict.get?_sortBy] at found
      exact ⟨jobId, profile, found, rfl⟩
    · rintro ⟨jobId, profile, found, rfl⟩
      rw [← Dict.get?_sortBy fun first second => decide (first ≤ second)] at found
      exact ⟨(jobId, profile), Dict.get?_eq_some_iff.mp found, rfl⟩

theorem reports_eq_nil {jobs : Dict String String} (none : jobs.size = 0) : reports jobs = [] := by
  rw [reports, List.map_eq_nil_iff]
  exact List.length_eq_zero_iff.mp ((Dict.size_sortBy _ _).trans none)

/-- A recovery that does not raise reports the journal's content. -/
theorem report_recover (registry : JobCancellationRegistry) (file : Option (List Char)) :
    (registry.recover str file false).report = some (reports (registry.journalEntries str file)) := by
  rw [recover]
  split
  · rename_i empty
    rw [reports_eq_nil empty]
  · rfl

variable (Real) in
/-- The file after some jobs were recorded. -/
def recorded (entries : Dict String String) : Option (List Char) :=
  if entries.size = 0 then none else save Real entries

theorem jobs_recorded (entries : Dict String String) : jobs str (recorded Real entries) = entries := by
  rw [recorded]
  split
  · rename_i empty
    exact (Dict.ext (List.length_eq_zero_iff.mp empty)).symm
  · exact jobs_save str entries

theorem load_recorded {entries : Dict String String} (small : Small (recorded Real entries)) :
    load str (recorded Real entries) = entries := by
  rw [load]
  exact (if_pos small).trans (jobs_recorded str entries)

/-- What holds of a truthful journal and its process. -/
structure Consistent (Real : Type) [FloatText Real] (str : Json Real → String)
    (state : JournalLifetimes) : Prop where
  tokens : state.registry.tokens = state.inFlight.mapValues fun jobId flight => flight.token jobId
  wrote : state.wrote = true → state.stage ≠ .awaiting
  accepted : state.stage ≠ .refused
  awaiting : state.stage = .awaiting → state.registry.entries = none ∧ state.inFlight = Dict.empty ∧
    if state.synced then
      ∃ jobs, state.due = some jobs ∧ state.file = recorded Real jobs ∧ Small state.file
    else state.due = none
  recovered : state.stage = .recovered → state.registry.entries = some Dict.empty ∧
    state.inFlight = Dict.empty ∧ state.due = some Dict.empty ∧
      (state.synced = true → state.file = none)
  tracking : state.stage = .tracking →
    state.registry.entries = some (profiles state.inFlight) ∧
      (state.synced = true → state.file = recorded Real (profiles state.inFlight))

theorem consistent_start (maxTrackedJobs : Nat) (positive : 0 < maxTrackedJobs) :
    Consistent Real str (start maxTrackedJobs positive) where
  tokens := rfl
  wrote := nofun
  accepted := nofun
  awaiting _ := ⟨rfl, rfl, Dict.empty, rfl, rfl, Nat.zero_le _⟩
  recovered := nofun
  tracking := nofun

variable {str} {state next : JournalLifetimes}

theorem Consistent.truthful (consistent : Consistent Real str state) : Truthful str state where
  written wrote synced := by
    cases stage : state.stage with
    | awaiting => exact absurd stage (consistent.wrote wrote)
    | refused => exact absurd stage consistent.accepted
    | recovered =>
      obtain ⟨_, none, _, removed⟩ := consistent.recovered stage
      rw [removed synced, none]
      rfl
    | tracking => rw [(consistent.tracking stage).2 synced, jobs_recorded]
  recovers notTracking jobs due := by
    refine ⟨_, report_recover str _ _, ?_⟩
    suffices same : state.registry.journalEntries str state.file = jobs from
      same ▸ reports_reports _
    cases stage : state.stage with
    | awaiting =>
      obtain ⟨unread, _, synced⟩ := consistent.awaiting stage
      split_ifs at synced
      · obtain ⟨owed, same, file, small⟩ := synced
        rw [due, Option.some.injEq] at same
        rw [journalEntries, unread, Option.getD_none, file, load_recorded str (file ▸ small), same]
      · rw [due] at synced
        cases synced
    | refused => exact absurd stage consistent.accepted
    | recovered =>
      obtain ⟨read, _, owed, _⟩ := consistent.recovered stage
      rw [due, Option.some.injEq] at owed
      rw [journalEntries, read, Option.getD_some, owed]
    | tracking => exact absurd stage notTracking
  first jobId flight found := by
    refine ⟨flight.token jobId, ?_, rfl⟩
    rw [consistent.tokens, Dict.get?_mapValues, found]
    rfl

/-! ### One operation -/

theorem Consistent.entries (consistent : Consistent Real str state)
    (begun : state.stage ≠ .awaiting) : state.registry.entries = some (profiles state.inFlight) := by
  cases stage : state.stage with
  | awaiting => exact absurd stage begun
  | refused => exact absurd stage consistent.accepted
  | recovered =>
    obtain ⟨read, none, _⟩ := consistent.recovered stage
    rw [read, none]
    rfl
  | tracking => exact (consistent.tracking stage).1

theorem Consistent.file (consistent : Consistent Real str state) (begun : state.stage ≠ .awaiting)
    (synced : state.synced = true) : state.file = recorded Real (profiles state.inFlight) := by
  cases stage : state.stage with
  | awaiting => exact absurd stage begun
  | refused => exact absurd stage consistent.accepted
  | recovered =>
    obtain ⟨_, none, _, removed⟩ := consistent.recovered stage
    rw [removed synced, none]
    rfl
  | tracking => exact (consistent.tracking stage).2 synced

/-- No job is in flight before one is tracked. -/
theorem Consistent.none_inFlight (consistent : Consistent Real str state)
    (untracked : state.stage ≠ .tracking) : state.inFlight = Dict.empty := by
  cases stage : state.stage with
  | awaiting => exact (consistent.awaiting stage).2.1
  | refused => exact absurd stage consistent.accepted
  | recovered => exact (consistent.recovered stage).2.1
  | tracking => exact absurd stage untracked

variable {fault : Bool} {jobId detail : String} {reason : CancellationReason}

theorem consistent_recover (consistent : Consistent Real str state)
    (kept : Kept str state (.recover fault)) (steps : step str state (.recover fault) = some next) :
    Consistent Real str next := by
  rw [step] at steps
  split_ifs at steps with tracking
  have none := consistent.none_inFlight tracking
  dsimp only at steps
  by_cases empty : (state.registry.journalEntries str state.file).size = 0
  · have nothing : state.registry.journalEntries str state.file = Dict.empty :=
      Dict.ext (List.length_eq_zero_iff.mp empty)
    rw [recover, if_pos empty] at steps
    obtain rfl := Option.some.inj steps
    refine ⟨consistent.tokens, nofun, nofun, nofun, fun _ => ⟨congrArg some nothing, none, rfl, ?_⟩, nofun⟩
    intro synced
    have synced : state.synced = true := by simpa [empty] using synced
    cases stage : state.stage with
    | awaiting =>
      obtain ⟨unread, _, owed⟩ := consistent.awaiting stage
      rw [if_pos synced] at owed
      obtain ⟨jobs, _, file, small⟩ := owed
      rw [journalEntries, unread, Option.getD_none, file, load_recorded str (file ▸ small)] at nothing
      rw [file, nothing]
      rfl
    | refused => exact absurd stage consistent.accepted
    | recovered => exact (consistent.recovered stage).2.2.2 synced
    | tracking => exact absurd stage tracking
  · have sound : fault = false := by
      rw [Bool.eq_false_iff]
      exact fun raised => empty (kept raised)
    subst sound
    rw [recover, if_neg empty] at steps
    obtain rfl := Option.some.inj steps
    exact ⟨consistent.tokens, nofun, nofun, nofun, fun _ => ⟨rfl, none, rfl, fun _ => rfl⟩, nofun⟩

theorem consistent_track {profileId : String} (consistent : Consistent Real str state)
    (steps : step str state (.track jobId profileId fault) = some next) :
    Consistent Real str next := by
  rw [step] at steps
  split_ifs at steps with begun
  split at steps
  · obtain rfl := Option.some.inj steps
    exact { consistent with wrote := nofun }
  · rename_i persisted tracked
    obtain rfl := Option.some.inj steps
    rw [track] at tracked
    split_ifs at tracked
    obtain rfl := Except.ok.inj tracked
    have entries := consistent.entries begun
    refine ⟨?_, nofun, nofun, nofun, nofun, fun _ => ⟨?_, fun synced => ?_⟩⟩
    · rw [Dict.mapValues_set, ← consistent.tokens]
      rfl
    · rw [profiles, Dict.mapValues_set]
      simp only [persist, journalEntries, entries, Option.getD_some]
      rfl
    · have written : fault = false := by simpa [persist] using synced
      rw [profiles, Dict.mapValues_set]
      simp only [persist, journalEntries, entries, Option.getD_some, written]
      rfl

/-- Cancelling changes no profile. -/
theorem Consistent.cancelled (consistent : Consistent Real str state)
    {inFlight : Dict String JobInFlight} {tokens : Dict String JobCancellationToken}
    (same : profiles inFlight = profiles state.inFlight)
    (kept : tokens = inFlight.mapValues fun jobId flight => flight.token jobId) :
    Consistent Real str { state with
      registry := { state.registry with tokens := tokens }, inFlight := inFlight, wrote := false } := by
  have none : state.inFlight = Dict.empty → inFlight = Dict.empty := by
    intro empty
    rw [empty] at same
    exact Dict.ext (List.map_eq_nil_iff.mp (congrArg Dict.entries same))
  refine ⟨kept, nofun, consistent.accepted, fun stage => ?_, fun stage => ?_, fun stage => ?_⟩
  · obtain ⟨unread, empty, due⟩ := consistent.awaiting stage
    exact ⟨unread, none empty, due⟩
  · obtain ⟨read, empty, due⟩ := consistent.recovered stage
    exact ⟨read, none empty, due⟩
  · have tracking := consistent.tracking stage
    rw [← same] at tracking
    exact tracking

theorem consistent_cancel (consistent : Consistent Real str state)
    (steps : step str state (.cancel jobId reason detail) = some next) :
    Consistent Real str next := by
  rw [step] at steps
  obtain rfl := Option.some.inj steps
  have tokens := consistent.tokens
  cases found : state.inFlight.get? jobId with
  | none =>
    have absent : state.registry.tokens.get? jobId = none := by
      rw [tokens, Dict.get?_mapValues, found]
      rfl
    rw [cancel, absent]
    exact { consistent with wrote := nofun }
  | some flight =>
    have present : state.registry.tokens.get? jobId = some (flight.token jobId) := by
      rw [tokens, Dict.get?_mapValues, found]
      rfl
    rw [cancel, present]
    refine consistent.cancelled ?_ ?_
    · rw [profiles, Dict.mapValues_set]
      refine Dict.set_of_get? ?_
      rw [Dict.get?_mapValues, found]
      rfl
    · rw [Dict.mapValues_set, ← JobInFlight.token_ask, ← tokens]

theorem consistent_cancelAll (consistent : Consistent Real str state)
    (steps : step str state (.cancelAll reason detail) = some next) : Consistent Real str next := by
  rw [step] at steps
  obtain rfl := Option.some.inj steps
  refine consistent.cancelled ?_ ?_
  · exact Dict.mapValues_mapValues ..
  · rw [consistent.tokens, Dict.mapValues_mapValues, Dict.mapValues_mapValues]
    simp only [JobInFlight.token_ask]

theorem consistent_release (consistent : Consistent Real str state)
    (steps : step str state (.release jobId fault) = some next) : Consistent Real str next := by
  rw [step] at steps
  split at steps
  · obtain rfl := Option.some.inj steps
    exact { consistent with wrote := nofun }
  · rename_i persisted released
    obtain rfl := Option.some.inj steps
    rw [release] at released
    split_ifs at released with present
    obtain rfl := Option.some.inj released
    have tracking : state.stage = .tracking := by
      by_contra untracked
      rw [consistent.tokens, consistent.none_inFlight untracked] at present
      cases present
    have begun : state.stage ≠ .awaiting := tracking ▸ nofun
    have entries := consistent.entries begun
    refine ⟨?_, fun _ => begun, consistent.accepted, fun stage => absurd stage begun, ?_, ?_⟩
    · rw [Dict.mapValues_erase, ← consistent.tokens]
      rfl
    · intro stage
      rw [tracking] at stage
      cases stage
    · refine fun _ => ⟨?_, fun synced => ?_⟩
      · rw [profiles, Dict.mapValues_erase]
        simp only [persist, journalEntries, entries, Option.getD_some]
        rfl
      · have written : fault = false := by simpa [persist] using synced
        rw [profiles, Dict.mapValues_erase]
        simp only [persist, journalEntries, entries, Option.getD_some, written]
        rfl

theorem consistent_crash {maxTrackedJobs : Nat} {positive : 0 < maxTrackedJobs}
    (consistent : Consistent Real str state) (kept : Kept str state (.crash maxTrackedJobs positive))
    (steps : step str state (.crash maxTrackedJobs positive) = some next) :
    Consistent Real str next := by
  rw [step] at steps
  obtain rfl := Option.some.inj steps
  refine ⟨rfl, nofun, nofun, fun _ => ⟨rfl, rfl, ?_⟩, nofun, nofun⟩
  by_cases awaiting : state.stage = .awaiting
  · have due := (consistent.awaiting awaiting).2.2
    simpa only [awaiting, true_or, if_true] using due
  · simp only [awaiting, consistent.accepted, or_self, if_false]
    split
    · rename_i synced
      exact ⟨_, rfl, consistent.file awaiting synced, kept synced⟩
    · rfl

/-! ### Runs -/

/-- What every operation preserves that keeps the journal truthful. -/
theorem consistent_step {action : LifetimeAction} (consistent : Consistent Real str state)
    (kept : Kept str state action) (steps : step str state action = some next) :
    Consistent Real str next := by
  cases action with
  | recover fault => exact consistent_recover consistent kept steps
  | track jobId profileId fault => exact consistent_track consistent steps
  | cancel jobId reason detail => exact consistent_cancel consistent steps
  | cancelAll reason detail => exact consistent_cancelAll consistent steps
  | release jobId fault => exact consistent_release consistent steps
  | crash maxTrackedJobs positive => exact consistent_crash consistent kept steps

end JournalLifetimes

end Omnitensor
