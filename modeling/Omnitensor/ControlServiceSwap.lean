/-
This file proves that the compare-and-swap of the control plane holds under concurrency.

At most one call is between the revision check and the publication, because it holds
the lock, so what it was decided on is still served when it publishes. Each call row
carries what its phase promises (`Call.Fine`): a candidate was made of the policy that
is served, and a save that succeeded left it in the file. An applied call carried a
revision below the one served since, so no later call is applied at the same one.
-/

import Omnitensor.ControlService
import Omnitensor.PolicyEdit
import Omnitensor.Table

namespace Omnitensor

/-! ### A candidate is one revision on -/

namespace PolicyState

variable {state changed : PolicyState} {environment : ControlEnvironment}

theorem revision_of_edit {edit : Edit}
    (made : PolicyState.edit environment state edit = (changed, none)) :
    changed.revision = state.revision := by
  have again := edit_atRevision_of_accepted made state.revision
  rw [atRevision_self, made] at again
  have kept : changed = changed.atRevision state.revision := (Prod.mk.inj again).1
  calc changed.revision = (changed.atRevision state.revision).revision :=
        congrArg PolicyState.revision kept
    _ = state.revision := rfl

theorem revision_of_candidate {command : Command}
    (made : candidate environment state command = .ok changed) :
    changed.revision = state.revision + 1 := by
  obtain ⟨executed, executes, rfl⟩ := candidate_eq_ok_iff.mp made
  have kept : executed.revision = state.revision :=
    editAll_invariant (fun changed => changed.revision = state.revision)
      (fun before _ after same (_ : True) made => (revision_of_edit made).trans same)
      (fun _ _ => trivial) rfl (editAll_of_execute executes)
  exact congrArg (· + 1) kept

theorem revision_of_adoptProfiles {profileIds : List String} {default : Option ProfilePolicy}
    (adopts : state.adoptProfiles profileIds default = some changed) :
    changed.revision = state.revision + 1 := by
  unfold adoptProfiles at adopts
  split at adopts
  · cases adopts
  · cases adopts
    rfl

end PolicyState

/-- The reply acknowledges a command with a status. -/
def Reply.hasStatus (status : Status) : Reply → Bool
  | .acknowledgement given => decide (given.status = status)
  | .adopted _ => false

/-- The request is a command that changes policy alone, at this revision. -/
def Request.ChangesPolicyAt (request : Request) (revision : Int) : Prop :=
  ∃ id expectedRevision command, request = .command id expectedRevision command ∧
    command.isConfiguration = false ∧ expectedRevision.value = revision

namespace ControlService

@[simp] theorem hasStatus_rejection (served : PolicyState) (commandId message : String)
    (status : Status) :
    (rejection served commandId message).hasStatus status = decide (Status.rejected = status) := rfl

@[simp] theorem hasStatus_application (served : PolicyState) (id : String) (status : Status) :
    (application served id).hasStatus status = decide (Status.applied = status) := rfl

/-! ### What the phases promise -/

/-- A candidate that a call makes of a policy, at the revision it expects. -/
def IsCandidate (served candidate : PolicyState) : Request → Prop
  | .command _ expectedRevision command =>
    expectedRevision.value = served.revision ∧
      ∃ environment, served.candidate environment command = .ok candidate
  | .adoption profileIds default => served.adoptProfiles profileIds default = some candidate
  | _ => False

variable {served candidate served' loaded : PolicyState} {saved saved' : Option PolicyState}
  {request : Request} {phase before after : Phase} {service next : ControlService} {index : Nat}
  {action : Action} {environment : ControlEnvironment}

theorem IsCandidate.revision (isCandidate : IsCandidate served candidate request) :
    candidate.revision = served.revision + 1 := by
  cases request with
  | command id expectedRevision command =>
    obtain ⟨_, environment, made⟩ := isCandidate
    exact PolicyState.revision_of_candidate made
  | adoption profileIds default => exact PolicyState.revision_of_adoptProfiles isCandidate
  | notJson => exact isCandidate.elim
  | notObject => exact isCandidate.elim
  | violation id => exact isCandidate.elim
  | unreadable => exact isCandidate.elim

/-- What the phase of a call promises, over the policy served and the policy in the file. -/
def Call.Fine (served : PolicyState) (saved : Option PolicyState) (call : Call) : Prop :=
  match call.phase with
  | .waiting => True
  | .storing => ∀ id expectedRevision command,
    call.request = .command id expectedRevision command → expectedRevision.value = served.revision
  | .saving candidate => IsCandidate served candidate call.request
  | .written candidate succeeds =>
    IsCandidate served candidate call.request ∧ (succeeds = true → saved = some candidate)
  | .completed reply => reply.hasStatus .applied = true →
    ∀ revision, call.request.ChangesPolicyAt revision → revision < served.revision

/-! ### What an event does -/

/-- What an event of a call does to the policy served, the policy in the file and the phase. -/
inductive Advanced (served : PolicyState) (saved : Option PolicyState) (request : Request) :
    Phase → PolicyState → Option PolicyState → Phase → Prop where
  | ends {phase : Phase} {reply : Reply} (early : phase = .waiting ∨ phase = .storing)
      (notApplied : reply.hasStatus .applied = false) :
      Advanced served saved request phase served saved (.completed reply)
  | stores (current : ∀ id expectedRevision command,
        request = .command id expectedRevision command →
          expectedRevision.value = served.revision) :
      Advanced served saved request .waiting served saved .storing
  | saves {phase : Phase} {candidate : PolicyState} (early : phase = .waiting ∨ phase = .storing)
      (isCandidate : IsCandidate served candidate request) :
      Advanced served saved request phase served saved (.saving candidate)
  | writes {candidate : PolicyState} (succeeds : Bool) :
      Advanced served saved request (.saving candidate) served
        (if succeeds then some candidate else saved) (.written candidate succeeds)
  | publishes {candidate : PolicyState} {reply : Reply}
      (notRejected : reply.hasStatus .rejected = false) :
      Advanced served saved request (.written candidate true) candidate saved (.completed reply)
  | fails {candidate : PolicyState} {reply : Reply}
      (notApplied : reply.hasStatus .applied = true →
        ∀ revision, ¬ request.ChangesPolicyAt revision) :
      Advanced served saved request (.written candidate false) served saved (.completed reply)

/-- Executing a command at its revision makes a candidate or rejects the command. -/
theorem advanced_executed (environment : ControlEnvironment) {id : String}
    {expectedRevision : JsonInteger} {command : Command}
    (early : phase = .waiting ∨ phase = .storing)
    (current : expectedRevision.value = served.revision) :
    Advanced served saved (.command id expectedRevision command) phase served saved
      (executed environment served id command) := by
  unfold executed
  split
  · exact .ends early (hasStatus_rejection _ _ _ _)
  · rename_i candidate made
    exact .saves early ⟨current, environment, made⟩

theorem advanced_begun (begins : begun environment served request = some phase) :
    Advanced served saved request .waiting served saved phase := by
  cases request with
  | command id expectedRevision command =>
    simp only [begun] at begins
    split at begins
    · cases begins
      exact .ends (Or.inl rfl) (hasStatus_rejection _ _ _ _)
    · rename_i same
      have current := Decidable.not_not.mp same
      split at begins
      · cases begins
        refine .stores fun _ _ _ asks => ?_
        cases asks
        exact current
      · cases begins
        exact advanced_executed environment (Or.inl rfl) current
  | adoption profileIds default =>
    simp only [begun] at begins
    split at begins
    · cases begins
      exact .ends (Or.inl rfl) rfl
    · rename_i candidate adopts
      cases begins
      exact .saves (Or.inl rfl) adopts
  | notJson => cases begins
  | notObject => cases begins
  | violation id => cases begins
  | unreadable => cases begins

theorem advanced_configured {answer : SettingsAnswer} (current : ∀ id expectedRevision command,
      request = .command id expectedRevision command → expectedRevision.value = served.revision)
    (configures : configured environment served answer request = some phase) :
    Advanced served saved request .storing served saved phase := by
  unfold configured at configures
  split at configures
  · split at configures
    · cases configures
      exact .ends (Or.inr rfl) (hasStatus_rejection _ _ _ _)
    · cases configures
      exact advanced_executed environment (Or.inr rfl) (current _ _ _ rfl)
  · cases configures

theorem advanced_resumed {published : PolicyState} {succeeds : Bool} {reply : Reply}
    (resumes : resumed served candidate succeeds request = some (published, reply)) :
    Advanced served saved request (.written candidate succeeds) published saved
      (.completed reply) := by
  cases request with
  | command id expectedRevision command =>
    simp only [resumed, PolicyState.commit] at resumes
    cases succeeds with
    | true =>
      cases resumes
      exact .publishes (hasStatus_application _ _ _)
    | false =>
      cases configuration : command.isConfiguration with
      | true =>
        simp only [configuration] at resumes
        cases resumes
        refine .fails ?_
        rintro _ revision ⟨_, _, _, asks, changes, _⟩
        cases asks
        exact Bool.noConfusion (configuration.symm.trans changes)
      | false =>
        simp only [configuration] at resumes
        cases resumes
        exact .fails fun applied => Bool.noConfusion applied
  | adoption profileIds default =>
    simp only [resumed] at resumes
    cases succeeds with
    | true =>
      cases resumes
      exact .publishes rfl
    | false =>
      cases resumes
      exact .fails fun applied => Bool.noConfusion applied
  | notJson => cases resumes
  | notObject => cases resumes
  | violation id => cases resumes
  | unreadable => cases resumes

variable {call : Call}

/-- Every event of a call that keeps its promise is one of these. -/
theorem advanced_of_advance {event : Event} (fine : call.Fine served saved)
    (advances : advance served saved call event = some (served', saved', phase)) :
    Advanced served saved call.request call.phase served' saved' phase := by
  obtain ⟨request, before⟩ := call
  cases event with
  | locked environment =>
    simp only [advance] at advances
    split at advances
    · obtain ⟨after, begins, same⟩ := Option.map_eq_some_iff.mp advances
      cases same
      exact advanced_begun begins
    · cases advances
  | raised =>
    have rejects : ∀ reply, raisedReply served request = some reply →
        reply.hasStatus .applied = false := by
      intro reply raises
      cases request with
      | command id expectedRevision command =>
        cases raises
        rfl
      | _ => cases raises
    simp only [advance] at advances
    split at advances
    · obtain ⟨reply, raises, same⟩ := Option.map_eq_some_iff.mp advances
      cases same
      exact .ends (Or.inl rfl) (rejects reply raises)
    · obtain ⟨reply, raises, same⟩ := Option.map_eq_some_iff.mp advances
      cases same
      exact .ends (Or.inr rfl) (rejects reply raises)
    · cases advances
  | stored environment answer =>
    simp only [advance] at advances
    split at advances
    · obtain ⟨after, configures, same⟩ := Option.map_eq_some_iff.mp advances
      cases same
      exact advanced_configured fine configures
    · cases advances
  | written succeeds =>
    simp only [advance] at advances
    split at advances
    · cases advances
      exact .writes succeeds
    · cases advances
  | resumed =>
    simp only [advance] at advances
    split at advances
    · obtain ⟨⟨published, reply⟩, resumes, same⟩ := Option.map_eq_some_iff.mp advances
      cases same
      exact advanced_resumed resumes
    · cases advances

/-! ### One step -/

/-- What an event makes of the service, when the call may take it. -/
theorem step_event {event : Event} (steps : step service (.event index event) = some next) :
    ∃ call served saved phase, service.calls[index]? = some call ∧
      (call.phase = .waiting → service.holder = none) ∧
      advance service.served service.saved call event = some (served, saved, phase) ∧
      next =
        { served := served
          saved := saved
          holder := if phase.holdsLock then some index else none
          calls := service.calls.set index { call with phase := phase } } := by
  simp only [step] at steps
  split at steps
  · cases steps
  · rename_i call stored
    split at steps
    · cases steps
    · rename_i admitted
      split at steps
      · cases steps
      · rename_i served saved phase advances
        refine ⟨call, served, saved, phase, stored, fun waiting => ?_, advances,
          (Option.some.inj steps).symm⟩
        by_contra held
        exact admitted ⟨waiting, held⟩

/-- A call that something happens to waits for the lock or holds it. -/
theorem Advanced.waits_or_holds
    (advanced : Advanced served saved request before served' saved' after) :
    before = .waiting ∨ before.holdsLock = true := by
  cases advanced with
  | ends early _ => exact early.imp_right (congrArg Phase.holdsLock)
  | stores _ => exact Or.inl rfl
  | saves early _ => exact early.imp_right (congrArg Phase.holdsLock)
  | writes _ => exact Or.inr rfl
  | publishes _ => exact Or.inr rfl
  | fails _ => exact Or.inr rfl

/-- No event takes the revision back. -/
theorem Advanced.revision_le (advanced : Advanced served saved request before served' saved' after)
    (fine : Call.Fine served saved ⟨request, before⟩) : served.revision ≤ served'.revision := by
  cases advanced with
  | publishes _ =>
    rw [fine.1.revision]
    exact Nat.le_succ _
  | ends _ _ => exact Nat.le_refl _
  | stores _ => exact Nat.le_refl _
  | saves _ _ => exact Nat.le_refl _
  | writes _ => exact Nat.le_refl _
  | fails _ => exact Nat.le_refl _

/-- The phase after an event keeps its promise. -/
theorem Advanced.fine (advanced : Advanced served saved request before served' saved' after)
    (fine : Call.Fine served saved ⟨request, before⟩) :
    Call.Fine served' saved' ⟨request, after⟩ := by
  cases advanced with
  | ends _ notApplied => exact fun applied => Bool.noConfusion (notApplied.symm.trans applied)
  | stores current => exact current
  | saves _ isCandidate => exact isCandidate
  | writes succeeds =>
    refine ⟨fine, fun success => ?_⟩
    rw [success]
    rfl
  | publishes _ =>
    rintro _ revision ⟨id, expectedRevision, command, rfl, _, rfl⟩
    have next := fine.1.revision
    have current := fine.1.1
    omega
  | fails notApplied =>
    intro applied revision changes
    exact absurd changes (notApplied applied revision)

/-- A call that neither waits behind the lock's events nor holds it keeps its promise while the
revision grows. -/
theorem Call.Fine.mono (fine : call.Fine served saved) (idle : call.phase.holdsLock = false)
    (grows : served.revision ≤ served'.revision) : call.Fine served' saved' := by
  obtain ⟨request, phase⟩ := call
  cases phase with
  | waiting => exact trivial
  | completed reply =>
    intro applied revision changes
    have below := fine applied revision changes
    omega
  | storing => cases idle
  | saving candidate => cases idle
  | written candidate succeeds => cases idle

/-! ### The invariant -/

/-- The call was applied as a command that changes policy alone, at this revision. -/
def Call.AppliedAt (call : Call) (revision : Int) : Prop :=
  ∃ reply, call.phase = .completed reply ∧ reply.hasStatus .applied = true ∧
    call.request.ChangesPolicyAt revision

/-- A save has succeeded whose policy is not served yet. -/
def AwaitsPublication (service : ControlService) : Prop :=
  ∃ (index : Nat) (call : Call) (candidate : PolicyState),
    service.calls[index]? = some call ∧ call.phase = .written candidate true

/-- What every step preserves. -/
structure Consistent (loaded : PolicyState) (service : ControlService) : Prop where
  holder : ∀ (index : Nat) (call : Call), service.calls[index]? = some call →
    call.phase.holdsLock = true → service.holder = some index
  fine : ∀ (index : Nat) (call : Call), service.calls[index]? = some call →
    call.Fine service.served service.saved
  file : AwaitsPublication service ∨ service.saved.getD loaded = service.served
  distinct : ∀ (first second : Nat) (firstCall secondCall : Call) (revision : Int),
    first ≠ second → service.calls[first]? = some firstCall → service.calls[second]? = some secondCall →
    firstCall.AppliedAt revision → ¬ secondCall.AppliedAt revision

theorem consistent_start (loaded : PolicyState) : Consistent loaded (start loaded) where
  holder index call stored := by cases stored
  fine index call stored := by cases stored
  file := Or.inr rfl
  distinct first second firstCall secondCall revision different stored := by cases stored

namespace Consistent

variable {loaded : PolicyState} {service : ControlService}

/-- While something happens to a call, no other call holds the lock. -/
theorem others_idle (consistent : Consistent loaded service) {index other : Nat}
    {call otherCall : Call} (stored : service.calls[index]? = some call)
    (admitted : call.phase = .waiting → service.holder = none)
    (active : call.phase = .waiting ∨ call.phase.holdsLock = true) (different : other ≠ index)
    (otherStored : service.calls[other]? = some otherCall) :
    otherCall.phase.holdsLock = false := by
  rw [← Bool.not_eq_true]
  intro holds
  have holder := consistent.holder other otherCall otherStored holds
  rcases active with waiting | held
  · rw [admitted waiting] at holder
    cases holder
  · rw [consistent.holder index call stored held] at holder
    exact different (Option.some.inj holder).symm

/-- A call arriving changes nothing for the others. -/
theorem arrives (consistent : Consistent loaded service) {call : Call}
    (idle : call.phase.holdsLock = false) (fine : call.Fine service.served service.saved)
    (notApplied : ∀ revision, ¬ call.AppliedAt revision) :
    Consistent loaded { service with calls := service.calls ++ [call] } := by
  have row : ∀ (index : Nat) (row : Call), (service.calls ++ [call])[index]? = some row →
      row = call ∨ service.calls[index]? = some row := by
    intro index row stored
    rw [Table.getElem?_concat] at stored
    split at stored
    · exact Or.inl (Option.some.inj stored).symm
    · exact Or.inr stored
  constructor
  · intro index other stored holds
    rcases row index other stored with rfl | old
    · exact Bool.noConfusion (idle.symm.trans holds)
    · exact consistent.holder index other old holds
  · intro index other stored
    rcases row index other stored with rfl | old
    · exact fine
    · exact consistent.fine index other old
  · refine consistent.file.imp_left ?_
    rintro ⟨index, other, candidate, stored, isWritten⟩
    exact ⟨index, other, candidate,
      List.getElem?_append_left (List.getElem?_eq_some_iff.mp stored).1 ▸ stored, isWritten⟩
  · intro first second firstCall secondCall revision different firstStored secondStored applied
    rcases row first firstCall firstStored with rfl | firstOld
    · exact absurd applied (notApplied revision)
    · rcases row second secondCall secondStored with rfl | secondOld
      · exact notApplied revision
      · exact consistent.distinct first second firstCall secondCall revision different firstOld
          secondOld applied

/-- While something happens to a call that does not await publication, the file holds what is
served. -/
theorem file_of_active (consistent : Consistent loaded service) {index : Nat} {call : Call}
    (stored : service.calls[index]? = some call)
    (admitted : call.phase = .waiting → service.holder = none)
    (active : call.phase = .waiting ∨ call.phase.holdsLock = true)
    (early : ∀ candidate, call.phase ≠ .written candidate true) :
    service.saved.getD loaded = service.served := by
  rcases consistent.file with ⟨other, otherCall, candidate, otherStored, isWritten⟩ | same
  · by_cases here : other = index
    · rw [here, stored] at otherStored
      cases otherStored
      exact absurd isWritten (early candidate)
    · have idle := consistent.others_idle stored admitted active here otherStored
      rw [isWritten] at idle
      cases idle
  · exact same

/-- An event that applies a command finds its revision served and its candidate in the file. -/
theorem applied_of_advanced {served served' : PolicyState} {saved saved' : Option PolicyState}
    {request : Request} {before after : Phase} {revision : Int}
    (advanced : Advanced served saved request before served' saved' after)
    (fine : Call.Fine served saved ⟨request, before⟩)
    (applied : Call.AppliedAt ⟨request, after⟩ revision) :
    revision = served.revision ∧ served'.revision = served.revision + 1 ∧ saved = some served' := by
  obtain ⟨reply, completed, isApplied, changes⟩ := applied
  cases advanced with
  | ends _ notApplied =>
    cases completed
    exact Bool.noConfusion (notApplied.symm.trans isApplied)
  | stores _ => cases completed
  | saves _ _ => cases completed
  | writes _ => cases completed
  | publishes _ =>
    obtain ⟨id, expectedRevision, command, rfl, _, rfl⟩ := changes
    exact ⟨fine.1.1, fine.1.revision, fine.2 rfl⟩
  | fails notApplied =>
    cases completed
    exact absurd changes (notApplied isApplied revision)

/-- An event of one call keeps the service consistent. -/
theorem advances (consistent : Consistent loaded service) {index : Nat} {call : Call}
    {served : PolicyState} {saved : Option PolicyState} {phase : Phase}
    (stored : service.calls[index]? = some call)
    (admitted : call.phase = .waiting → service.holder = none)
    (advanced : Advanced service.served service.saved call.request call.phase served saved phase) :
    Consistent loaded
      { served := served
        saved := saved
        holder := if phase.holdsLock then some index else none
        calls := service.calls.set index { call with phase := phase } } := by
  obtain ⟨request, before⟩ := call
  have fine := consistent.fine index ⟨request, before⟩ stored
  have active := advanced.waits_or_holds
  have rows : ∀ (other : Nat) (row : Call),
      (service.calls.set index ⟨request, phase⟩)[other]? = some row →
      (other = index ∧ row = ⟨request, phase⟩) ∨
        (other ≠ index ∧ service.calls[other]? = some row) := by
    intro other row found
    rw [Table.getElem?_set stored] at found
    split at found
    · rename_i same
      exact Or.inl ⟨same, (Option.some.inj found).symm⟩
    · rename_i different
      exact Or.inr ⟨different, found⟩
  constructor
  · intro other row found holds
    rcases rows other row found with ⟨rfl, rfl⟩ | ⟨different, old⟩
    · exact if_pos holds
    · have idle := consistent.others_idle stored admitted active different old
      exact Bool.noConfusion (idle.symm.trans holds)
  · intro other row found
    rcases rows other row found with ⟨rfl, rfl⟩ | ⟨different, old⟩
    · exact advanced.fine fine
    · have idle := consistent.others_idle stored admitted active different old
      exact (consistent.fine other row old).mono idle (advanced.revision_le fine)
  · have same := consistent.file_of_active stored admitted active
    cases advanced with
    | ends early _ =>
      refine Or.inr (same fun candidate isWritten => ?_)
      rw [isWritten] at early
      rcases early with early | early <;> cases early
    | stores _ => exact Or.inr (same fun candidate isWritten => by cases isWritten)
    | saves early _ =>
      refine Or.inr (same fun candidate isWritten => ?_)
      rw [isWritten] at early
      rcases early with early | early <;> cases early
    | @writes candidate succeeds =>
      cases succeeds with
      | true =>
        refine Or.inl ⟨index, ⟨request, .written candidate true⟩, candidate, ?_, rfl⟩
        exact List.getElem?_set_self (List.getElem?_eq_some_iff.mp stored).1
      | false => exact Or.inr (same fun candidate isWritten => by cases isWritten)
    | publishes _ =>
      refine Or.inr ?_
      rw [fine.2 rfl]
      rfl
    | fails _ => exact Or.inr (same fun candidate isWritten => by cases isWritten)
  · -- Whatever was applied before was applied below the revision that is served now.
    have below : ∀ (other : Nat) (row : Call) (revision : Int),
        service.calls[other]? = some row → row.AppliedAt revision →
          Call.AppliedAt ⟨request, phase⟩ revision → False := by
      rintro other ⟨otherRequest, _⟩ revision old ⟨reply, rfl, isApplied, changes⟩ applied
      have earlier := consistent.fine other _ old isApplied revision changes
      have now := (applied_of_advanced advanced fine applied).1
      omega
    intro first second firstRow secondRow revision different firstFound secondFound firstApplied
      secondApplied
    rcases rows first firstRow firstFound with ⟨rfl, rfl⟩ | ⟨_, firstOld⟩
    · rcases rows second secondRow secondFound with ⟨rfl, rfl⟩ | ⟨_, secondOld⟩
      · exact different rfl
      · exact below second secondRow revision secondOld secondApplied firstApplied
    · rcases rows second secondRow secondFound with ⟨rfl, rfl⟩ | ⟨_, secondOld⟩
      · exact below first firstRow revision firstOld firstApplied secondApplied
      · exact consistent.distinct first second firstRow secondRow revision different firstOld
          secondOld firstApplied secondApplied

end Consistent

/-- Every step keeps the service consistent. -/
theorem consistent_step (service : ControlService) (action : Action) (next : ControlService)
    (consistent : Consistent loaded service) (steps : step service action = some next) :
    Consistent loaded next := by
  cases action with
  | call request =>
    obtain rfl := Option.some.inj steps
    cases refusal : textRefusal service.served request with
    | none =>
      refine consistent.arrives rfl trivial ?_
      rintro revision ⟨reply, completed, _⟩
      cases completed
    | some reply =>
      have rejects : reply.hasStatus .applied = false := by
        cases request with
        | command id expectedRevision command => cases refusal
        | adoption profileIds default => cases refusal
        | _ => cases refusal; rfl
      refine consistent.arrives rfl (fun applied => ?_) ?_
      · exact Bool.noConfusion (rejects.symm.trans applied)
      · rintro revision ⟨other, completed, isApplied, _⟩
        cases completed
        exact Bool.noConfusion (rejects.symm.trans isApplied)
  | event index event =>
    obtain ⟨call, served, saved, phase, stored, admitted, advances, rfl⟩ := step_event steps
    have advanced := advanced_of_advance (consistent.fine index call stored) advances
    exact consistent.advances stored admitted advanced

theorem consistent_of_reachable (reachable : Machine.Reachable step (start loaded) service) :
    Consistent loaded service :=
  reachable.invariant (Consistent loaded) consistent_step (consistent_start loaded)

/-! ### The served policy is changed by commands and adoptions alone -/

/-- Publishing a candidate is one change of the policy. -/
theorem IsCandidate.applyChange (isCandidate : IsCandidate served candidate request) :
    ∃ change, served.applyChange change = some candidate := by
  cases request with
  | command id expectedRevision command =>
    obtain ⟨_, environment, made⟩ := isCandidate
    exact ⟨.command environment command, congrArg Except.toOption made⟩
  | adoption profileIds default => exact ⟨.adoption profileIds default, isCandidate⟩
  | notJson => exact isCandidate.elim
  | notObject => exact isCandidate.elim
  | violation id => exact isCandidate.elim
  | unreadable => exact isCandidate.elim

/-- Whatever the calls do, the policy served was reached from the one loaded by changes that
succeeded, one after another, and its revision counts them. -/
theorem served_by_changes {loaded : PolicyState} {service : ControlService}
    (reachable : Machine.Reachable step (start loaded) service) :
    ∃ changes : List PolicyState.Change,
      Machine.run PolicyState.applyChange loaded changes = some service.served ∧
        service.served.revision = loaded.revision + changes.length := by
  refine (reachable.invariant (fun service => Consistent loaded service ∧
    ∃ changes : List PolicyState.Change,
      Machine.run PolicyState.applyChange loaded changes = some service.served ∧
        service.served.revision = loaded.revision + changes.length) ?_
    ⟨consistent_start loaded, [], rfl, rfl⟩).2
  rintro before action next ⟨consistent, sofar⟩ steps
  refine ⟨consistent_step before action next consistent steps, ?_⟩
  cases action with
  | call request =>
    obtain rfl := Option.some.inj steps
    exact sofar
  | event index event =>
    obtain ⟨⟨request, phase⟩, served, saved, after, stored, _, advances, rfl⟩ := step_event steps
    have fine := consistent.fine index ⟨request, phase⟩ stored
    have advanced := advanced_of_advance fine advances
    cases advanced with
    | publishes _ =>
      obtain ⟨changes, runs, counted⟩ := sofar
      obtain ⟨change, applies⟩ := fine.1.applyChange
      refine ⟨changes ++ [change], Machine.run_concat runs applies, ?_⟩
      rw [List.length_append, ← Nat.add_assoc, ← counted]
      exact fine.1.revision
    | ends _ _ => exact sofar
    | stores _ => exact sofar
    | saves _ _ => exact sofar
    | writes _ => exact sofar
    | fails _ => exact sofar

/-! ### Rejections -/

/-- The call can no longer end in a rejection. -/
def Call.Irrevocable (call : Call) : Prop :=
  (∃ candidate, call.phase = .written candidate true) ∨
    ∃ reply, call.phase = .completed reply ∧ reply.hasStatus .rejected = false

/-- The call was rejected. -/
def Call.Rejected (call : Call) : Prop :=
  ∃ reply, call.phase = .completed reply ∧ reply.hasStatus .rejected = true

theorem Call.Irrevocable.not_rejected (irrevocable : call.Irrevocable) : ¬ call.Rejected := by
  rintro ⟨reply, completed, rejected⟩
  rcases irrevocable with ⟨candidate, isWritten⟩ | ⟨other, otherCompleted, notRejected⟩
  · rw [completed] at isWritten
    cases isWritten
  · rw [completed] at otherCompleted
    cases otherCompleted
    exact Bool.noConfusion (notRejected.symm.trans rejected)

/-- An event changes what is served or saved only if its call cannot be rejected after it. -/
theorem irrevocable_of_advanced
    (advanced : Advanced served saved request before served' saved' after) :
    (served' = served ∧ saved' = saved) ∨ Call.Irrevocable ⟨request, after⟩ := by
  cases advanced with
  | writes succeeds =>
    cases succeeds with
    | true => exact Or.inr (Or.inl ⟨_, rfl⟩)
    | false => exact Or.inl ⟨rfl, rfl⟩
  | publishes notRejected => exact Or.inr (Or.inr ⟨_, rfl, notRejected⟩)
  | ends _ _ => exact Or.inl ⟨rfl, rfl⟩
  | stores _ => exact Or.inl ⟨rfl, rfl⟩
  | saves _ _ => exact Or.inl ⟨rfl, rfl⟩
  | fails _ => exact Or.inl ⟨rfl, rfl⟩

/-- What cannot be rejected before an event of the call cannot be after it. -/
theorem Advanced.irrevocable (advanced : Advanced served saved request before served' saved' after)
    (irrevocable : Call.Irrevocable ⟨request, before⟩) : Call.Irrevocable ⟨request, after⟩ := by
  rcases irrevocable with ⟨candidate, rfl⟩ | ⟨reply, rfl, _⟩
  · cases advanced with
    | publishes notRejected => exact Or.inr ⟨_, rfl, notRejected⟩
    | ends early _ => rcases early with early | early <;> cases early
    | saves early _ => rcases early with early | early <;> cases early
  · rcases advanced.waits_or_holds with waiting | holds
    · cases waiting
    · cases holds

/-- A call that cannot be rejected stays so. -/
theorem irrevocable_step (consistent : Consistent loaded service)
    (steps : step service action = some next) (stored : service.calls[index]? = some call)
    (irrevocable : call.Irrevocable) :
    ∃ after : Call, next.calls[index]? = some after ∧ after.Irrevocable := by
  cases action with
  | call request =>
    obtain rfl := Option.some.inj steps
    refine ⟨call, ?_, irrevocable⟩
    exact (List.getElem?_append_left (List.getElem?_eq_some_iff.mp stored).1).trans stored
  | event target event =>
    obtain ⟨⟨request, phase⟩, served, saved, after, found, _, advances, rfl⟩ := step_event steps
    have advanced := advanced_of_advance (consistent.fine target ⟨request, phase⟩ found) advances
    by_cases here : index = target
    · subst here
      rw [found] at stored
      cases stored
      refine ⟨⟨request, after⟩, ?_, advanced.irrevocable irrevocable⟩
      exact List.getElem?_set_self (List.getElem?_eq_some_iff.mp found).1
    · refine ⟨call, ?_, irrevocable⟩
      exact (List.getElem?_set_ne (Ne.symm here)).trans stored

/-- A step of a call that is rejected in the end changes nothing. -/
theorem unchanged_of_rejected {final : ControlService} (consistent : Consistent loaded service)
    (steps : step service action = some next) (later : Machine.Reachable step next final)
    (stored : final.calls[action.caller service]? = some call) (rejected : call.Rejected) :
    next.served = service.served ∧ next.saved = service.saved := by
  cases action with
  | call request =>
    obtain rfl := Option.some.inj steps
    exact ⟨rfl, rfl⟩
  | event index event =>
    have nextConsistent := consistent_step service _ next consistent steps
    obtain ⟨⟨request, phase⟩, served, saved, after, found, _, advances, rfl⟩ := step_event steps
    have advanced := advanced_of_advance (consistent.fine index ⟨request, phase⟩ found) advances
    refine (irrevocable_of_advanced advanced).resolve_right fun irrevocable => ?_
    -- From here on the call is one that cannot be rejected.
    have forever := later.invariant (fun service => Consistent loaded service ∧
      ∃ call : Call, service.calls[index]? = some call ∧ call.Irrevocable)
      (fun before action following ⟨consistent, call, stored, irrevocable⟩ steps =>
        ⟨consistent_step before action following consistent steps,
          irrevocable_step consistent steps stored irrevocable⟩)
      ⟨nextConsistent, ⟨request, after⟩,
        List.getElem?_set_self (List.getElem?_eq_some_iff.mp found).1, irrevocable⟩
    obtain ⟨_, last, lastStored, lastIrrevocable⟩ := forever
    rw [show final.calls[index]? = some call from stored] at lastStored
    cases lastStored
    exact lastIrrevocable.not_rejected rejected

/-! ### Completions -/

/-- The call has returned. -/
def Call.Completed (call : Call) : Prop := ∃ reply, call.phase = .completed reply

/-- A call returns in the step from one state to the next. -/
def Completes (service next : ControlService) (index : Nat) : Prop :=
  (∃ call : Call, next.calls[index]? = some call ∧ call.Completed) ∧
    ¬ ∃ call : Call, service.calls[index]? = some call ∧ call.Completed

/-- When a call that waited for the lock returns, the file holds what is served. -/
theorem file_of_completes (consistent : Consistent loaded service)
    (steps : step service action = some next) (completes : Completes service next index) :
    next.saved.getD loaded = next.served ∨
      (service.calls[index]? = none ∧ AwaitsPublication next) := by
  obtain ⟨⟨call, nextStored, completed⟩, before⟩ := completes
  rcases (consistent_step service action next consistent steps).file with awaits | same
  · cases known : service.calls[index]? with
    | none => exact Or.inr ⟨rfl, awaits⟩
    | some old =>
      exfalso
      cases action with
      | call request =>
        obtain rfl := Option.some.inj steps
        have kept : (service.calls ++ _)[index]? = some call := nextStored
        rw [List.getElem?_append_left (List.getElem?_eq_some_iff.mp known).1, known] at kept
        cases kept
        exact before ⟨call, known, completed⟩
      | event target event =>
        obtain ⟨row, served, saved, phase, found, admitted, advances, rfl⟩ := step_event steps
        have advanced := advanced_of_advance (consistent.fine target row found) advances
        -- The call that returns is the one the event is about.
        have here : index = target := by
          by_contra elsewhere
          have kept : (service.calls.set target _)[index]? = some call := nextStored
          rw [List.getElem?_set_ne (Ne.symm elsewhere)] at kept
          exact before ⟨call, kept, completed⟩
        subst here
        obtain ⟨other, otherCall, candidate, otherStored, isWritten⟩ := awaits
        have rowNow : (service.calls.set index _)[other]? = some otherCall := otherStored
        by_cases same : other = index
        · subst same
          rw [show _ = some call from nextStored] at otherStored
          cases otherStored
          obtain ⟨reply, isCompleted⟩ := completed
          rw [isWritten] at isCompleted
          cases isCompleted
        · rw [List.getElem?_set_ne (Ne.symm same)] at rowNow
          have idle := consistent.others_idle found admitted advanced.waits_or_holds same rowNow
          rw [isWritten] at idle
          cases idle
  · exact Or.inl same

/-! ### Applications -/

/-- The step that applies a command finds its revision served and its candidate in the file. -/
theorem applied_of_step (consistent : Consistent loaded service)
    (steps : step service action = some next) {revision : Int}
    (stored : next.calls[index]? = some call) (applied : call.AppliedAt revision)
    (fresh : ¬ ∃ old : Call, service.calls[index]? = some old ∧ old.AppliedAt revision) :
    revision = service.served.revision ∧ next.served.revision = service.served.revision + 1 ∧
      service.saved = some next.served := by
  cases action with
  | call request =>
    obtain rfl := Option.some.inj steps
    rw [Table.getElem?_concat] at stored
    split at stored
    · cases stored
      obtain ⟨reply, completed, isApplied, id, expectedRevision, command, rfl, _⟩ := applied
      cases completed
    · exact absurd ⟨call, stored, applied⟩ fresh
  | event target event =>
    obtain ⟨⟨request, phase⟩, served, saved, after, found, _, advances, rfl⟩ := step_event steps
    have fine := consistent.fine target ⟨request, phase⟩ found
    rw [Table.getElem?_set found] at stored
    split at stored
    · cases stored
      exact Consistent.applied_of_advanced (advanced_of_advance fine advances) fine applied
    · exact absurd ⟨call, stored, applied⟩ fresh

/-! ### The compare-and-swap -/

/-- The compare-and-swap holds in every state that any order of calls, events and failures
reaches. A command that changes policy alone is applied at the revision served, raises it by one, and
is in the file before it is served; no two are applied at one revision; no step of a call that is
rejected in the end changes what is served or saved; and when a call returns, the file holds
what is served, unless the call was refused before it needed the lock while a finished save
waits to be published. -/
theorem compareAndSwap (loaded : PolicyState) (service : ControlService)
    (reachable : Machine.Reachable step (start loaded) service) :
    (∀ (action : Action) (next : ControlService) (index : Nat) (call : Call) (revision : Int),
      step service action = some next →
      next.calls[index]? = some call → call.AppliedAt revision →
      (¬ ∃ old : Call, service.calls[index]? = some old ∧ old.AppliedAt revision) →
      revision = service.served.revision ∧
        next.served.revision = service.served.revision + 1 ∧
        service.saved = some next.served) ∧
    (∀ (first second : Nat) (firstCall secondCall : Call) (revision : Int), first ≠ second →
      service.calls[first]? = some firstCall → service.calls[second]? = some secondCall →
      firstCall.AppliedAt revision → ¬ secondCall.AppliedAt revision) ∧
    (∀ (action : Action) (next final : ControlService) (call : Call),
      step service action = some next → Machine.Reachable step next final →
      final.calls[action.caller service]? = some call → call.Rejected →
      next.served = service.served ∧ next.saved = service.saved) ∧
    ∀ (action : Action) (next : ControlService) (index : Nat),
      step service action = some next → Completes service next index →
      next.saved.getD loaded = next.served ∨
        (service.calls[index]? = none ∧ AwaitsPublication next) := by
  have consistent := consistent_of_reachable reachable
  refine ⟨fun action next index call revision steps stored applied fresh => ?_,
    consistent.distinct,
    fun action next final call steps later stored rejected =>
      unchanged_of_rejected consistent steps later stored rejected,
    fun action next index steps completes => file_of_completes consistent steps completes⟩
  exact applied_of_step consistent steps stored applied fresh

/-! ### Two runs -/

/-- The policy loaded from an empty file. -/
def freshPolicy : PolicyState where
  paused := false
  profiles := Dict.empty
  deviceChoices := Dict.empty
  modelChoices := Dict.empty
  revision := 0

/-- A runtime that publishes nothing. -/
def bareEnvironment : ControlEnvironment where
  profileExists := none
  gpuDeviceIds := []
  profileModels := fun _ => []

/-- A command that pauses the runtime or lets it go on. -/
def pausing (id : String) (expectedRevision : Int) (value : Bool) : Request :=
  .command id (.integer expectedRevision) (.setPaused value)

/-- Two commands race for one revision, an adoption cannot be saved, and a third command is
applied. -/
def racingActions : List Action :=
  [.call (pausing "first" 0 true), .call (pausing "second" 0 false),
   .call (.adoption ["documents"] none), .event 0 (.locked bareEnvironment),
   .event 0 (.written true), .event 0 .resumed, .event 1 (.locked bareEnvironment),
   .event 2 (.locked bareEnvironment), .event 2 (.written false), .event 2 .resumed,
   .call (pausing "third" 1 false), .event 3 (.locked bareEnvironment), .event 3 (.written true)]

/-- The third command is published at the revision it expects, from what is in the file. -/
theorem compareAndSwap_racing :
    ∃ service next, Machine.run step (start freshPolicy) racingActions = some service ∧
      step service (.event 3 .resumed) = some next ∧ (1 : Int) = service.served.revision ∧
      next.served.revision = service.served.revision + 1 ∧ service.saved = some next.served := by
  have outcome : ((Machine.run step (start freshPolicy) racingActions).bind fun service =>
      (step service (.event 3 .resumed)).map fun next => (service.calls[3]?, next.calls[3]?)) =
      some (some ⟨pausing "third" 1 false, .written (freshPolicy.atRevision 2) true⟩,
        some ⟨pausing "third" 1 false,
          .completed (application (freshPolicy.atRevision 2) "third")⟩) := by decide +kernel
  obtain ⟨service, runs, stepped⟩ := Option.bind_eq_some_iff.mp outcome
  obtain ⟨next, steps, rows⟩ := Option.map_eq_some_iff.mp stepped
  obtain ⟨before, after⟩ := Prod.mk.inj rows
  refine ⟨service, next, runs, steps, ?_⟩
  refine (compareAndSwap freshPolicy service ⟨racingActions, runs⟩).1 _ next 3 _ 1 steps after
    ⟨_, rfl, rfl, _, _, _, rfl, rfl, rfl⟩ ?_
  rintro ⟨old, stored, reply, completed, _⟩
  rw [before] at stored
  cases stored
  cases completed

theorem served_by_changes_racing :
    ∃ (service : ControlService) (changes : List PolicyState.Change),
      Machine.run PolicyState.applyChange freshPolicy changes = some service.served ∧
        service.served.revision = changes.length ∧ service.calls.length = 4 := by
  obtain ⟨service, runs, calls⟩ := Machine.exists_run_of_any
    (show (Machine.run step (start freshPolicy) racingActions).any
      (fun service => decide (service.calls.length = 4)) = true by decide +kernel)
  obtain ⟨changes, made, counted⟩ := served_by_changes ⟨racingActions, runs⟩
  exact ⟨service, changes, made, counted.trans (Nat.zero_add _), of_decide_eq_true calls⟩

/-- A command is applied; the save of a second one is over when a text that is not JSON arrives. -/
def overtakenActions : List Action :=
  [.call (pausing "first" 0 true), .event 0 (.locked bareEnvironment), .event 0 (.written true),
   .event 0 .resumed, .call (pausing "second" 1 false), .event 1 (.locked bareEnvironment),
   .event 1 (.written true)]

/-- The call with that text returns while the file is ahead of what is served, and what is served
was not loaded. -/
theorem not_served_saved_or_loaded :
    ¬ ∀ (loaded : PolicyState) (service next : ControlService) (action : Action) (index : Nat),
      Machine.Reachable step (start loaded) service → step service action = some next →
      Completes service next index →
      next.saved = some next.served ∨ next.served = loaded := by
  intro claim
  have outcome : ((Machine.run step (start freshPolicy) overtakenActions).bind fun service =>
      (step service (.call .notJson)).map fun next =>
        (service.calls[2]?, next.calls[2]?, next.served, next.saved)) =
      some (none,
        some ⟨.notJson, .completed (rejection { freshPolicy with paused := true, revision := 1 }
          "invalid" "Command is not valid JSON")⟩,
        { freshPolicy with paused := true, revision := 1 },
        some { freshPolicy with revision := 2 }) := by decide +kernel
  obtain ⟨service, runs, stepped⟩ := Option.bind_eq_some_iff.mp outcome
  obtain ⟨next, steps, rows⟩ := Option.map_eq_some_iff.mp stepped
  simp only [Prod.mk.injEq] at rows
  obtain ⟨before, after, served, saved⟩ := rows
  have wrong := claim freshPolicy service next _ 2 ⟨overtakenActions, runs⟩ steps
    ⟨⟨_, after, _, rfl⟩, fun ⟨call, stored, _⟩ => by rw [before] at stored; cases stored⟩
  rw [served, saved] at wrong
  revert wrong
  decide +kernel

end ControlService

end Omnitensor
