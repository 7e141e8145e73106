/-
This file proves that the consent ledger is a linear history.

The commits of all processes form one sequence of events. The stored revision is their number, the
stored grants are what the events leave active when they are replayed in order, and the stored
audit is the newest of them. A call that commits read the state it changes under the lock of the
store, so it changes what the last commit left. The file is the text of the events as they were
committed: what a call reads may have other reasons, which have the same text.
-/

import Omnitensor.GrantProcesses

namespace Omnitensor

namespace GrantLedger

/-! ### What events leave active -/

/-- The provenance of each active permission of each plugin. -/
abbrev ActiveSet : Type := String → String → Option GrantProvenance

/-- What an event leaves active. -/
def replayEvent (set : ActiveSet) (event : GrantAuditEvent) : ActiveSet := fun pluginId permission =>
  if pluginId = event.pluginId ∧ permission = event.permission then
    match event.action with
    | .granted => some event.provenance
    | .revoked => none
  else set pluginId permission

/-- What events leave active, from none. -/
def replay (events : List GrantAuditEvent) : ActiveSet := events.foldl replayEvent fun _ _ => none

/-- The newest events, at most as many as the limit. -/
def newest (auditLimit : Nat) (events : List GrantAuditEvent) : List GrantAuditEvent :=
  events.drop (events.length - auditLimit)

/-- An event grants what was not active or revokes what was. -/
def Changes (set : ActiveSet) (event : GrantAuditEvent) : Prop :=
  (set event.pluginId event.permission).isSome = decide (event.action = .revoked)

theorem replay_concat (events : List GrantAuditEvent) (event : GrantAuditEvent) :
    replay (events ++ [event]) = replayEvent (replay events) event := List.foldl_concat _ _ _ _

theorem newest_concat {auditLimit : Nat} (positive : 1 ≤ auditLimit)
    (events : List GrantAuditEvent) (event : GrantAuditEvent) :
    newest auditLimit (newest auditLimit events ++ [event]) =
      newest auditLimit (events ++ [event]) := by
  simp only [newest, List.length_append, List.length_drop, List.length_singleton]
  rw [List.drop_append_of_le_length (by rw [List.length_drop]; omega),
    List.drop_append_of_le_length (by omega), List.drop_drop]
  congr 2
  omega

/-- The provenance of an active permission. -/
def provenanceOf (grants : ActiveGrants) : ActiveSet := fun pluginId permission =>
  (pluginGrants grants pluginId).get? permission

theorem active_eq_isSome (grants : ActiveGrants) (pluginId permission : String) :
    active grants pluginId permission = (provenanceOf grants pluginId permission).isSome := by
  rw [Bool.eq_iff_iff, active, Dict.contains_iff, Dict.mem_keys_iff, Option.isSome_iff_exists]
  rfl

theorem pluginGrants_set (grants : ActiveGrants) (pluginId other : String)
    (permissions : Dict String GrantProvenance) :
    pluginGrants (grants.set pluginId permissions) other =
      if other = pluginId then permissions else pluginGrants grants other := by
  rw [pluginGrants, Dict.get?_set]
  split <;> rfl

theorem pluginGrants_erase (grants : ActiveGrants) (pluginId other : String) :
    pluginGrants (grants.erase pluginId) other =
      if other = pluginId then Dict.empty else pluginGrants grants other := by
  rw [pluginGrants, Dict.get?_erase]
  split <;> rfl

theorem provenanceOf_withGrant (grants : ActiveGrants) (pluginId permission : String)
    (provenance : GrantProvenance) (other name : String) :
    provenanceOf (withGrant grants pluginId permission provenance) other name =
      if other = pluginId ∧ name = permission then some provenance
      else provenanceOf grants other name := by
  rw [provenanceOf, withGrant, pluginGrants_set]
  by_cases same : other = pluginId
  · subst same
    rw [if_pos rfl, Dict.get?_set]
    by_cases named : name = permission <;> simp [named, provenanceOf]
  · simp [same, provenanceOf]

theorem provenanceOf_withoutGrant (grants : ActiveGrants) (pluginId permission other name : String) :
    provenanceOf (withoutGrant grants pluginId permission) other name =
      if other = pluginId ∧ name = permission then none else provenanceOf grants other name := by
  have erased : (pluginGrants (withoutGrant grants pluginId permission) other).get? name =
      if other = pluginId then ((pluginGrants grants pluginId).erase permission).get? name
      else (pluginGrants grants other).get? name := by
    rw [withoutGrant]
    split
    · rename_i nothing
      rw [pluginGrants_erase]
      split
      · have none : (pluginGrants grants pluginId).erase permission = Dict.empty :=
          Dict.ext (List.length_eq_zero_iff.mp nothing)
        rw [none]
      · rfl
    · rw [pluginGrants_set]
      split <;> rfl
  rw [provenanceOf, erased]
  by_cases same : other = pluginId
  · subst same
    rw [if_pos rfl, Dict.get?_erase]
    by_cases named : name = permission <;> simp [named, provenanceOf]
  · simp [same, provenanceOf]

theorem provenanceOf_sortedGrants (grants : ActiveGrants) :
    provenanceOf (sortedGrants grants) = provenanceOf grants := by
  funext pluginId permission
  rw [provenanceOf, provenanceOf, pluginGrants, pluginGrants, sortedGrants, Dict.get?_mapValues,
    Dict.get?_sortBy]
  cases grants.get? pluginId with
  | none => rfl
  | some permissions => exact Dict.get?_sortBy keyOrder permissions permission

/-- The event of a request on a state. -/
def Request.event (request : Request) (state : GrantState) : GrantAuditEvent :=
  ⟨state.revision + 1, request.pluginId, request.permission, request.action, request.provenance⟩

/-- A request leaves active what its event leaves active. -/
theorem provenanceOf_apply (request : Request) (state : GrantState) :
    provenanceOf (request.apply state.grants) =
      replayEvent (provenanceOf state.grants) (request.event state) := by
  funext pluginId permission
  rw [Request.apply]
  cases action : request.action with
  | granted =>
    simp only [provenanceOf_withGrant, replayEvent, Request.event, action]
  | revoked =>
    simp only [provenanceOf_withoutGrant, replayEvent, Request.event, action]

/-- A request with its reason as it is read back. -/
def Request.read (request : Request) : Request :=
  { request with provenance := readProvenance request.provenance }

theorem pluginGrants_readGrants (grants : ActiveGrants) (pluginId : String) :
    pluginGrants (readGrants grants) pluginId =
      (pluginGrants grants pluginId).mapValues fun _ => readProvenance := by
  rw [pluginGrants, readGrants, Dict.get?_mapValues, pluginGrants]
  cases grants.get? pluginId <;> rfl

theorem readGrants_apply (request : Request) (grants : ActiveGrants) :
    readGrants (request.apply grants) = request.read.apply (readGrants grants) := by
  rw [Request.apply, Request.apply, Request.read]
  cases request.action with
  | granted =>
    show readGrants (withGrant _ _ _ _) = withGrant _ _ _ _
    rw [withGrant, withGrant, pluginGrants_readGrants, readGrants, Dict.mapValues_set,
      Dict.mapValues_set]
    rfl
  | revoked =>
    show readGrants (withoutGrant _ _ _) = withoutGrant _ _ _
    simp only [withoutGrant, pluginGrants_readGrants, ← Dict.mapValues_erase, Dict.size_mapValues]
    split
    · exact Dict.mapValues_erase _ _ _
    · exact Dict.mapValues_set _ _ _ _

/-- What is read back of a change is the change of what was read back. -/
theorem readState_changed (auditLimit : Nat) (state : GrantState) (request : Request) :
    readState (changed auditLimit state (request.apply state.grants) request.pluginId
        request.permission request.action request.provenance) =
      changed auditLimit (readState state) (request.read.apply (readState state).grants)
        request.pluginId request.permission request.action (readProvenance request.provenance) := by
  simp only [readState, changed, readGrants_apply, List.map_drop, List.map_append, List.length_append,
    List.length_map]
  rfl

theorem readState_sorted (state : GrantState) :
    readState (sorted state) = sorted (readState state) := by
  have grants : readGrants (sortedGrants state.grants) = sortedGrants (readGrants state.grants) := by
    simp only [readGrants, sortedGrants, sortedPluginGrants, ← Dict.mapValues_sortBy,
      Dict.mapValues_mapValues]
  rw [readState, sorted, sorted, readState, grants]

/-- What is read back asks for the same changes. -/
theorem idle_read (request : Request) (state : GrantState) :
    request.idle (sorted (readState state)).grants = request.idle state.grants := by
  have same (pluginId permission : String) :
      active (sorted (readState state)).grants pluginId permission =
        active state.grants pluginId permission := by
    rw [active_eq_isSome, active_eq_isSome, sorted, provenanceOf_sortedGrants, provenanceOf, readState,
      pluginGrants_readGrants, Dict.get?_mapValues, Option.isSome_map]
    rfl
  rw [Request.idle, Request.idle, same]

/-- A request that is not idle changes what is active. -/
theorem changes_of_not_idle {request : Request} {state : GrantState}
    (busy : request.idle state.grants = false) :
    Changes (provenanceOf state.grants) (request.event state) := by
  simp only [Request.idle, active_eq_isSome] at busy
  show (provenanceOf state.grants request.pluginId request.permission).isSome =
    decide (request.action = .revoked)
  cases action : request.action <;> simpa [action] using busy

end GrantLedger

namespace LedgerProcesses

open GrantLedger

/-! ### The history of a file -/

/-- How often a call committed. -/
def commitsOf (processes : LedgerProcesses) (index : Nat) : Nat :=
  processes.history.countP fun commit => decide (commit.call = index)

/-- How often a call may have committed when it is in a phase. A call that failed may have failed
after its commit. -/
def Counted (phase : LedgerPhase) (count : Nat) : Prop :=
  match phase with
  | .stampCommit | .returned true => count = 1
  | .failed => count ≤ 1
  | _ => count = 0

section

variable (Real : Type) [FloatText Real]

/-- The file holds what the history leaves. -/
structure Holds (auditLimit : Nat) (processes : LedgerProcesses) (stored : GrantState) : Prop where
  valid : ValidState ValidProvenance auditLimit stored
  file : processes.file = none ∧ stored = empty ∨ processes.file = some (storedText Real stored)
  revision : stored.revision = processes.stamp
  grants : provenanceOf stored.grants = replay processes.events
  audit : stored.audit = newest auditLimit processes.events

/-- The commits are a linear history of changes. -/
structure Linear (auditLimit : Nat) (processes : LedgerProcesses) : Prop where
  orderly : Orderly processes
  limits : ∀ (index : Nat) (ledger : Ledger), processes.ledgers[index]? = some ledger →
    ledger.bounds.auditLimit = auditLimit
  holds : ∃ stored, Holds Real auditLimit processes stored
  memory : ∀ (index : Nat) (call : LedgerCall) (ledger : Ledger),
    processes.calls[index]? = some call → processes.ledgers[call.ledger]? = some ledger →
    call.phase = .stamp ∨ call.phase = .mutate →
    decodeFile Real auditLimit processes.file = .ok ledger.memory
  counted : ∀ (index : Nat) (call : LedgerCall), processes.calls[index]? = some call →
    Counted call.phase (processes.commitsOf index)
  callers : ∀ commit ∈ processes.history, commit.call < processes.calls.length
  revisions : ∀ (index : Nat) (event : GrantAuditEvent), processes.events[index]? = some event →
    event.revision = index + 1
  changes : ∀ (before after : List GrantAuditEvent) (event : GrantAuditEvent),
    processes.events = before ++ event :: after → Changes (replay before) event

theorem linear_start (auditLimit : Nat) : Linear Real auditLimit (start none) where
  orderly := orderly_start none
  limits _ _ impossible := by cases impossible
  holds := ⟨empty, validState_empty _ _, Or.inl ⟨rfl, rfl⟩, rfl, rfl, List.drop_nil.symm⟩
  memory _ _ _ impossible := by cases impossible
  counted _ _ impossible := by cases impossible
  callers _ impossible := by cases impossible
  revisions _ _ impossible := by cases impossible
  changes before after event impossible := by
    cases before <;> cases impossible

end

section

variable {Real : Type} [FloatText Real] {auditLimit : Nat} {processes next : LedgerProcesses}

theorem Holds.decoded {stored : GrantState} (holds : Holds Real auditLimit processes stored) :
    decodeFile Real auditLimit processes.file = .ok (sorted (readState stored)) := by
  rcases holds.file with ⟨none, rfl⟩ | text
  · rw [none, sorted_readState_empty]
    rfl
  · rw [text]
    exact decodeFile_storedText holds.valid

theorem Holds.congr {stored : GrantState} (holds : Holds Real auditLimit processes stored)
    (file : next.file = processes.file) (history : next.history = processes.history) :
    Holds Real auditLimit next stored where
  valid := holds.valid
  file := by
    rw [file]
    exact holds.file
  revision := by
    rw [stamp, history]
    exact holds.revision
  grants := by
    rw [events, history]
    exact holds.grants
  audit := by
    rw [events, history]
    exact holds.audit

/-- A step that writes nothing keeps the history linear, if it keeps locks and what calls know. -/
theorem linear_of_unwritten (linear : Linear Real auditLimit processes) (orderly : Orderly next)
    (file : next.file = processes.file) (history : next.history = processes.history)
    (calls : processes.calls.length ≤ next.calls.length)
    (limits : ∀ (index : Nat) (ledger : Ledger), next.ledgers[index]? = some ledger →
      ledger.bounds.auditLimit = auditLimit)
    (memory : ∀ (index : Nat) (call : LedgerCall) (ledger : Ledger),
      next.calls[index]? = some call → next.ledgers[call.ledger]? = some ledger →
      call.phase = .stamp ∨ call.phase = .mutate →
      decodeFile Real auditLimit processes.file = .ok ledger.memory)
    (counted : ∀ (index : Nat) (call : LedgerCall), next.calls[index]? = some call →
      Counted call.phase (processes.commitsOf index)) :
    Linear Real auditLimit next where
  orderly := orderly
  limits := limits
  holds := linear.holds.imp fun _ holds => holds.congr file history
  memory := by
    rw [file]
    exact memory
  counted index call stored := by
    rw [commitsOf, history]
    exact counted index call stored
  callers := by
    rw [history]
    exact fun commit member => Nat.lt_of_lt_of_le (linear.callers commit member) calls
  revisions := by
    rw [events, history]
    exact linear.revisions
  changes := by
    rw [events, history]
    exact linear.changes

/-- The ledgers that are constructed have this audit limit. -/
def Action.within (auditLimit : Nat) : Action → Prop
  | .construct bounds => bounds.auditLimit = auditLimit
  | _ => True

theorem limits_step {action : Action} (within : action.within auditLimit)
    (limits : ∀ (index : Nat) (ledger : Ledger), processes.ledgers[index]? = some ledger →
      ledger.bounds.auditLimit = auditLimit)
    (steps : step Real processes action = some next) (index : Nat) (ledger : Ledger)
    (stored : next.ledgers[index]? = some ledger) : ledger.bounds.auditLimit = auditLimit := by
  have overwritten {place : Nat} {old new : Ledger}
      (found : processes.ledgers[place]? = some old) (same : new.bounds = old.bounds)
      (lookup : (processes.ledgers.set place new)[index]? = some ledger) :
      ledger.bounds.auditLimit = auditLimit := by
    rw [Table.getElem?_set found] at lookup
    split at lookup
    · obtain rfl := Option.some.inj lookup
      rw [same]
      exact limits place old found
    · exact limits index ledger lookup
  cases action with
  | construct bounds =>
    obtain rfl := Option.some.inj steps
    change (processes.ledgers ++ _)[index]? = some ledger at stored
    rw [Table.getElem?_concat] at stored
    split at stored
    · obtain rfl := Option.some.inj stored
      exact within
    · exact limits index ledger stored
  | constructRead place fault =>
    obtain ⟨old, found, rfl⟩ := Option.map_eq_some_iff.mp steps
    refine overwritten (ledgerIn_eq_some.mp found).1 ?_ stored
    rw [constructed]
    split <;> rfl
  | constructStamp place fault =>
    obtain ⟨old, found, rfl⟩ := Option.map_eq_some_iff.mp steps
    refine overwritten (ledgerIn_eq_some.mp found).1 ?_ stored
    rw [stamped]
    split <;> rfl
  | reload place =>
    obtain ⟨_, _, rfl⟩ := Option.map_eq_some_iff.mp steps
    exact limits index ledger stored
  | request place request =>
    obtain ⟨_, _, rfl⟩ := Option.map_eq_some_iff.mp steps
    exact limits index ledger stored
  | advance place fault =>
    obtain ⟨call, old, result, _, found, moves, rfl⟩ := moves_of_advance steps
    exact overwritten found moves.bounds stored

theorem linear_constructs (linear : Linear Real auditLimit processes)
    (constructs : Constructs Real processes next)
    (limits : ∀ (index : Nat) (ledger : Ledger), next.ledgers[index]? = some ledger →
      ledger.bounds.auditLimit = auditLimit) : Linear Real auditLimit next := by
  refine linear_of_unwritten linear (orderly_constructs linear.orderly constructs) constructs.file
    constructs.history (by rw [constructs.calls]) limits (fun index call ledger stored found phase => ?_)
    (by rw [constructs.calls]; exact linear.counted)
  rw [constructs.calls] at stored
  obtain ⟨old, oldFound, live⟩ := linear.orderly.live index call stored
  obtain rfl := Option.some.inj (found.symm.trans (constructs.live _ _ oldFound live))
  exact linear.memory index call ledger stored oldFound phase

theorem linear_begins {call : LedgerCall} (linear : Linear Real auditLimit processes)
    (begins : Begins processes next call) : Linear Real auditLimit next := by
  have orderly := orderly_begins linear.orderly begins
  obtain ⟨rfl, _, _, phase, _⟩ := begins
  refine linear_of_unwritten linear orderly rfl rfl ?_ linear.limits
    (fun index other ledger stored found active => ?_) (fun index other stored => ?_)
  · show _ ≤ (processes.calls ++ [call]).length
    rw [List.length_append]
    omega
  · change (processes.calls ++ [call])[index]? = some other at stored
    rw [Table.getElem?_concat] at stored
    split at stored
    · obtain rfl := Option.some.inj stored
      rcases phase with ⟨same, _⟩ | same | ⟨_, same⟩ <;> rw [same] at active <;>
        rcases active with impossible | impossible <;> cases impossible
    · exact linear.memory index other ledger stored found active
  · change (processes.calls ++ [call])[index]? = some other at stored
    rw [Table.getElem?_concat] at stored
    split at stored
    · rename_i same
      obtain rfl := Option.some.inj stored
      have none : processes.commitsOf index = 0 := by
        refine List.countP_eq_zero.mpr fun commit member => ?_
        have known := linear.callers commit member
        rw [decide_eq_true_eq]
        omega
      rw [none]
      rcases phase with ⟨same, _⟩ | same | ⟨_, same⟩ <;> rw [same] <;> rfl
    · exact linear.counted index other stored

section

variable {index : Nat} {call : LedgerCall} {ledger : Ledger} {fault : Bool} {result : Effect}

/-- What a move does to the count of the call's commits when it writes nothing. -/
theorem counted_of_moves {count : Nat} (moves : Moves Real processes call ledger fault result)
    (counted : Counted call.phase count) (unwritten : result.write = none) :
    Counted result.phase count := by
  cases moves with
  | failed at_ =>
    show count ≤ 1
    revert counted at_
    cases call.phase with
    | stampCommit => exact fun counted _ => Nat.le_of_eq counted
    | returned changed => exact fun _ active => by cases active
    | refused refusal => exact fun _ active => by cases active
    | failed => exact fun counted _ => counted
    | _ => exact fun counted _ => Nat.le_of_eq counted |>.trans (Nat.zero_le 1)
  | committed => cases unwritten
  | looked at_ | current at_ | outdated _ at_ | lockedState at_ | lockedStore at_ | loaded _ at_
  | unreadable _ at_ | reloaded at_ | reread at_ | refused at_ | unchanged at_ | finished at_ =>
    rw [at_] at counted
    exact counted

/-- A ledger that another call has read for is not changed meanwhile. -/
theorem ledgers_take_of_holdsState (orderly : Orderly processes)
    (stored : processes.calls[index]? = some call)
    (found : processes.ledgers[call.ledger]? = some ledger)
    (moves : Moves Real processes call ledger fault result) {other : Nat} {otherCall : LedgerCall}
    (otherStored : processes.calls[other]? = some otherCall) (different : other ≠ index)
    (holds : otherCall.phase.holdsState = true) :
    (processes.take index call result).ledgers[otherCall.ledger]? =
      processes.ledgers[otherCall.ledger]? := by
  rw [ledgers_take found]
  split
  · rename_i same
    rcases moves.ledger_eq with unchanged | holding
    · rw [unchanged, same, found]
    · exact absurd (orderly.state _ _ _ _ otherStored stored same holds holding) different
  · rfl

theorem linear_take_unwritten (linear : Linear Real auditLimit processes)
    (stored : processes.calls[index]? = some call)
    (found : processes.ledgers[call.ledger]? = some ledger)
    (moves : Moves Real processes call ledger fault result) (unwritten : result.write = none) :
    Linear Real auditLimit (processes.take index call result) := by
  have file : (processes.take index call result).file = processes.file := by
    rw [take, unwritten]
  have history : (processes.take index call result).history = processes.history := by
    rw [take, unwritten]
  refine linear_of_unwritten linear (orderly_take linear.orderly stored found moves) file history
    (by rw [take, List.length_set]) ?_ (fun other otherCall otherLedger otherStored otherFound phase => ?_)
    (fun other otherCall otherStored => ?_)
  · intro place other lookup
    rw [ledgers_take found] at lookup
    split at lookup
    · obtain rfl := Option.some.inj lookup
      rw [moves.bounds]
      exact linear.limits _ _ found
    · exact linear.limits _ _ lookup
  · rw [calls_take stored] at otherStored
    split at otherStored
    · obtain rfl := Option.some.inj otherStored
      rw [ledgers_take found, if_pos rfl] at otherFound
      obtain rfl := Option.some.inj otherFound
      cases moves with
      | loaded state at_ readable =>
        rw [← linear.limits _ _ found]
        exact decodeFile_of_load readable
      | reread at_ => exact linear.memory index call ledger stored found (Or.inl at_)
      | _ => rcases phase with impossible | impossible <;> cases impossible
    · rename_i different
      have holds : otherCall.phase.holdsState = true := by
        rcases phase with same | same <;> rw [same] <;> rfl
      rw [ledgers_take_of_holdsState linear.orderly stored found moves otherStored different
        holds] at otherFound
      exact linear.memory other otherCall otherLedger otherStored otherFound phase
  · rw [calls_take stored] at otherStored
    split at otherStored
    · rename_i same
      subst same
      obtain rfl := Option.some.inj otherStored
      exact counted_of_moves moves (linear.counted other call stored) unwritten
    · exact linear.counted other otherCall otherStored

/-- A commit of a request on what was read leaves the text of its change of what is stored. -/
theorem holds_take_committed {before : GrantState} (holds : Holds Real auditLimit processes before)
    (positive : 1 ≤ auditLimit) {request : GrantLedger.Request} (accepted : request.validate = .ok ())
    {result : Effect} {state : GrantState} (read : state = sorted (readState before))
    (writes : result.write = some (storedText Real (changed auditLimit state
      (request.apply state.grants) request.pluginId request.permission request.action
      request.provenance), request.event state)) :
    Holds Real auditLimit (processes.take index call result) (changed auditLimit (sorted before)
      (request.apply (sorted before).grants) request.pluginId request.permission request.action
      request.provenance) := by
  subst read
  have history : (processes.take index call result).history =
      processes.history ++ [⟨processes.file, index, request.event before⟩] := by
    rw [take, writes]
    rfl
  have events : (processes.take index call result).events =
      processes.events ++ [request.event before] := by
    rw [events, history, List.map_append]
    rfl
  refine ⟨validState_changed (validState_sorted holds.valid) accepted
    (Request.valid_of_validate accepted).2.2, Or.inr ?_, ?_, ?_, ?_⟩
  · have file : (processes.take index call result).file = some (storedText Real (changed auditLimit
        (sorted (readState before)) (request.apply (sorted (readState before)).grants)
        request.pluginId request.permission request.action request.provenance)) := by
      rw [take, writes]
    have again : readState (sorted (readState before)) = readState (sorted before) := by
      rw [readState_sorted, readState_of_whole holds.valid.read, readState_sorted]
    rw [file, ← storedText_readState, readState_changed, again, ← readState_changed,
      storedText_readState]
  · rw [stamp, history, List.length_append]
    exact congrArg (· + 1) holds.revision
  · rw [events, replay_concat, ← holds.grants]
    have applied := provenanceOf_apply request (sorted before)
    rw [show (sorted before).grants = sortedGrants before.grants from rfl,
      provenanceOf_sortedGrants] at applied
    exact applied
  · rw [events, ← newest_concat positive, ← holds.audit]
    rfl

theorem linear_take_committed (linear : Linear Real auditLimit processes)
    (stored : processes.calls[index]? = some call)
    (found : processes.ledgers[call.ledger]? = some ledger) (at_ : call.phase = .mutate)
    {request : GrantLedger.Request} (requests : call.request = some request) {next : GrantState}
    {text : List Char}
    (executed : request.execute Real ledger.bounds ledger.memory = .ok (some (next, text))) :
    Linear Real auditLimit (processes.take index call
      ⟨.stampCommit, { ledger with memory := next }, some (text, request.event ledger.memory)⟩) := by
  have written : Moves Real processes call ledger false _ :=
    .committed at_ request requests next text executed rfl
  obtain ⟨same, rfl, _⟩ := Request.execute_committed executed
  have event : (⟨next.revision, request.pluginId, request.permission, request.action,
      request.provenance⟩ : GrantAuditEvent) = request.event ledger.memory := by rw [same]; rfl
  rw [event] at written
  have limit := linear.limits _ _ found
  have read := linear.memory index call ledger stored found (Or.inr at_)
  obtain ⟨before, holds⟩ := linear.holds
  have decoded := Except.ok.inj (read.symm.trans holds.decoded)
  have revision : ledger.memory.revision = processes.stamp := by
    rw [decoded]
    exact holds.revision
  have accepted := linear.orderly.checked index call request stored requests (by rw [at_]; rfl)
  rw [limit] at same
  have count : processes.commitsOf index = 0 := by
    have counted := linear.counted index call stored
    rw [at_] at counted
    exact counted
  refine ⟨orderly_take linear.orderly stored found written, ?_, ⟨_, holds_take_committed holds
    (limit ▸ ledger.bounds.auditLimitPositive) accepted decoded (by rw [same])⟩, ?_, ?_, ?_, ?_, ?_⟩
  · intro place other lookup
    rw [ledgers_take found] at lookup
    split at lookup
    · obtain rfl := Option.some.inj lookup
      exact limit
    · exact linear.limits _ _ lookup
  · intro other otherCall otherLedger otherStored otherFound phase
    rw [calls_take stored] at otherStored
    split at otherStored
    · obtain rfl := Option.some.inj otherStored
      rcases phase with impossible | impossible <;> cases impossible
    · rename_i different
      have otherHolds : otherCall.phase.holdsStore = true := by
        rcases phase with same | same <;> rw [same] <;> rfl
      exact absurd (linear.orderly.store _ _ _ _ otherStored stored otherHolds
        (holdsStore_of_mutate at_)) different
  · intro other otherCall otherStored
    rw [calls_take stored] at otherStored
    have grown : (processes.take index call ⟨.stampCommit, { ledger with memory := next },
        some (storedText Real next, request.event ledger.memory)⟩).commitsOf other =
          processes.commitsOf other + if index = other then 1 else 0 := by
      show (processes.history ++ [_]).countP _ = _
      rw [List.countP_append, List.countP_singleton]
      simp [commitsOf]
    rw [grown]
    split at otherStored
    · rename_i same
      subst same
      obtain rfl := Option.some.inj otherStored
      rw [if_pos rfl, count]
      rfl
    · rename_i different
      rw [if_neg (Ne.symm different)]
      exact linear.counted other otherCall otherStored
  · intro commit member
    have bound : index < processes.calls.length := (List.getElem?_eq_some_iff.mp stored).1
    rw [take, List.length_set]
    rcases List.mem_append.mp member with earlier | new
    · exact linear.callers commit earlier
    · rw [List.mem_singleton] at new
      rw [new]
      exact bound
  · intro place other lookup
    change ((processes.history ++ [_]).map LedgerCommit.event)[place]? = some other at lookup
    rw [List.map_append, List.map_singleton, Table.getElem?_concat, List.length_map] at lookup
    split at lookup
    · rename_i last
      obtain rfl := Option.some.inj lookup
      rw [last]
      exact congrArg (· + 1) revision
    · exact linear.revisions place other lookup
  · intro earlier later other split
    change (processes.history ++ [_]).map LedgerCommit.event = _ at split
    rw [List.map_append, List.map_singleton] at split
    rcases List.eq_nil_or_concat later with rfl | ⟨between, last, rfl⟩
    · obtain ⟨rfl, single⟩ := List.append_inj' split rfl
      obtain rfl := (List.cons.inj single).1
      change Changes (replay processes.events) _
      have busy := Request.busy_of_execute executed
      rw [decoded, idle_read] at busy
      rw [← holds.grants, decoded]
      exact changes_of_not_idle busy
    · rw [List.concat_eq_append, ← List.cons_append, ← List.append_assoc] at split
      obtain ⟨same, _⟩ := List.append_inj' split rfl
      exact linear.changes earlier between other same

end

/-- Every step keeps the history linear. -/
theorem linear_step {action : Action} (linear : Linear Real auditLimit processes)
    (within : action.within auditLimit) (steps : step Real processes action = some next) :
    Linear Real auditLimit next := by
  rcases step_cases steps with ⟨_, constructs⟩ | ⟨_, call, begins⟩ |
    ⟨index, fault, call, ledger, result, _, stored, found, moves, rfl⟩
  · exact linear_constructs linear constructs (limits_step within linear.limits steps)
  · exact linear_begins linear begins
  · have kept := moves
    cases moves with
    | committed at_ request requests next text executed written =>
      have event : (⟨next.revision, request.pluginId, request.permission, request.action,
          request.provenance⟩ : GrantAuditEvent) = request.event ledger.memory := by
        rw [(Request.execute_committed executed).1]
        rfl
      rw [event]
      exact linear_take_committed linear stored found at_ requests executed
    | _ => exact linear_take_unwritten linear stored found kept rfl

/-- A step leaves the file alone, or it is the commit of the call that takes it. -/
theorem step_file {action : Action} (steps : step Real processes action = some next) :
    (next.file = processes.file ∧ next.history = processes.history) ∨
      ∃ index event, action = .advance index false ∧
        next.history = processes.history ++ [⟨processes.file, index, event⟩] := by
  rcases step_cases steps with ⟨_, constructs⟩ | ⟨_, call, begins⟩ |
    ⟨index, fault, call, ledger, result, rfl, stored, found, moves, rfl⟩
  · exact Or.inl ⟨constructs.file, constructs.history⟩
  · rw [begins.next]
    exact Or.inl ⟨rfl, rfl⟩
  · cases moves with
    | committed at_ request requests next text executed written =>
      exact Or.inr ⟨index, _, by rw [written], rfl⟩
    | _ => exact Or.inl ⟨rfl, rfl⟩

/-- The ledgers of a file make one linear history. The file is the text of what the events of all
commits leave, and decodes to what is read back of it; each event changes what was active; a call that changed commits once, and one that was
refused or had nothing to change not at all; and nothing but a commit changes the file. -/
theorem linear_history {actions : List Action}
    (within : ∀ action ∈ actions, action.within auditLimit)
    (runs : Machine.run (step Real) (start none) actions = some processes) :
    (∃ stored, (processes.file = none ∧ stored = empty ∨
        processes.file = some (storedText Real stored)) ∧
      decodeFile Real auditLimit processes.file = .ok (sorted (readState stored)) ∧
      stored.revision = processes.history.length ∧
      provenanceOf stored.grants = replay processes.events ∧
      stored.audit = newest auditLimit processes.events) ∧
    (∀ (index : Nat) (event : GrantAuditEvent), processes.events[index]? = some event →
      event.revision = index + 1) ∧
    (∀ (before after : List GrantAuditEvent) (event : GrantAuditEvent),
      processes.events = before ++ event :: after → Changes (replay before) event) ∧
    (∀ (index : Nat) (call : LedgerCall), processes.calls[index]? = some call →
      Counted call.phase (processes.commitsOf index)) ∧
    ∀ action next, step Real processes action = some next →
      (next.file = processes.file ∧ next.history = processes.history) ∨
        ∃ index event, action = .advance index false ∧
          next.history = processes.history ++ [⟨processes.file, index, event⟩] := by
  have throughout : Machine.Throughout (step Real) (fun _ action => action.within auditLimit)
      (start none) actions := Machine.throughout_of_forall within
  have linear : Linear Real auditLimit processes :=
    Machine.invariant_run_throughout (Linear Real auditLimit)
      (fun _ _ _ linear within steps => linear_step linear within steps)
      (linear_start Real auditLimit) throughout runs
  obtain ⟨stored, holds⟩ := linear.holds
  exact ⟨⟨stored, holds.file, holds.decoded, holds.revision, holds.grants, holds.audit⟩, linear.revisions,
    linear.changes, linear.counted, fun _ _ => step_file⟩

/-- A ledger grants a permission and another one, constructed before, revokes it. -/
def exampleActions : List Action :=
  [.construct exampleBounds, .constructRead 0 false, .constructStamp 0 false,
    .construct exampleBounds, .constructRead 1 false, .constructStamp 1 false,
    .request 0 exampleRequest] ++ List.replicate 6 (.advance 0 false) ++
  [.request 1 { exampleRequest with action := .revoked, expectedRevision := 1 }] ++
    List.replicate 6 (.advance 1 false)

theorem linear_history_revoked :
    ∃ processes, Machine.run (step ExactDecimal) (start none) exampleActions = some processes ∧
      processes.stamp = 2 ∧
      ∃ stored, (processes.file = none ∧ stored = empty ∨
          processes.file = some (storedText ExactDecimal stored)) ∧
        decodeFile ExactDecimal exampleBounds.auditLimit processes.file =
          .ok (sorted (readState stored)) ∧
        stored.revision = processes.history.length ∧
        provenanceOf stored.grants = replay processes.events ∧
        stored.audit = newest exampleBounds.auditLimit processes.events := by
  have outcome : (Machine.run (step ExactDecimal) (start none) exampleActions).map stamp =
      some 2 := by decide +kernel
  obtain ⟨processes, runs, two⟩ := Option.map_eq_some_iff.mp outcome
  have within : ∀ action ∈ exampleActions, action.within exampleBounds.auditLimit := by
    simp [exampleActions, Action.within]
  exact ⟨processes, runs, two, (linear_history within runs).1⟩

end

end LedgerProcesses

end Omnitensor
