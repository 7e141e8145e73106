/-
This file models ledgers of several processes over one file, with their calls interleaved.

A step is one operation on the file, or taking a lock. A ledger's state lock is held by at most one
of its calls and the lock of the store by at most one call of any ledger; both are held from before
the file is read until the call ends. The constructor and the first look of a reload hold neither.
Reading forgets what the ledger knew before, and nobody sees the memory of a ledger while its state
lock is held; a commit sets the memory in the step that replaces the file, because no operation
lies between the two.

Every file operation may fail. No two documents that are committed have the same stamp, so the
stamp of a file is the number of times it was replaced. Commits are remembered in order, each with
what it replaced, the call it belongs to and its event.
-/

import Omnitensor.GrantRoundTrip
import Omnitensor.Table

namespace Omnitensor

/-! ### Ledgers and calls -/

/-- How far the constructor of a ledger is: it reads the file, takes its stamp and returns, or it
raises. -/
inductive LedgerStatus where
  | reading
  | stamping
  | live
  | unusable
  deriving DecidableEq

/-- A ledger of some process. -/
structure Ledger where
  bounds : GrantBounds
  status : LedgerStatus
  memory : GrantState
  sourceStamp : Nat
  deriving DecidableEq

/-- What a call does next, or how it ended. -/
inductive LedgerPhase where
  /-- A reload takes the stamp of the file. -/
  | checkStamp
  /-- It compares this stamp with the ledger's, under the state lock. -/
  | compare (stamp : Nat)
  | awaitState
  | awaitStore
  | read
  | stamp
  | mutate
  | stampCommit
  | returned (changed : Bool)
  | refused (refusal : GrantError)
  /-- A file operation raised. -/
  | failed
  deriving DecidableEq

namespace LedgerPhase

/-- The call holds the store lock. -/
def holdsStore : LedgerPhase → Bool
  | .read | .stamp | .mutate | .stampCommit => true
  | _ => false

/-- The call holds the state lock of its ledger. -/
def holdsState : LedgerPhase → Bool
  | .awaitStore | .read | .stamp | .mutate | .stampCommit => true
  | _ => false

/-- The call has not ended. -/
def active : LedgerPhase → Bool
  | .returned _ | .refused _ | .failed => false
  | _ => true

end LedgerPhase

/-- A call on a ledger: a reload, or the request of a `grant` or `revoke`. -/
structure LedgerCall where
  ledger : Nat
  request : Option GrantLedger.Request
  /-- The stamp of the file when the call began. -/
  begun : Nat
  phase : LedgerPhase
  deriving DecidableEq

/-- A commit that happened. -/
structure LedgerCommit where
  replaced : Option (List Char)
  call : Nat
  event : GrantAuditEvent
  deriving DecidableEq

/-- The file with all its ledgers and calls. -/
structure LedgerProcesses where
  file : Option (List Char)
  /-- The commits so far, the first one first. -/
  history : List LedgerCommit
  ledgers : List Ledger
  calls : List LedgerCall
  deriving DecidableEq

namespace LedgerProcesses

open GrantLedger

/-- Nobody has opened the file yet. -/
def start (file : Option (List Char)) : LedgerProcesses := ⟨file, [], [], []⟩

/-- The stamp of the file. -/
def stamp (processes : LedgerProcesses) : Nat := processes.history.length

/-- What the file has held, by its stamp. -/
def versions (processes : LedgerProcesses) : List (Option (List Char)) :=
  processes.history.map LedgerCommit.replaced ++ [processes.file]

/-- The events of the commits. -/
def events (processes : LedgerProcesses) : List GrantAuditEvent :=
  processes.history.map LedgerCommit.event

/-- No call holds the store lock. -/
def storeFree (processes : LedgerProcesses) : Bool :=
  processes.calls.all fun call => !call.phase.holdsStore

/-- No call holds the state lock of a ledger. -/
def stateFree (processes : LedgerProcesses) (ledger : Nat) : Bool :=
  processes.calls.all fun call => !(decide (call.ledger = ledger) && call.phase.holdsState)

/-- What one step of a call comes to: where the call is then, its ledger, and what is written. -/
structure Effect where
  phase : LedgerPhase
  ledger : Ledger
  write : Option (List Char × GrantAuditEvent)

section

variable (Real : Type) [FloatText Real]

/-- The next step of a call, if it is not blocked. A fault is a file operation that raises. -/
def effect (processes : LedgerProcesses) (call : LedgerCall) (ledger : Ledger) (fault : Bool) :
    Option Effect :=
  match call.phase with
  | .checkStamp => some ⟨if fault then .failed else .compare processes.stamp, ledger, none⟩
  | .compare stamp =>
    if processes.stateFree call.ledger then
      some ⟨if stamp = ledger.sourceStamp then .returned false else .awaitState, ledger, none⟩
    else none
  | .awaitState =>
    if processes.stateFree call.ledger then some ⟨.awaitStore, ledger, none⟩ else none
  | .awaitStore =>
    if fault then some ⟨.failed, ledger, none⟩
    else if processes.storeFree then some ⟨.read, ledger, none⟩
    else none
  | .read =>
    match if fault then .error .unreadable else load Real ledger.bounds processes.file with
    | .ok loaded => some ⟨.stamp, { ledger with memory := loaded }, none⟩
    -- The memory was cleared before the read.
    | .error refusal => some ⟨.refused refusal, { ledger with memory := empty }, none⟩
  | .stamp =>
    if fault then some ⟨.failed, ledger, none⟩
    else
      some ⟨if call.request.isSome then .mutate else .returned false,
        { ledger with sourceStamp := processes.stamp }, none⟩
  | .mutate =>
    match call.request with
    | none => none
    | some request =>
      match request.execute Real ledger.bounds ledger.memory with
      | .error refusal => some ⟨.refused refusal, ledger, none⟩
      | .ok none => some ⟨.returned false, ledger, none⟩
      | .ok (some (next, text)) =>
        if fault then some ⟨.failed, ledger, none⟩
        else
          some ⟨.stampCommit, { ledger with memory := next }, some (text,
            ⟨next.revision, request.pluginId, request.permission, request.action,
              request.provenance⟩)⟩
  | .stampCommit =>
    if fault then some ⟨.failed, ledger, none⟩
    else some ⟨.returned true, { ledger with sourceStamp := processes.stamp }, none⟩
  | .returned _ | .refused _ | .failed => none

end

/-- The state after a step of a call. -/
def take (processes : LedgerProcesses) (index : Nat) (call : LedgerCall) (effect : Effect) :
    LedgerProcesses where
  file :=
    match effect.write with
    | some (text, _) => some text
    | none => processes.file
  history :=
    match effect.write with
    | some (_, event) => processes.history ++ [⟨processes.file, index, event⟩]
    | none => processes.history
  ledgers := processes.ledgers.set call.ledger effect.ledger
  calls := processes.calls.set index { call with phase := effect.phase }

/-- Something a process does. -/
inductive Action where
  /-- A constructor begins. -/
  | construct (bounds : GrantBounds)
  /-- A constructor reads the file. -/
  | constructRead (ledger : Nat) (fault : Bool)
  /-- A constructor takes the stamp of the file and returns. -/
  | constructStamp (ledger : Nat) (fault : Bool)
  /-- A reload begins. -/
  | reload (ledger : Nat)
  /-- A `grant` or `revoke` begins, checking its arguments. -/
  | request (ledger : Nat) (request : GrantLedger.Request)
  /-- A call takes its next step. -/
  | advance (call : Nat) (fault : Bool)
  deriving DecidableEq

section

variable (Real : Type) [FloatText Real]

/-- The ledger after its constructor read the file. -/
def constructed (ledger : Ledger) (file : Option (List Char)) (fault : Bool) : Ledger :=
  match if fault then .error .unreadable else load Real ledger.bounds file with
  | .ok loaded => { ledger with status := .stamping, memory := loaded }
  | .error _ => { ledger with status := .unusable }

/-- The ledger after its constructor took the stamp of the file. -/
def stamped (ledger : Ledger) (stamp : Nat) (fault : Bool) : Ledger :=
  if fault then { ledger with status := .unusable }
  else { ledger with status := .live, sourceStamp := stamp }

/-- A ledger with this status. -/
def ledgerIn (processes : LedgerProcesses) (index : Nat) (status : LedgerStatus) : Option Ledger :=
  (processes.ledgers[index]?).filter fun ledger => decide (ledger.status = status)

/-- One step of one process. -/
def step (processes : LedgerProcesses) : Action → Option LedgerProcesses
  | .construct bounds =>
    some { processes with ledgers := processes.ledgers ++ [⟨bounds, .reading, empty, 0⟩] }
  | .constructRead index fault =>
    (processes.ledgerIn index .reading).map fun ledger =>
      { processes with
        ledgers := processes.ledgers.set index (constructed Real ledger processes.file fault) }
  | .constructStamp index fault =>
    (processes.ledgerIn index .stamping).map fun ledger =>
      { processes with
        ledgers := processes.ledgers.set index (stamped ledger processes.stamp fault) }
  | .reload index =>
    (processes.ledgerIn index .live).map fun _ =>
      { processes with
        calls := processes.calls ++ [⟨index, none, processes.stamp, .checkStamp⟩] }
  | .request index request =>
    (processes.ledgerIn index .live).map fun _ =>
      { processes with
        calls := processes.calls ++ [⟨index, some request, processes.stamp,
          match request.validate with
          | .ok _ => .awaitState
          | .error refusal => .refused refusal⟩] }
  | .advance index fault =>
    match processes.calls[index]? with
    | none => none
    | some call =>
      match processes.ledgers[call.ledger]? with
      | none => none
      | some ledger =>
        (effect Real processes call ledger fault).map fun effect => processes.take index call effect

end

/-! ### What a step of a call does -/

section

variable (Real : Type) [FloatText Real]

/-- The steps of a call, one by one. -/
inductive Moves (processes : LedgerProcesses) (call : LedgerCall) (ledger : Ledger) (fault : Bool) :
    Effect → Prop
  | failed (at_ : call.phase.active = true) (elsewhere : call.phase ≠ .read) (raised : fault = true) :
    Moves processes call ledger fault ⟨.failed, ledger, none⟩
  | looked (at_ : call.phase = .checkStamp) :
    Moves processes call ledger fault ⟨.compare processes.stamp, ledger, none⟩
  | current (at_ : call.phase = .compare ledger.sourceStamp) :
    Moves processes call ledger fault ⟨.returned false, ledger, none⟩
  | outdated (stamp : Nat) (at_ : call.phase = .compare stamp) :
    Moves processes call ledger fault ⟨.awaitState, ledger, none⟩
  | lockedState (at_ : call.phase = .awaitState) (free : processes.stateFree call.ledger = true) :
    Moves processes call ledger fault ⟨.awaitStore, ledger, none⟩
  | lockedStore (at_ : call.phase = .awaitStore) (free : processes.storeFree = true) :
    Moves processes call ledger fault ⟨.read, ledger, none⟩
  | loaded (state : GrantState) (at_ : call.phase = .read)
      (readable : load Real ledger.bounds processes.file = .ok state) :
    Moves processes call ledger fault ⟨.stamp, { ledger with memory := state }, none⟩
  | unreadable (refusal : GrantError) (at_ : call.phase = .read)
      (cause : fault = true ∨ load Real ledger.bounds processes.file = .error refusal) :
    Moves processes call ledger fault ⟨.refused refusal, { ledger with memory := empty }, none⟩
  | reloaded (at_ : call.phase = .stamp) (reloads : call.request = none) :
    Moves processes call ledger fault
      ⟨.returned false, { ledger with sourceStamp := processes.stamp }, none⟩
  | reread (at_ : call.phase = .stamp) (request : GrantLedger.Request) (requests : call.request = some request) :
    Moves processes call ledger fault ⟨.mutate, { ledger with sourceStamp := processes.stamp }, none⟩
  | refused (at_ : call.phase = .mutate) (request : GrantLedger.Request) (requests : call.request = some request)
      (refusal : GrantError)
      (executed : request.execute Real ledger.bounds ledger.memory = .error refusal) :
    Moves processes call ledger fault ⟨.refused refusal, ledger, none⟩
  | unchanged (at_ : call.phase = .mutate) (request : GrantLedger.Request)
      (requests : call.request = some request)
      (executed : request.execute Real ledger.bounds ledger.memory = .ok none) :
    Moves processes call ledger fault ⟨.returned false, ledger, none⟩
  | committed (at_ : call.phase = .mutate) (request : GrantLedger.Request)
      (requests : call.request = some request) (next : GrantState) (text : List Char)
      (executed : request.execute Real ledger.bounds ledger.memory = .ok (some (next, text)))
      (written : fault = false) :
    Moves processes call ledger fault
      ⟨.stampCommit, { ledger with memory := next }, some (text, ⟨next.revision, request.pluginId,
        request.permission, request.action, request.provenance⟩)⟩
  | finished (at_ : call.phase = .stampCommit) :
    Moves processes call ledger fault
      ⟨.returned true, { ledger with sourceStamp := processes.stamp }, none⟩

variable {Real}

theorem moves_of_effect {processes : LedgerProcesses} {call : LedgerCall} {ledger : Ledger}
    {fault : Bool} {result : Effect}
    (takes : effect Real processes call ledger fault = some result) :
    Moves Real processes call ledger fault result := by
  rw [effect] at takes
  split at takes
  · rename_i phase
    obtain rfl := Option.some.inj takes
    cases fault with
    | true => exact .failed (by rw [phase]; rfl) (by rw [phase]; exact nofun) rfl
    | false => exact .looked phase
  · rename_i stamp phase
    split at takes
    · obtain rfl := Option.some.inj takes
      split
      · rename_i same
        exact .current (same ▸ phase)
      · exact .outdated stamp phase
    · cases takes
  · rename_i phase
    split at takes
    · rename_i free
      obtain rfl := Option.some.inj takes
      exact .lockedState phase free
    · cases takes
  · rename_i phase
    split at takes
    · rename_i raised
      obtain rfl := Option.some.inj takes
      exact .failed (by rw [phase]; rfl) (by rw [phase]; exact nofun) raised
    · split at takes
      · rename_i free
        obtain rfl := Option.some.inj takes
        exact .lockedStore phase free
      · cases takes
  · rename_i phase
    cases fault with
    | true =>
      obtain rfl := Option.some.inj takes
      exact .unreadable _ phase (Or.inl rfl)
    | false =>
      rw [if_neg Bool.false_ne_true] at takes
      split at takes
      · rename_i state readable
        obtain rfl := Option.some.inj takes
        exact .loaded state phase readable
      · rename_i refusal unreadable
        obtain rfl := Option.some.inj takes
        exact .unreadable refusal phase (Or.inr unreadable)
  · rename_i phase
    split at takes
    · rename_i raised
      obtain rfl := Option.some.inj takes
      exact .failed (by rw [phase]; rfl) (by rw [phase]; exact nofun) raised
    · obtain rfl := Option.some.inj takes
      cases requests : call.request with
      | none => exact .reloaded phase requests
      | some request => exact .reread phase request requests
  · rename_i phase
    split at takes
    · cases takes
    · rename_i request requests
      split at takes
      · rename_i refusal executed
        obtain rfl := Option.some.inj takes
        exact .refused phase request requests refusal executed
      · rename_i executed
        obtain rfl := Option.some.inj takes
        exact .unchanged phase request requests executed
      · rename_i next text executed
        split at takes
        · rename_i raised
          obtain rfl := Option.some.inj takes
          exact .failed (by rw [phase]; rfl) (by rw [phase]; exact nofun) raised
        · rename_i written
          obtain rfl := Option.some.inj takes
          exact .committed phase request requests next text executed (by simpa using written)
  · rename_i phase
    split at takes
    · rename_i raised
      obtain rfl := Option.some.inj takes
      exact .failed (by rw [phase]; rfl) (by rw [phase]; exact nofun) raised
    · obtain rfl := Option.some.inj takes
      exact .finished phase
  all_goals cases takes

/-- A step of a call is one of the moves of the call. -/
theorem moves_of_advance {processes next : LedgerProcesses} {index : Nat} {fault : Bool}
    (steps : step Real processes (.advance index fault) = some next) :
    ∃ call ledger result, processes.calls[index]? = some call ∧
      processes.ledgers[call.ledger]? = some ledger ∧
      Moves Real processes call ledger fault result ∧ next = processes.take index call result := by
  rw [step] at steps
  split at steps
  · cases steps
  · rename_i call stored
    split at steps
    · cases steps
    · rename_i ledger found
      obtain ⟨result, takes, rfl⟩ := Option.map_eq_some_iff.mp steps
      exact ⟨call, ledger, result, stored, found, moves_of_effect takes, rfl⟩

section

variable {processes : LedgerProcesses} {call : LedgerCall} {ledger : Ledger} {fault : Bool}
  {result : Effect}

theorem Moves.active (moves : Moves Real processes call ledger fault result) :
    call.phase.active = true := by
  cases moves with
  | failed at_ => exact at_
  | _ => simp only [*, LedgerPhase.active]

theorem Moves.status (moves : Moves Real processes call ledger fault result) :
    result.ledger.status = ledger.status := by
  cases moves <;> rfl

theorem Moves.bounds (moves : Moves Real processes call ledger fault result) :
    result.ledger.bounds = ledger.bounds := by
  cases moves <;> rfl

theorem Moves.holdsStore (moves : Moves Real processes call ledger fault result)
    (holds : result.phase.holdsStore = true) :
    call.phase.holdsStore = true ∨ processes.storeFree = true := by
  cases moves with
  | lockedStore at_ free => exact Or.inr free
  | loaded state at_ => exact Or.inl (by rw [at_]; rfl)
  | reread at_ => exact Or.inl (by rw [at_]; rfl)
  | committed at_ => exact Or.inl (by rw [at_]; rfl)
  | _ => cases holds

theorem Moves.holdsState (moves : Moves Real processes call ledger fault result)
    (holds : result.phase.holdsState = true) :
    call.phase.holdsState = true ∨ processes.stateFree call.ledger = true := by
  cases moves with
  | lockedState at_ free => exact Or.inr free
  | lockedStore at_ => exact Or.inl (by rw [at_]; rfl)
  | loaded state at_ => exact Or.inl (by rw [at_]; rfl)
  | reread at_ => exact Or.inl (by rw [at_]; rfl)
  | committed at_ => exact Or.inl (by rw [at_]; rfl)
  | _ => cases holds

/-- A ledger changes only in the hands of a call that holds its state lock. -/
theorem Moves.ledger_eq (moves : Moves Real processes call ledger fault result) :
    result.ledger = ledger ∨ call.phase.holdsState = true := by
  cases moves with
  | loaded state at_ => exact Or.inr (by rw [at_]; rfl)
  | unreadable refusal at_ => exact Or.inr (by rw [at_]; rfl)
  | reloaded at_ => exact Or.inr (by rw [at_]; rfl)
  | reread at_ => exact Or.inr (by rw [at_]; rfl)
  | committed at_ => exact Or.inr (by rw [at_]; rfl)
  | finished at_ => exact Or.inr (by rw [at_]; rfl)
  | _ => exact Or.inl rfl

/-- The file is written only in the hands of a call that holds the store lock. -/
theorem Moves.write_eq (moves : Moves Real processes call ledger fault result) :
    result.write = none ∨ call.phase = .mutate := by
  cases moves with
  | committed at_ => exact Or.inr at_
  | _ => exact Or.inl rfl

end

end

/-! ### Locks -/

theorem holdsStore_of_mutate {phase : LedgerPhase} (mutates : phase = .mutate) :
    phase.holdsStore = true := by
  rw [mutates]
  rfl

section

variable {processes : LedgerProcesses} {index : Nat} {call : LedgerCall} {result : Effect}

theorem calls_take (stored : processes.calls[index]? = some call) (other : Nat) :
    (processes.take index call result).calls[other]? =
      if other = index then some { call with phase := result.phase } else processes.calls[other]? :=
  Table.getElem?_set stored _ other

theorem ledgers_take {ledger : Ledger} (found : processes.ledgers[call.ledger]? = some ledger)
    (other : Nat) :
    (processes.take index call result).ledgers[other]? =
      if other = call.ledger then some result.ledger else processes.ledgers[other]? :=
  Table.getElem?_set found _ other

theorem not_holdsStore_of_storeFree (free : processes.storeFree = true)
    (stored : processes.calls[index]? = some call) : call.phase.holdsStore = false := by
  have member := List.mem_iff_getElem?.mpr ⟨index, stored⟩
  simpa using List.all_eq_true.mp free call member

theorem not_holdsState_of_stateFree {ledger : Nat} (free : processes.stateFree ledger = true)
    (stored : processes.calls[index]? = some call) (same : call.ledger = ledger) :
    call.phase.holdsState = false := by
  have member := List.mem_iff_getElem?.mpr ⟨index, stored⟩
  simpa [same] using List.all_eq_true.mp free call member

end

/-- What the locks and the checks of arguments establish. -/
structure Orderly (processes : LedgerProcesses) : Prop where
  store : ∀ (first second : Nat) (firstCall secondCall : LedgerCall), processes.calls[first]? = some firstCall →
    processes.calls[second]? = some secondCall → firstCall.phase.holdsStore = true →
    secondCall.phase.holdsStore = true → first = second
  state : ∀ (first second : Nat) (firstCall secondCall : LedgerCall), processes.calls[first]? = some firstCall →
    processes.calls[second]? = some secondCall → firstCall.ledger = secondCall.ledger →
    firstCall.phase.holdsState = true → secondCall.phase.holdsState = true → first = second
  live : ∀ (index : Nat) (call : LedgerCall), processes.calls[index]? = some call →
    ∃ ledger, processes.ledgers[call.ledger]? = some ledger ∧ ledger.status = .live
  checked : ∀ (index : Nat) (call : LedgerCall) (request : GrantLedger.Request), processes.calls[index]? = some call →
    call.request = some request → call.phase.active = true → request.validate = .ok ()

theorem orderly_start (file : Option (List Char)) : Orderly (start file) where
  store _ _ _ _ impossible := by cases impossible
  state _ _ _ _ impossible := by cases impossible
  live _ _ impossible := by cases impossible
  checked _ _ _ impossible := by cases impossible

section

variable (Real : Type) [FloatText Real]

/-- How a constructor leaves its ledger. -/
inductive Builds (processes : LedgerProcesses) (old : Option Ledger) (ledger : Ledger) : Prop
  | early (status : ledger.status = .reading ∨ ledger.status = .unusable)
  | read (status : ledger.status = .stamping)
      (readable : load Real ledger.bounds processes.file = .ok ledger.memory)
  | stamped (before : Ledger) (stored : old = some before) (stamping : before.status = .stamping)
      (same : ledger = { before with status := .live, sourceStamp := processes.stamp })

/-- A constructor changes ledgers that are not live yet, and nothing else. -/
structure Constructs (processes next : LedgerProcesses) : Prop where
  file : next.file = processes.file
  history : next.history = processes.history
  calls : next.calls = processes.calls
  live : ∀ (index : Nat) (ledger : Ledger), processes.ledgers[index]? = some ledger →
    ledger.status = .live → next.ledgers[index]? = some ledger
  builds : ∀ (index : Nat) (ledger : Ledger), next.ledgers[index]? = some ledger →
    processes.ledgers[index]? = some ledger ∨
      Builds Real processes (processes.ledgers[index]?) ledger

end

/-- A call begins on a live ledger, after its arguments were checked. -/
structure Begins (processes next : LedgerProcesses) (call : LedgerCall) : Prop where
  next : next = { processes with calls := processes.calls ++ [call] }
  live : ∃ ledger, processes.ledgers[call.ledger]? = some ledger ∧ ledger.status = .live
  begun : call.begun = processes.stamp
  phase : (call.phase = .checkStamp ∧ call.request = none) ∨ call.phase = .awaitState ∨
    ∃ refusal, call.phase = .refused refusal
  checked : ∀ request, call.request = some request → call.phase.active = true →
    request.validate = .ok ()

theorem ledgerIn_eq_some {processes : LedgerProcesses} {index : Nat} {status : LedgerStatus}
    {ledger : Ledger} : processes.ledgerIn index status = some ledger ↔
      processes.ledgers[index]? = some ledger ∧ ledger.status = status := by
  rw [ledgerIn, Option.filter_eq_some_iff, decide_eq_true_iff]

section

variable {Real : Type} [FloatText Real]

variable {processes next : LedgerProcesses} {call : LedgerCall} {index : Nat}

theorem constructs_set {ledger new : Ledger} (stored : processes.ledgers[index]? = some ledger)
    (early : ledger.status ≠ .live) (builds : Builds Real processes (some ledger) new) :
    Constructs Real processes { processes with ledgers := processes.ledgers.set index new } where
  file := rfl
  history := rfl
  calls := rfl
  live other kept found live := by
    show (processes.ledgers.set index new)[other]? = some kept
    rw [Table.getElem?_set stored, if_neg, found]
    rintro rfl
    rw [stored] at found
    obtain rfl := Option.some.inj found
    exact early live
  builds other kept found := by
    change (processes.ledgers.set index new)[other]? = some kept at found
    rw [Table.getElem?_set stored] at found
    split at found
    · rename_i same
      obtain rfl := Option.some.inj found
      rw [same, stored]
      exact Or.inr builds
    · exact Or.inl found

/-- A step is one of a constructor, the beginning of a call or a move of a call. -/
theorem step_cases {action : Action} (steps : step Real processes action = some next) :
    ((∀ index fault, action ≠ .advance index fault) ∧ Constructs Real processes next) ∨
      ((∀ index fault, action ≠ .advance index fault) ∧ ∃ call, Begins processes next call) ∨
      ∃ index fault call ledger result, action = .advance index fault ∧
        processes.calls[index]? = some call ∧ processes.ledgers[call.ledger]? = some ledger ∧
        Moves Real processes call ledger fault result ∧
        next = processes.take index call result := by
  cases action with
  | construct bounds =>
    obtain rfl := Option.some.inj steps
    refine Or.inl ⟨nofun, rfl, rfl, rfl, fun index ledger stored _ => ?_, fun index ledger stored => ?_⟩
    · show (processes.ledgers ++ _)[index]? = some ledger
      rw [List.getElem?_append_left (List.getElem?_eq_some_iff.mp stored).1, stored]
    · change (processes.ledgers ++ _)[index]? = some ledger at stored
      rw [Table.getElem?_concat] at stored
      split at stored
      · obtain rfl := Option.some.inj stored
        exact Or.inr (.early (Or.inl rfl))
      · exact Or.inl stored
  | constructRead index fault =>
    obtain ⟨ledger, found, rfl⟩ := Option.map_eq_some_iff.mp steps
    obtain ⟨stored, reading⟩ := ledgerIn_eq_some.mp found
    refine Or.inl ⟨nofun, constructs_set stored (by rw [reading]; exact nofun) ?_⟩
    rw [constructed]
    cases fault with
    | true => exact .early (Or.inr rfl)
    | false =>
      rw [if_neg Bool.false_ne_true]
      split
      · rename_i loaded
        exact .read rfl loaded
      · exact .early (Or.inr rfl)
  | constructStamp index fault =>
    obtain ⟨ledger, found, rfl⟩ := Option.map_eq_some_iff.mp steps
    obtain ⟨stored, stamping⟩ := ledgerIn_eq_some.mp found
    refine Or.inl ⟨nofun, constructs_set stored (by rw [stamping]; exact nofun) ?_⟩
    rw [stamped]
    split
    · exact .early (Or.inr rfl)
    · exact .stamped ledger rfl stamping rfl
  | reload index =>
    obtain ⟨ledger, found, rfl⟩ := Option.map_eq_some_iff.mp steps
    exact Or.inr (Or.inl ⟨nofun, _, rfl, ⟨ledger, ledgerIn_eq_some.mp found⟩, rfl,
      Or.inl ⟨rfl, rfl⟩, fun _ impossible => by cases impossible⟩)
  | request index request =>
    obtain ⟨ledger, found, rfl⟩ := Option.map_eq_some_iff.mp steps
    refine Or.inr (Or.inl ⟨nofun, _, rfl, ⟨ledger, ledgerIn_eq_some.mp found⟩, rfl, Or.inr ?_,
      fun asked same active => ?_⟩)
    · cases request.validate with
      | ok _ => exact Or.inl rfl
      | error refusal => exact Or.inr ⟨refusal, rfl⟩
    · obtain rfl := Option.some.inj same
      cases validated : request.validate with
      | ok _ => rfl
      | error refusal => simp [validated, LedgerPhase.active] at active
  | advance index fault =>
    obtain ⟨call, ledger, result, stored, found, moves, rfl⟩ := moves_of_advance steps
    exact Or.inr (Or.inr ⟨index, fault, call, ledger, result, rfl, stored, found, moves, rfl⟩)

theorem orderly_constructs (orderly : Orderly processes)
    (constructs : Constructs Real processes next) : Orderly next where
  store := by
    rw [constructs.calls]
    exact orderly.store
  state := by
    rw [constructs.calls]
    exact orderly.state
  live index call stored := by
    rw [constructs.calls] at stored
    obtain ⟨ledger, found, live⟩ := orderly.live index call stored
    exact ⟨ledger, constructs.live _ _ found live, live⟩
  checked := by
    rw [constructs.calls]
    exact orderly.checked

/-- A call that is just begun holds no lock. -/
theorem Begins.not_holdsState (begins : Begins processes next call) :
    call.phase.holdsState = false := by
  rcases begins.phase with ⟨same, _⟩ | same | ⟨refusal, same⟩ <;> rw [same] <;> rfl

theorem Begins.not_holdsStore (begins : Begins processes next call) :
    call.phase.holdsStore = false := by
  rcases begins.phase with ⟨same, _⟩ | same | ⟨refusal, same⟩ <;> rw [same] <;> rfl

/-- The calls after one has begun. -/
theorem Begins.calls (begins : Begins processes next call) {other : LedgerCall}
    (stored : next.calls[index]? = some other) :
    other = call ∨ processes.calls[index]? = some other := by
  rw [begins.next] at stored
  change (processes.calls ++ [call])[index]? = some other at stored
  rw [Table.getElem?_concat] at stored
  split at stored
  · exact Or.inl (Option.some.inj stored).symm
  · exact Or.inr stored

theorem orderly_begins (orderly : Orderly processes) (begins : Begins processes next call) :
    Orderly next where
  store first second firstCall secondCall firstStored secondStored firstHolds secondHolds := by
    rcases begins.calls firstStored with rfl | firstOld
    · rw [begins.not_holdsStore] at firstHolds
      cases firstHolds
    rcases begins.calls secondStored with rfl | secondOld
    · rw [begins.not_holdsStore] at secondHolds
      cases secondHolds
    exact orderly.store _ _ _ _ firstOld secondOld firstHolds secondHolds
  state first second firstCall secondCall firstStored secondStored same firstHolds secondHolds := by
    rcases begins.calls firstStored with rfl | firstOld
    · rw [begins.not_holdsState] at firstHolds
      cases firstHolds
    rcases begins.calls secondStored with rfl | secondOld
    · rw [begins.not_holdsState] at secondHolds
      cases secondHolds
    exact orderly.state _ _ _ _ firstOld secondOld same firstHolds secondHolds
  live index other stored := by
    have ledgers : next.ledgers = processes.ledgers := by rw [begins.next]
    rw [ledgers]
    rcases begins.calls stored with rfl | old
    · exact begins.live
    · exact orderly.live index other old
  checked index other request stored requests active := by
    rcases begins.calls stored with rfl | old
    · exact begins.checked request requests active
    · exact orderly.checked index other request old requests active

theorem orderly_take {ledger : Ledger} {fault : Bool} {result : Effect}
    (orderly : Orderly processes) (stored : processes.calls[index]? = some call)
    (found : processes.ledgers[call.ledger]? = some ledger)
    (moves : Moves Real processes call ledger fault result) :
    Orderly (processes.take index call result) where
  store first second firstCall secondCall firstStored secondStored firstHolds secondHolds := by
    refine Table.alone_set
      (fun one other => one.phase.holdsStore = true ∧ other.phase.holdsStore = true)
      (fun _ _ => And.symm)
      (fun _ _ _ _ one other both => orderly.store _ _ _ _ one other both.1 both.2) stored
      (fun other otherCall otherStored both => ?_) firstStored secondStored ⟨firstHolds, secondHolds⟩
    rcases moves.holdsStore both.2 with before | free
    · exact orderly.store _ _ _ _ otherStored stored both.1 before
    · exact absurd both.1 (by rw [not_holdsStore_of_storeFree free otherStored]; exact Bool.false_ne_true)
  state first second firstCall secondCall firstStored secondStored same firstHolds secondHolds := by
    refine Table.alone_set
      (fun one other => one.ledger = other.ledger ∧ one.phase.holdsState = true ∧
        other.phase.holdsState = true)
      (fun _ _ both => ⟨both.1.symm, both.2.symm⟩)
      (fun _ _ _ _ one other both => orderly.state _ _ _ _ one other both.1 both.2.1 both.2.2) stored
      (fun other otherCall otherStored both => ?_) firstStored secondStored
      ⟨same, firstHolds, secondHolds⟩
    rcases moves.holdsState both.2.2 with before | free
    · exact orderly.state _ _ _ _ otherStored stored both.1 both.2.1 before
    · exact absurd both.2.1
        (by rw [not_holdsState_of_stateFree free otherStored both.1]; exact Bool.false_ne_true)
  live other otherCall otherStored := by
    rw [calls_take stored] at otherStored
    have kept (number : Nat) (old : Ledger) (oldFound : processes.ledgers[number]? = some old)
        (live : old.status = .live) : ∃ new,
          (processes.take index call result).ledgers[number]? = some new ∧ new.status = .live := by
      rw [ledgers_take found]
      split
      · rename_i same
        rw [same, found] at oldFound
        obtain rfl := Option.some.inj oldFound
        exact ⟨_, rfl, moves.status.trans live⟩
      · exact ⟨old, oldFound, live⟩
    split at otherStored
    · obtain rfl := Option.some.inj otherStored
      obtain ⟨old, oldFound, live⟩ := orderly.live index call stored
      exact kept _ old oldFound live
    · obtain ⟨old, oldFound, live⟩ := orderly.live other otherCall otherStored
      exact kept _ old oldFound live
  checked other otherCall request otherStored requests active := by
    rw [calls_take stored] at otherStored
    split at otherStored
    · obtain rfl := Option.some.inj otherStored
      exact orderly.checked index call request stored requests moves.active
    · exact orderly.checked other otherCall request otherStored requests active

end

end LedgerProcesses

end Omnitensor
