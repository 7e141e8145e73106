/-
This file proves when a ledger that believes it is current is current.

A ledger keeps the stamp of the file it last read or wrote. Memory and stamp are taken in two
steps, so the two agree only if nothing comes between them. Two things can: another process may
commit after a constructor has read the file and before it takes the stamp, and a read under the
locks may fail after it has forgotten what the ledger knew. They also differ after a commit whose
reason is not read back as it is. In a run without any of these, a ledger whose stamp is that of the
file holds what the file holds, and a reload that returns leaves nothing that was withdrawn before it
began.
-/

import Omnitensor.GrantHistory

namespace Omnitensor

namespace LedgerProcesses

open GrantLedger

section

variable (Real : Type) [FloatText Real]

/-! ### Undisturbed runs -/

/-- A step of a call replaces the file. -/
def writes (call : LedgerCall) (ledger : Ledger) (fault : Bool) : Bool :=
  decide (call.phase = .mutate) && !fault && call.request.any fun request =>
    match request.execute Real ledger.bounds ledger.memory with
    | .ok (some _) => true
    | _ => false

/-- The reason a call gives holds no character as its two halves. -/
def givesWhole (call : LedgerCall) : Bool :=
  call.request.all fun request => decide (Json.Whole request.provenance.reason)

/-- A step does not replace the file between the two looks of a constructor or with a reason that is
not read back as it is, and is not the failing read of a ledger whose stamp is that of the file. -/
def undisturbed (processes : LedgerProcesses) : Action → Bool
  | .advance index fault =>
    match processes.calls[index]? with
    | none => true
    | some call =>
      match processes.ledgers[call.ledger]? with
      | none => true
      | some ledger =>
        !(writes Real call ledger fault && (!givesWhole call ||
            processes.ledgers.any fun other => decide (other.status = .stamping))) &&
          !(decide (call.phase = .read) && fault &&
            decide (ledger.sourceStamp = processes.stamp))
  | _ => true

/-! ### What ledgers know -/

/-- A ledger holds in memory what it would read from a file. -/
def Reflects (ledger : Ledger) (file : Option (List Char)) : Prop :=
  ∃ decoded, load Real ledger.bounds file = .ok decoded ∧ SameState ledger.memory decoded

/-- A ledger holds in memory what the file has held at some time since it had a stamp. -/
def Seen (processes : LedgerProcesses) (ledger : Ledger) (since : Nat) : Prop :=
  ∃ place version, since ≤ place ∧ processes.versions[place]? = some version ∧
    Reflects Real ledger version

/-- What a ledger knows is at least as new as its stamp; it may have forgotten what it knew before
the last commit. -/
def Known (processes : LedgerProcesses) (ledger : Ledger) : Prop :=
  Seen Real processes ledger ledger.sourceStamp ∨
    (ledger.memory = empty ∧ ledger.sourceStamp < processes.stamp)

/-- What a ledger knows is newer than a stamp, if it knows anything. -/
def Recent (processes : LedgerProcesses) (ledger : Ledger) (since : Nat) : Prop :=
  Seen Real processes ledger since ∨ ledger.memory = empty

/-- What a call has established about its ledger. -/
def Established (processes : LedgerProcesses) (call : LedgerCall) (ledger : Ledger) : Prop :=
  match call.phase with
  | .compare stamp => call.begun ≤ stamp
  | .stamp | .mutate => load Real ledger.bounds processes.file = .ok ledger.memory
  | .stampCommit => Reflects Real ledger processes.file
  | .returned _ => call.request = none → Recent Real processes ledger call.begun
  | _ => True

/-- What ledgers know in an undisturbed run. -/
structure Fresh (processes : LedgerProcesses) : Prop where
  orderly : Orderly processes
  known : ∀ (index : Nat) (ledger : Ledger), processes.ledgers[index]? = some ledger →
    ledger.status = .live → Known Real processes ledger
  constructing : ∀ (index : Nat) (ledger : Ledger), processes.ledgers[index]? = some ledger →
    ledger.status = .stamping → load Real ledger.bounds processes.file = .ok ledger.memory
  begun : ∀ (index : Nat) (call : LedgerCall), processes.calls[index]? = some call →
    call.begun ≤ processes.stamp
  established : ∀ (index : Nat) (call : LedgerCall) (ledger : Ledger),
    processes.calls[index]? = some call → processes.ledgers[call.ledger]? = some ledger →
    Established Real processes call ledger

theorem fresh_start (file : Option (List Char)) : Fresh Real (start file) where
  orderly := orderly_start file
  known _ _ impossible := by cases impossible
  constructing _ _ impossible := by cases impossible
  begun _ _ impossible := by cases impossible
  established _ _ _ impossible := by cases impossible

end

section

variable {Real : Type} [FloatText Real] {processes next : LedgerProcesses} {ledger : Ledger}

theorem versions_stamp (processes : LedgerProcesses) :
    processes.versions[processes.stamp]? = some processes.file := by
  rw [versions, Table.getElem?_concat, List.length_map]
  exact if_pos rfl

theorem le_stamp_of_version {place : Nat} {version : Option (List Char)}
    (found : processes.versions[place]? = some version) : place ≤ processes.stamp := by
  have bound := (List.getElem?_eq_some_iff.mp found).1
  rw [versions, List.length_append, List.length_map, List.length_singleton] at bound
  exact Nat.le_of_lt_succ bound

theorem reflects_of_load {file : Option (List Char)}
    (loaded : load Real ledger.bounds file = .ok ledger.memory) : Reflects Real ledger file :=
  ⟨ledger.memory, loaded, SameState.refl ledger.memory⟩

theorem Reflects.congr {other : Ledger} {file : Option (List Char)}
    (reflects : Reflects Real ledger file) (bounds : other.bounds = ledger.bounds)
    (memory : other.memory = ledger.memory) : Reflects Real other file := by
  rw [Reflects, bounds, memory]
  exact reflects

theorem Reflects.seen (reflects : Reflects Real ledger processes.file) {since : Nat}
    (before : since ≤ processes.stamp) : Seen Real processes ledger since :=
  ⟨processes.stamp, processes.file, before, versions_stamp processes, reflects⟩

theorem Seen.congr {since : Nat} {other : Ledger} (seen : Seen Real processes ledger since)
    (bounds : other.bounds = ledger.bounds) (memory : other.memory = ledger.memory) :
    Seen Real processes other since := by
  obtain ⟨place, version, later, found, reflects⟩ := seen
  exact ⟨place, version, later, found, reflects.congr bounds memory⟩

theorem Seen.since {since earlier : Nat} (seen : Seen Real processes ledger since)
    (before : earlier ≤ since) : Seen Real processes ledger earlier := by
  obtain ⟨place, version, later, rest⟩ := seen
  exact ⟨place, version, Nat.le_trans before later, rest⟩

/-- The file keeps the versions it has had. -/
structure Extends (processes next : LedgerProcesses) : Prop where
  stamp : processes.stamp ≤ next.stamp
  versions : ∀ (place : Nat) (version : Option (List Char)),
    processes.versions[place]? = some version → next.versions[place]? = some version

theorem extends_of_unwritten (file : next.file = processes.file)
    (history : next.history = processes.history) : Extends processes next where
  stamp := by rw [stamp, stamp, history]
  versions place version found := by
    rw [versions, history, file]
    exact found

theorem extends_take (processes : LedgerProcesses) (index : Nat) (call : LedgerCall)
    (result : Effect) : Extends processes (processes.take index call result) := by
  cases written : result.write with
  | none => exact extends_of_unwritten (by rw [take, written]) (by rw [take, written])
  | some write =>
    have history : (processes.take index call result).history =
        processes.history ++ [⟨processes.file, index, write.2⟩] := by rw [take, written]
    refine ⟨?_, fun place version found => ?_⟩
    · rw [stamp, stamp, history, List.length_append]
      omega
    · have kept : (processes.take index call result).versions =
          processes.versions ++ [(processes.take index call result).file] := by
        rw [versions, history, List.map_append]
        rfl
      rw [kept, List.getElem?_append_left (List.getElem?_eq_some_iff.mp found).1, found]

theorem Seen.extends {since : Nat} (seen : Seen Real processes ledger since)
    (grows : Extends processes next) : Seen Real next ledger since := by
  obtain ⟨place, version, later, found, reflects⟩ := seen
  exact ⟨place, version, later, grows.versions place version found, reflects⟩

theorem Known.extends (known : Known Real processes ledger) (grows : Extends processes next) :
    Known Real next ledger :=
  known.imp (fun seen => seen.extends grows)
    fun forgotten => ⟨forgotten.1, Nat.lt_of_lt_of_le forgotten.2 grows.stamp⟩

theorem Known.le_stamp (known : Known Real processes ledger) :
    ledger.sourceStamp ≤ processes.stamp := by
  rcases known with ⟨place, version, later, found, _⟩ | ⟨_, before⟩
  · exact Nat.le_trans later (le_stamp_of_version found)
  · exact Nat.le_of_lt before

/-- A ledger that knows the file by its stamp holds what the file holds. -/
theorem Known.reflects (known : Known Real processes ledger)
    (current : ledger.sourceStamp = processes.stamp) : Reflects Real ledger processes.file := by
  rcases known with ⟨place, version, later, found, reflects⟩ | ⟨_, before⟩
  · have last : place = processes.stamp :=
      Nat.le_antisymm (le_stamp_of_version found) (current ▸ later)
    rw [last, versions_stamp] at found
    exact Option.some.inj found ▸ reflects
  · exact absurd current (Nat.ne_of_lt before)

theorem Recent.extends {since : Nat} (recent : Recent Real processes ledger since)
    (grows : Extends processes next) : Recent Real next ledger since :=
  recent.imp_left fun seen => seen.extends grows

/-! ### Steps -/

/-- What a call has established stays while the file and its ledger do, or it is the file that grew
and the call only looks back. -/
theorem established_of_unwritten {call : LedgerCall} (file : next.file = processes.file)
    (history : next.history = processes.history)
    (established : Established Real processes call ledger) : Established Real next call ledger := by
  have grows := extends_of_unwritten file history
  unfold Established at established ⊢
  rw [file]
  split at established <;> first
    | exact established
    | exact fun reloads => (established reloads).extends grows

theorem fresh_constructs (fresh : Fresh Real processes)
    (constructs : Constructs Real processes next) : Fresh Real next where
  orderly := orderly_constructs fresh.orderly constructs
  known index ledger found live := by
    have grows := extends_of_unwritten constructs.file constructs.history
    rcases constructs.builds index ledger found with old | builds
    · exact (fresh.known index ledger old live).extends grows
    · cases builds with
      | early status =>
        rw [live] at status
        rcases status with impossible | impossible <;> cases impossible
      | read status =>
        rw [live] at status
        cases status
      | stamped before stored stamping same =>
        subst same
        have reflects := reflects_of_load (fresh.constructing index before stored stamping)
        have seen := reflects.seen (Nat.le_refl processes.stamp)
        exact Or.inl ((seen.congr rfl rfl).extends grows)
  constructing index ledger found stamping := by
    rw [constructs.file]
    rcases constructs.builds index ledger found with old | builds
    · exact fresh.constructing index ledger old stamping
    · cases builds with
      | early status =>
        rw [stamping] at status
        rcases status with impossible | impossible <;> cases impossible
      | read _ readable => exact readable
      | stamped before stored _ same =>
        rw [same] at stamping
        cases stamping
  begun index call stored := by
    rw [constructs.calls] at stored
    rw [stamp, constructs.history]
    exact fresh.begun index call stored
  established index call ledger stored found := by
    rw [constructs.calls] at stored
    obtain ⟨old, oldFound, live⟩ := fresh.orderly.live index call stored
    obtain rfl := Option.some.inj (found.symm.trans (constructs.live _ _ oldFound live))
    exact established_of_unwritten constructs.file constructs.history
      (fresh.established index call ledger stored oldFound)

theorem fresh_begins {call : LedgerCall} (fresh : Fresh Real processes)
    (begins : Begins processes next call) : Fresh Real next := by
  have orderly := orderly_begins fresh.orderly begins
  have calls {index : Nat} {other : LedgerCall} (stored : next.calls[index]? = some other) :=
    begins.calls stored
  obtain ⟨rfl, _, begun, phase, _⟩ := begins
  refine ⟨orderly, fresh.known, fresh.constructing, fun index other stored => ?_,
    fun index other ledger stored found => ?_⟩
  · rcases calls stored with rfl | old
    · exact Nat.le_of_eq begun
    · exact fresh.begun index other old
  · rcases calls stored with rfl | old
    · rcases phase with ⟨same, _⟩ | same | ⟨_, same⟩ <;> rw [Established, same] <;> trivial
    · exact fresh.established index other ledger old found

section

variable {index : Nat} {call : LedgerCall} {fault : Bool} {result : Effect}

/-- What a ledger holds after a commit is what it would read from the file. -/
theorem reflects_committed (fresh : Fresh Real processes)
    (stored : processes.calls[index]? = some call) (at_ : call.phase = .mutate)
    {request : GrantLedger.Request} (requests : call.request = some request) {written : GrantState}
    {text : List Char} (readable : load Real ledger.bounds processes.file = .ok ledger.memory)
    (executed : request.execute Real ledger.bounds ledger.memory = .ok (some (written, text)))
    (whole : givesWhole call = true) : Reflects Real { ledger with memory := written } (some text) := by
  have accepted := fresh.orderly.checked index call request stored requests (by rw [at_]; rfl)
  have valid := validState_of_decodeFile (decodeFile_of_load readable)
  have kept := stored_execute valid.passes accepted executed
  rw [givesWhole, requests] at whole
  obtain ⟨revision, grants, audit⟩ :=
    (sameState_read_iff valid accepted executed).mpr (of_decide_eq_true whole)
  exact ⟨_, load_stored kept, ⟨revision.symm, fun pluginId => (grants pluginId).symm, audit.symm⟩⟩

/-- A move leaves its ledger with something at least as new as its stamp. -/
theorem known_take (fresh : Fresh Real processes) (stored : processes.calls[index]? = some call)
    (found : processes.ledgers[call.ledger]? = some ledger)
    (moves : Moves Real processes call ledger fault result)
    (whole : result.write ≠ none → givesWhole call = true)
    (calm : call.phase = .read → fault = true → ledger.sourceStamp ≠ processes.stamp) :
    Known Real (processes.take index call result) result.ledger := by
  obtain ⟨old, oldFound, live⟩ := fresh.orderly.live index call stored
  obtain rfl := Option.some.inj (oldFound.symm.trans found)
  have known := fresh.known call.ledger old found live
  have grows := extends_take processes index call result
  have established := fresh.established index call old stored found
  cases moves with
  | loaded state at_ readable =>
    have reflects : Reflects Real { old with memory := state } processes.file :=
      reflects_of_load readable
    exact Or.inl ((reflects.seen known.le_stamp).extends grows)
  | unreadable refusal at_ cause =>
    refine Or.inr ⟨rfl, Nat.lt_of_le_of_ne known.le_stamp fun current => ?_⟩
    rcases cause with raised | unreadable
    · exact calm at_ raised current
    · obtain ⟨decoded, loaded, _⟩ := known.reflects current
      rw [loaded] at unreadable
      cases unreadable
  | reloaded at_ =>
    rw [Established, at_] at established
    have seen := (reflects_of_load established).seen (Nat.le_refl processes.stamp)
    exact Or.inl ((seen.congr rfl rfl).extends grows)
  | reread at_ =>
    rw [Established, at_] at established
    have seen := (reflects_of_load established).seen (Nat.le_refl processes.stamp)
    exact Or.inl ((seen.congr rfl rfl).extends grows)
  | committed at_ request requests written text executed =>
    rw [Established, at_] at established
    have reflects := reflects_committed fresh stored at_ requests established executed
      (whole (Option.some_ne_none _))
    exact Or.inl (reflects.seen (Nat.le_trans known.le_stamp grows.stamp))
  | finished at_ =>
    rw [Established, at_] at established
    have seen := established.seen (Nat.le_refl processes.stamp)
    exact Or.inl ((seen.congr rfl rfl).extends grows)
  | _ => exact known.extends grows

/-- A move leaves its ledger with what is newer than a stamp, if it knows anything. -/
theorem recent_take (fresh : Fresh Real processes) (stored : processes.calls[index]? = some call)
    (found : processes.ledgers[call.ledger]? = some ledger)
    (moves : Moves Real processes call ledger fault result)
    (whole : result.write ≠ none → givesWhole call = true) {since : Nat}
    (before : since ≤ processes.stamp) (recent : Recent Real processes ledger since) :
    Recent Real (processes.take index call result) result.ledger since := by
  have grows := extends_take processes index call result
  have established := fresh.established index call ledger stored found
  cases moves with
  | loaded state at_ readable =>
    have reflects : Reflects Real { ledger with memory := state } processes.file :=
      reflects_of_load readable
    exact Or.inl ((reflects.seen before).extends grows)
  | unreadable => exact Or.inr rfl
  | committed at_ request requests written text executed =>
    rw [Established, at_] at established
    have reflects := reflects_committed fresh stored at_ requests established executed
      (whole (Option.some_ne_none _))
    exact Or.inl (reflects.seen (Nat.le_trans before grows.stamp))
  | reloaded => exact recent.imp_left fun seen => (seen.congr rfl rfl).extends grows
  | reread => exact recent.imp_left fun seen => (seen.congr rfl rfl).extends grows
  | finished => exact recent.imp_left fun seen => (seen.congr rfl rfl).extends grows
  | _ => exact recent.extends grows

/-- A move establishes what the next phase of its call relies on. -/
theorem established_take (fresh : Fresh Real processes)
    (stored : processes.calls[index]? = some call)
    (found : processes.ledgers[call.ledger]? = some ledger)
    (moves : Moves Real processes call ledger fault result)
    (whole : result.write ≠ none → givesWhole call = true) :
    Established Real (processes.take index call result) { call with phase := result.phase }
      result.ledger := by
  have begun := fresh.begun index call stored
  have established := fresh.established index call ledger stored found
  have grows := extends_take processes index call result
  cases moves with
  | looked => exact begun
  | current at_ =>
    intro _
    rw [Established, at_] at established
    obtain ⟨old, oldFound, live⟩ := fresh.orderly.live index call stored
    obtain rfl := Option.some.inj (oldFound.symm.trans found)
    rcases fresh.known call.ledger old found live with seen | forgotten
    · exact Or.inl ((seen.since established).extends grows)
    · exact Or.inr forgotten.1
  | loaded state at_ readable => exact readable
  | reloaded at_ =>
    intro _
    rw [Established, at_] at established
    have seen := (reflects_of_load established).seen begun
    exact Or.inl ((seen.congr rfl rfl).extends grows)
  | reread at_ =>
    rw [Established, at_] at established
    exact established
  | unchanged at_ request requests =>
    intro reloads
    exact absurd (requests.symm.trans reloads) nofun
  | committed at_ request requests written text executed =>
    rw [Established, at_] at established
    exact reflects_committed fresh stored at_ requests established executed
      (whole (Option.some_ne_none _))
  | finished at_ =>
    intro _
    rw [Established, at_] at established
    have seen := established.seen begun
    exact Or.inl ((seen.congr rfl rfl).extends grows)
  | _ => trivial

/-- A move leaves to the other calls what they have established. -/
theorem established_take_other (fresh : Fresh Real processes)
    (stored : processes.calls[index]? = some call)
    (found : processes.ledgers[call.ledger]? = some ledger)
    (moves : Moves Real processes call ledger fault result)
    (whole : result.write ≠ none → givesWhole call = true) {other : Nat} {otherCall : LedgerCall}
    {otherLedger : Ledger} (otherStored : processes.calls[other]? = some otherCall)
    (different : other ≠ index)
    (otherFound : (processes.take index call result).ledgers[otherCall.ledger]? = some otherLedger) :
    Established Real (processes.take index call result) otherCall otherLedger := by
  have grows := extends_take processes index call result
  have kept (holds : otherCall.phase.holdsState = true) :
      processes.ledgers[otherCall.ledger]? = some otherLedger := by
    rw [← ledgers_take_of_holdsState fresh.orderly stored found moves otherStored different holds]
    exact otherFound
  have file (holds : otherCall.phase.holdsStore = true) :
      (processes.take index call result).file = processes.file := by
    rcases moves.write_eq with unwritten | mutates
    · rw [take, unwritten]
    · exact absurd (fresh.orderly.store _ _ _ _ otherStored stored holds
        (holdsStore_of_mutate mutates)) different
  cases phase : otherCall.phase with
  | compare stamp =>
    obtain ⟨old, oldFound, _⟩ := fresh.orderly.live other otherCall otherStored
    have established := fresh.established other otherCall old otherStored oldFound
    rw [Established, phase] at established ⊢
    exact established
  | stamp | mutate | stampCommit =>
    have established := fresh.established other otherCall otherLedger otherStored
      (kept (by rw [phase]; rfl))
    rw [Established, phase] at established ⊢
    rw [file (by rw [phase]; rfl)]
    exact established
  | returned changed =>
    obtain ⟨old, oldFound, _⟩ := fresh.orderly.live other otherCall otherStored
    have established := fresh.established other otherCall old otherStored oldFound
    have begun := fresh.begun other otherCall otherStored
    rw [Established, phase] at established ⊢
    intro reloads
    rw [ledgers_take found] at otherFound
    split at otherFound
    · rename_i same
      obtain rfl := Option.some.inj otherFound
      rw [same] at oldFound
      obtain rfl := Option.some.inj (oldFound.symm.trans found)
      exact recent_take fresh stored found moves whole begun (established reloads)
    · obtain rfl := Option.some.inj (oldFound.symm.trans otherFound)
      exact (established reloads).extends grows
  | _ =>
    rw [Established, phase]
    trivial

/-- A move keeps ledgers fresh, if it neither comes between the looks of a constructor nor forgets
what a current ledger knows. -/
theorem fresh_take (fresh : Fresh Real processes) (stored : processes.calls[index]? = some call)
    (found : processes.ledgers[call.ledger]? = some ledger)
    (moves : Moves Real processes call ledger fault result)
    (whole : result.write ≠ none → givesWhole call = true)
    (calm : call.phase = .read → fault = true → ledger.sourceStamp ≠ processes.stamp)
    (apart : result.write ≠ none → ∀ (place : Nat) (other : Ledger),
      processes.ledgers[place]? = some other → other.status ≠ .stamping) :
    Fresh Real (processes.take index call result) where
  orderly := orderly_take fresh.orderly stored found moves
  known place other lookup live := by
    rw [ledgers_take found] at lookup
    split at lookup
    · obtain rfl := Option.some.inj lookup
      exact known_take fresh stored found moves whole calm
    · exact (fresh.known place other lookup live).extends (extends_take processes index call result)
  constructing place other lookup stamping := by
    rw [ledgers_take found] at lookup
    split at lookup
    · obtain rfl := Option.some.inj lookup
      obtain ⟨old, oldFound, live⟩ := fresh.orderly.live index call stored
      obtain rfl := Option.some.inj (oldFound.symm.trans found)
      rw [moves.status, live] at stamping
      cases stamping
    · have unwritten : result.write = none := by
        by_contra written
        exact apart written place other lookup stamping
      have file : (processes.take index call result).file = processes.file := by
        rw [take, unwritten]
      rw [file]
      exact fresh.constructing place other lookup stamping
  begun other otherCall otherStored := by
    have grows := (extends_take processes index call result).stamp
    rw [calls_take stored] at otherStored
    split at otherStored
    · obtain rfl := Option.some.inj otherStored
      exact Nat.le_trans (fresh.begun index call stored) grows
    · exact Nat.le_trans (fresh.begun other otherCall otherStored) grows
  established other otherCall otherLedger otherStored otherFound := by
    rw [calls_take stored] at otherStored
    split at otherStored
    · obtain rfl := Option.some.inj otherStored
      rw [ledgers_take found, if_pos rfl] at otherFound
      obtain rfl := Option.some.inj otherFound
      exact established_take fresh stored found moves whole
    · rename_i different
      exact established_take_other fresh stored found moves whole otherStored different otherFound

end

/-- An undisturbed step keeps ledgers fresh. -/
theorem fresh_step {action : Action} (fresh : Fresh Real processes)
    (calm : undisturbed Real processes action = true)
    (steps : step Real processes action = some next) : Fresh Real next := by
  rcases step_cases steps with ⟨_, constructs⟩ | ⟨_, call, begins⟩ |
    ⟨index, fault, call, ledger, result, rfl, stored, found, moves, rfl⟩
  · exact fresh_constructs fresh constructs
  · exact fresh_begins fresh begins
  · have writes (written : result.write ≠ none) : writes Real call ledger fault = true := by
      cases moves with
      | committed at_ request requests next text executed unfailing =>
        simp [LedgerProcesses.writes, at_, requests, executed, unfailing]
      | _ => exact absurd rfl written
    simp only [undisturbed, stored, found, Bool.and_eq_true, Bool.not_eq_true',
      Bool.and_eq_false_iff, Bool.or_eq_false_iff, Bool.not_eq_false',
      decide_eq_false_iff_not] at calm
    have safe (written : result.write ≠ none) :=
      calm.1.resolve_left (Bool.not_eq_false _ ▸ writes written)
    refine fresh_take fresh stored found moves (fun written => (safe written).1)
      (fun reads raised => ?_) (fun written place other lookup stamping => ?_)
    · rcases calm.2 with (elsewhere | calm) | different
      · exact absurd reads elsewhere
      · rw [raised] at calm
        cases calm
      · exact different
    · have absent := List.any_eq_false.mp (safe written).2 other
        (List.mem_iff_getElem?.mpr ⟨place, lookup⟩)
      exact absent (decide_eq_true stamping)

/-- A ledger reports a permission of a plugin as granted. -/
def reports (ledger : Ledger) (pluginId permission : String) : Bool :=
  active ledger.memory.grants pluginId permission

end

section

variable (Real : Type) [FloatText Real]

/-- A permission of a plugin is granted in a file, as a ledger with these limits reads it. -/
def grantedIn (bounds : GrantBounds) (pluginId permission : String) (file : Option (List Char)) :
    Bool :=
  match load Real bounds file with
  | .ok state => active state.grants pluginId permission
  | .error _ => false

/-- A ledger whose stamp is that of the file holds what the file holds, and a ledger whose reload
has returned reports no permission that the file has not granted since the reload began. -/
def Withdrawn (processes : LedgerProcesses) : Prop :=
  (∀ (index : Nat) (ledger : Ledger), processes.ledgers[index]? = some ledger →
    ledger.status = .live → ledger.sourceStamp = processes.stamp →
    ∃ decoded, load Real ledger.bounds processes.file = .ok decoded ∧
      SameState ledger.memory decoded) ∧
  ∀ (index : Nat) (call : LedgerCall) (changed : Bool) (ledger : Ledger),
    processes.calls[index]? = some call → call.request = none → call.phase = .returned changed →
    processes.ledgers[call.ledger]? = some ledger → ∀ pluginId permission : String,
    (∀ version ∈ processes.versions.drop call.begun,
      grantedIn Real ledger.bounds pluginId permission version = false) →
    reports ledger pluginId permission = false

end

section

variable {Real : Type} [FloatText Real] {processes : LedgerProcesses} {ledger : Ledger}

theorem active_congr {first second : ActiveGrants} (same : SameGrants first second)
    (pluginId permission : String) :
    active first pluginId permission = active second pluginId permission := by
  have lookups := same pluginId
  rw [active_eq_isSome, active_eq_isSome, provenanceOf, provenanceOf, pluginGrants, pluginGrants]
  revert lookups
  cases first.get? pluginId with
  | none =>
    cases second.get? pluginId with
    | none => exact fun _ => rfl
    | some _ =>
      intro lookups
      cases lookups
  | some firstGrants =>
    cases second.get? pluginId with
    | none =>
      intro lookups
      cases lookups
    | some secondGrants =>
      intro lookups
      have equal := congrFun (Option.some.inj lookups) permission
      rw [Option.getD_some, Option.getD_some, equal]

/-- What has not been granted since a stamp is not reported by a ledger that is more recent. -/
theorem Recent.not_reports {since : Nat} (recent : Recent Real processes ledger since)
    {pluginId permission : String}
    (withdrawn : ∀ version ∈ processes.versions.drop since,
      grantedIn Real ledger.bounds pluginId permission version = false) :
    reports ledger pluginId permission = false := by
  rcases recent with ⟨place, version, later, found, decoded, loaded, same⟩ | forgotten
  · have member : version ∈ processes.versions.drop since := by
      refine List.mem_iff_getElem?.mpr ⟨place - since, ?_⟩
      rw [List.getElem?_drop, Nat.add_sub_cancel' later, found]
    have absent := withdrawn version member
    rw [grantedIn, loaded] at absent
    rw [reports, active_congr same.grants]
    exact absent
  · rw [reports, forgotten]
    rfl

theorem Fresh.withdrawn (fresh : Fresh Real processes) : Withdrawn Real processes := by
  refine ⟨fun index ledger found live current => (fresh.known index ledger found live).reflects current,
    fun index call changed ledger stored reloads phase found pluginId permission absent => ?_⟩
  have established := fresh.established index call ledger stored found
  rw [Established, phase] at established
  exact (established reloads).not_reports absent

/-- In an undisturbed run a withdrawn permission does not survive in a ledger that believes it is current.
Undisturbed is a run in which no call replaces the file between the two looks of a constructor or with a
reason that is read back as another, and no read fails under an unchanged stamp. -/
theorem withdrawn_of_undisturbed {file : Option (List Char)} {actions : List Action}
    (runs : Machine.run (step Real) (start file) actions = some processes)
    (calm : Machine.Throughout (step Real)
      (fun processes action => undisturbed Real processes action = true) (start file) actions) :
    Withdrawn Real processes :=
  (Machine.invariant_run_throughout (Fresh Real) (fun _ _ _ fresh calm steps =>
    fresh_step fresh calm steps) (fresh_start Real file) calm runs).withdrawn

end

/-- The constructor of a ledger. -/
def opens (ledger : Nat) : List Action :=
  [.construct exampleBounds, .constructRead ledger false, .constructStamp ledger false]

/-- Steps of one call. -/
def advances (call count : Nat) : List Action := List.replicate count (.advance call false)

/-- The revocation of what the example request grants. -/
def exampleRevocation : GrantLedger.Request :=
  { exampleRequest with action := .revoked, expectedRevision := 1 }

/-- A reload after a revocation by another ledger. -/
def reloadActions : List Action :=
  opens 0 ++ [.request 0 exampleRequest] ++ advances 0 6 ++ opens 1 ++
    [.request 0 exampleRevocation] ++ advances 1 6 ++ [.reload 1] ++ advances 2 6

theorem withdrawn_of_undisturbed_reload :
    ∃ processes, Machine.run (step ExactDecimal) (start none) reloadActions = some processes ∧
      processes.stamp = 2 ∧ Withdrawn ExactDecimal processes := by
  have outcome : (Machine.run (step ExactDecimal) (start none) reloadActions).map stamp =
      some 2 := by decide +kernel
  obtain ⟨processes, runs, two⟩ := Option.map_eq_some_iff.mp outcome
  exact ⟨processes, runs, two, withdrawn_of_undisturbed runs (by decide +kernel)⟩

/-- The revocation is committed while another ledger is constructed, after it has read the file and
before it takes the stamp. The reload of that ledger then finds nothing to do. -/
def disturbedActions : List Action :=
  opens 0 ++ [.request 0 exampleRequest] ++ advances 0 6 ++
    [.construct exampleBounds, .constructRead 1 false] ++
    [.request 0 exampleRevocation] ++ advances 1 6 ++ [.constructStamp 1 false] ++
    [.reload 1] ++ advances 2 2

/-- What is seen of a reload that survives: its request and phase, whether its ledger reports the
permission and whether the file has granted it since the reload began. -/
def survival (processes : LedgerProcesses) : Option (Option GrantLedger.Request × LedgerPhase × Bool × Bool) :=
  (processes.calls[2]?).bind fun call => (processes.ledgers[call.ledger]?).map fun ledger =>
    (call.request, call.phase, reports ledger exampleRequest.pluginId exampleRequest.permission,
      (processes.versions.drop call.begun).any
        (grantedIn ExactDecimal ledger.bounds exampleRequest.pluginId exampleRequest.permission))

theorem not_withdrawn :
    ∃ processes, Machine.run (step ExactDecimal) (start none) disturbedActions = some processes ∧
      ¬ Withdrawn ExactDecimal processes := by
  have outcome : (Machine.run (step ExactDecimal) (start none) disturbedActions).bind survival =
      some (none, .returned false, true, false) := by decide +kernel
  obtain ⟨processes, runs, seen⟩ := Option.bind_eq_some_iff.mp outcome
  refine ⟨processes, runs, fun withdrawn => ?_⟩
  obtain ⟨call, stored, found⟩ := Option.bind_eq_some_iff.mp seen
  obtain ⟨ledger, found, facts⟩ := Option.map_eq_some_iff.mp found
  simp only [Prod.mk.injEq] at facts
  obtain ⟨reloads, phase, reported, absent⟩ := facts
  have silent := withdrawn.2 2 call false ledger stored reloads phase found _ _
    fun version member => Bool.eq_false_iff.mpr (List.any_eq_false.mp absent version member)
  rw [reported] at silent
  cases silent

end LedgerProcesses

end Omnitensor
