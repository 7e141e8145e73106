/-
This file proves that plugin admission never leaks, double-grants or forgets a slot.

Two accounts are kept over every run. The queue account: a waiter is queued at most
once, under its own profile, while its call is suspended, and every pending waiter is
queued. The slot account: the running counts are the callers that hold a slot, and a
caller's future and coroutine determine how many slots it was handed and gave back.
A pump moves a waiter from one account to the other in one round, so both survive it,
and it stops only at the width it read last or when policy admits no waiter.
-/

import Omnitensor.PluginAdmission
import Omnitensor.Table

namespace Omnitensor

theorem WaiterState.cancelled_of_ne {waiter : WaiterState} (done : waiter ≠ .pending)
    (unresolved : waiter ≠ .resolved) : waiter = .cancelled := by
  cases waiter with
  | pending => exact absurd rfl done
  | resolved => exact absurd rfl unresolved
  | cancelled => rfl

namespace Caller

/-- A call that took a slot has ended. -/
def HasEnded (caller : Caller) : Prop := caller.task = .finished ∨ caller.task = .cancelled

instance (caller : Caller) : Decidable caller.HasEnded := inferInstanceAs (Decidable (_ ∨ _))

/-- What a caller's future and coroutine say about the slots it was handed and gave back. -/
structure WellFormed (caller : Caller) : Prop where
  grants : caller.grants = if caller.waiter = .resolved then 1 else 0
  releases : caller.releases = if caller.waiter = .resolved ∧ caller.HasEnded then 1 else 0
  pending : caller.waiter = .pending → caller.task = .suspended false ∨ caller.task = .refused
  cancelled : caller.waiter = .cancelled →
    (∃ requested, caller.task = .suspended requested) ∨ caller.task = .cancelled
  resolved : caller.waiter = .resolved → caller.task ≠ .refused

/-- A caller whose waiter may be queued: it is suspended on a future not resolved. -/
def MayQueue (caller : Caller) : Prop :=
  caller.waiter ≠ .resolved ∧ ∃ requested, caller.task = .suspended requested

variable {caller : Caller}

theorem WellFormed.holds_iff (wellFormed : caller.WellFormed) :
    caller.holds = true ↔ caller.waiter = .resolved ∧ ¬caller.HasEnded := by
  rw [holds, decide_eq_true_iff, wellFormed.grants, wellFormed.releases]
  by_cases resolved : caller.waiter = .resolved <;> by_cases ended : caller.HasEnded <;>
    simp [resolved, ended]

theorem WellFormed.grants_le_one (wellFormed : caller.WellFormed) : caller.grants ≤ 1 := by
  rw [wellFormed.grants]
  split <;> omega

/-- A call that ended by its cancellation gave back every slot it was handed. -/
theorem WellFormed.released_of_cancelled (wellFormed : caller.WellFormed)
    (ended : caller.task = .cancelled) : caller.grants = caller.releases := by
  have hasEnded : caller.HasEnded := Or.inr ended
  rw [wellFormed.grants, wellFormed.releases]
  simp [hasEnded]

/-- A cancelled waiter was handed no slot. -/
theorem WellFormed.grants_of_cancelled (wellFormed : caller.WellFormed)
    (cancelled : caller.waiter = .cancelled) : caller.grants = 0 := by
  rw [wellFormed.grants, cancelled]
  rfl

theorem wellFormed_arriving (profileId : String) : (arriving profileId).WellFormed where
  grants := rfl
  releases := rfl
  pending _ := Or.inl rfl
  cancelled impossible := by cases impossible
  resolved impossible := by cases impossible

theorem wellFormed_refused (profileId : String) :
    ({ arriving profileId with task := .refused } : Caller).WellFormed where
  grants := rfl
  releases := rfl
  pending _ := Or.inr rfl
  cancelled impossible := by cases impossible
  resolved impossible := by cases impossible

/-- Resolving a queued waiter hands its caller one slot. -/
theorem WellFormed.granted (wellFormed : caller.WellFormed)
    (suspended : ∃ requested, caller.task = .suspended requested)
    (unresolved : caller.waiter ≠ .resolved) :
    ({ caller with waiter := .resolved, grants := caller.grants + 1 } : Caller).WellFormed := by
  obtain ⟨requested, task⟩ := suspended
  have none := wellFormed.grants
  have kept := wellFormed.releases
  rw [if_neg unresolved] at none
  rw [if_neg fun both => unresolved both.1] at kept
  exact
    { grants := by simp [none]
      releases := by simp [kept, HasEnded, task]
      pending := fun impossible => by cases impossible
      cancelled := fun impossible => by cases impossible
      resolved := fun _ => by simp [task] }

/-- Moving a caller that holds a slot to another point before its end changes no count. -/
theorem WellFormed.moved (wellFormed : caller.WellFormed) {task : CallerTask}
    (resolved : caller.waiter = .resolved) (live : ¬caller.HasEnded)
    (next : task = .running ∨ ∃ requested, task = .suspended requested) :
    ({ caller with task } : Caller).WellFormed := by
  have before := wellFormed.releases
  rw [if_neg fun both => live both.2] at before
  have stays : ¬({ caller with task } : Caller).HasEnded := by
    rcases next with rfl | ⟨_, rfl⟩ <;> simp [HasEnded]
  exact
    { grants := wellFormed.grants
      releases := by rw [if_neg fun both => stays both.2, before]
      pending := fun impossible => by simp [resolved] at impossible
      cancelled := fun impossible => by simp [resolved] at impossible
      resolved := fun _ => by rcases next with rfl | ⟨_, rfl⟩ <;> simp }

/-- Cancelling a pending waiter hands over nothing. -/
theorem WellFormed.cancelledWaiting (wellFormed : caller.WellFormed)
    (suspended : ∃ requested, caller.task = .suspended requested)
    (pending : caller.waiter = .pending) :
    ({ caller with waiter := .cancelled } : Caller).WellFormed := by
  have none := wellFormed.grants
  have kept := wellFormed.releases
  rw [pending] at none kept
  exact
    { grants := none
      releases := by simpa using kept
      pending := fun impossible => by cases impossible
      cancelled := fun _ => Or.inl suspended
      resolved := fun impossible => by cases impossible }

/-- Cancelling a call again before it resumed changes no count. -/
theorem WellFormed.cancelledAgain (wellFormed : caller.WellFormed)
    (cancelled : caller.waiter = .cancelled) :
    ({ caller with task := .suspended true } : Caller).WellFormed where
  grants := wellFormed.grants
  releases := by
    rw [wellFormed.releases, cancelled]
    rfl
  pending impossible := by simp [cancelled] at impossible
  cancelled _ := Or.inl ⟨true, rfl⟩
  resolved impossible := by simp [cancelled] at impossible

/-- A holder that gives its slot back as it ends holds nothing more. -/
theorem WellFormed.released (wellFormed : caller.WellFormed) {ended : CallerTask}
    (resolved : caller.waiter = .resolved) (live : ¬caller.HasEnded)
    (ends : ended = .finished ∨ ended = .cancelled) :
    ({ caller with task := ended, releases := caller.releases + 1 } : Caller).WellFormed := by
  have before := wellFormed.releases
  rw [if_neg fun both => live both.2] at before
  exact
    { grants := wellFormed.grants
      releases := by rw [before, if_pos ⟨resolved, ends⟩]
      pending := fun impossible => by simp [resolved] at impossible
      cancelled := fun impossible => by simp [resolved] at impossible
      resolved := fun _ => by rcases ends with rfl | rfl <;> simp }

/-- A caller whose waiter was cancelled ends with nothing to give back. -/
theorem WellFormed.endedCancelled (wellFormed : caller.WellFormed)
    (cancelled : caller.waiter = .cancelled) :
    ({ caller with task := .cancelled } : Caller).WellFormed := by
  have none := wellFormed.grants
  have kept := wellFormed.releases
  rw [cancelled] at none kept
  exact
    { grants := by rw [none, cancelled]
      releases := by simpa [cancelled] using kept
      pending := fun impossible => by simp [cancelled] at impossible
      cancelled := fun _ => Or.inr rfl
      resolved := fun _ => by simp }

theorem holdsFor_eq (profileId : String) (caller : Caller) :
    caller.holdsFor profileId = (caller.holds && decide (caller.profileId = profileId)) := rfl

end Caller

namespace PluginAdmission

/-! ### The two accounts -/

/-- What is queued is the waiters of suspended calls, each once, and every pending one. -/
structure QueueAccount (queue : StrideQueue String Nat) (callers : List Caller) : Prop where
  consistent : queue.Consistent
  nodup : queue.queued.Nodup
  queued : ∀ profileId index, index ∈ queue.waiting profileId →
    ∃ caller, callers[index]? = some caller ∧ caller.profileId = profileId ∧ caller.MayQueue
  waiting : ∀ index caller, callers[index]? = some caller → caller.isWaiting = true →
    index ∈ queue.waiting caller.profileId

/-- The running counts are the callers that hold a slot. -/
structure SlotAccount (running : Counter String) (callers : List Caller) : Prop where
  count : ∀ profileId, running.count profileId = callers.countP (Caller.holdsFor profileId)
  total : running.total = callers.countP Caller.holds
  wellFormed : ∀ (index : Nat) (caller : Caller), callers[index]? = some caller →
    caller.WellFormed

/-- Both accounts balance and both bounds are kept. -/
structure Conserved (pool : PluginAdmission) : Prop where
  queue : QueueAccount pool.queue pool.callers
  slots : SlotAccount pool.running pool.callers
  total_le : pool.running.total ≤ pool.limits.maxConcurrent
  depth_le : pool.queue.depth ≤ pool.limits.maxWaiting

theorem conserved_empty (limits : PoolLimits) : (empty limits).Conserved where
  queue :=
    { consistent := StrideQueue.consistent_empty
      nodup := List.nodup_nil
      queued := fun profileId index member => absurd member List.not_mem_nil
      waiting := fun index caller found => by cases found }
  slots :=
    { count := fun profileId => rfl
      total := rfl
      wellFormed := fun index caller found => by cases found }
  total_le := Nat.zero_le _
  depth_le := Nat.zero_le _

variable {pool next : PluginAdmission} {index : Nat} {old new caller : Caller}
  {callers : List Caller} {queue : StrideQueue String Nat} {running : Counter String}
  {profileId : String} {policy : AdmissionPolicy} {requested : Bool}
  {weightOf : String → WeightValue} {admits : Option (String → Bool)}

/-- The queue account survives a change of one caller that keeps its profile, leaves it
queueable if it is queued, and does not make it wait anew. -/
theorem QueueAccount.set (account : QueueAccount queue callers)
    (stored : callers[index]? = some old) (profile : new.profileId = old.profileId)
    (queueable : index ∈ queue.waiting old.profileId → new.MayQueue)
    (notAnew : new.isWaiting = true → old.isWaiting = true) :
    QueueAccount queue (callers.set index new) where
  consistent := account.consistent
  nodup := account.nodup
  queued profileId other member := by
    obtain ⟨caller, found, owner, mayQueue⟩ := account.queued profileId other member
    rw [Table.getElem?_set stored]
    by_cases same : other = index
    · subst same
      obtain rfl : old = caller := Option.some.inj (stored.symm.trans found)
      exact ⟨new, if_pos rfl, profile.trans owner, queueable (owner ▸ member)⟩
    · exact ⟨caller, by rw [if_neg same, found], owner, mayQueue⟩
  waiting other caller found waits := by
    rw [Table.getElem?_set stored] at found
    split at found
    · rename_i same
      cases found
      rw [same, profile]
      exact account.waiting index old stored (notAnew waits)
    · exact account.waiting other caller found waits

/-- The slot account survives a change of one caller that holds what it held. -/
theorem SlotAccount.set (account : SlotAccount running callers)
    (stored : callers[index]? = some old) (profile : new.profileId = old.profileId)
    (holds : new.holds = old.holds) (wellFormed : new.WellFormed) :
    SlotAccount running (callers.set index new) where
  count profileId := by
    have moved := Table.countP_set stored new (Caller.holdsFor profileId)
    have same : new.holdsFor profileId = old.holdsFor profileId := by
      rw [Caller.holdsFor_eq, Caller.holdsFor_eq, holds, profile]
    rw [same] at moved
    rw [account.count profileId]
    omega
  total := by
    have moved := Table.countP_set stored new Caller.holds
    rw [holds] at moved
    rw [account.total]
    omega
  wellFormed other caller found := by
    rw [Table.getElem?_set stored] at found
    split at found
    · cases found
      exact wellFormed
    · exact account.wellFormed other caller found

/-- A caller that is handed a slot is counted. -/
theorem SlotAccount.add (account : SlotAccount running callers)
    (stored : callers[index]? = some old) (profile : new.profileId = old.profileId)
    (before : old.holds = false) (after : new.holds = true) (wellFormed : new.WellFormed) :
    SlotAccount (running.add old.profileId) (callers.set index new) where
  count profileId := by
    have moved := Table.countP_set stored new (Caller.holdsFor profileId)
    simp only [Caller.holdsFor_eq, before, after, profile, Bool.false_and, Bool.true_and,
      decide_eq_true_iff, Bool.false_eq_true, if_false, Nat.add_zero] at moved
    rw [Counter.count_add, account.count profileId]
    by_cases same : old.profileId = profileId
    · rw [if_pos same] at moved
      rw [if_pos same.symm, moved]
    · rw [if_neg same] at moved
      rw [if_neg (Ne.symm same), moved]
  total := by
    have moved := Table.countP_set stored new Caller.holds
    rw [before, after] at moved
    rw [Counter.total_add, account.total]
    simpa using moved.symm
  wellFormed other caller found := by
    rw [Table.getElem?_set stored] at found
    split at found
    · cases found
      exact wellFormed
    · exact account.wellFormed other caller found

/-- A holder's slot is counted under its profile. -/
theorem SlotAccount.count_pos (account : SlotAccount running callers)
    (stored : callers[index]? = some caller) (holds : caller.holds = true) :
    0 < running.count caller.profileId := by
  rw [account.count, List.countP_pos_iff]
  refine ⟨caller, List.mem_of_getElem? stored, ?_⟩
  rw [Caller.holdsFor_eq, holds, Bool.true_and, decide_eq_true_iff]

/-- A caller that gives its slot back is no longer counted. -/
theorem SlotAccount.remove (account : SlotAccount running callers)
    (stored : callers[index]? = some old) (profile : new.profileId = old.profileId)
    (before : old.holds = true) (after : new.holds = false) (wellFormed : new.WellFormed) :
    SlotAccount (running.remove old.profileId) (callers.set index new) where
  count profileId := by
    have moved := Table.countP_set stored new (Caller.holdsFor profileId)
    simp only [Caller.holdsFor_eq, before, after, profile, Bool.false_and, Bool.true_and,
      decide_eq_true_iff, Bool.false_eq_true, if_false, Nat.add_zero] at moved
    rw [Counter.count_remove, account.count profileId]
    by_cases same : old.profileId = profileId
    · rw [if_pos same] at moved
      rw [if_pos same.symm]
      omega
    · rw [if_neg same] at moved
      rw [if_neg (Ne.symm same)]
      omega
  total := by
    have moved := Table.countP_set stored new Caller.holds
    rw [before, after] at moved
    have removed := running.total_remove (account.count_pos stored before)
    rw [account.total] at removed
    simp only [if_true, Bool.false_eq_true, if_false] at moved
    omega
  wellFormed other caller found := by
    rw [Table.getElem?_set stored] at found
    split at found
    · cases found
      exact wellFormed
    · exact account.wellFormed other caller found

/-! ### The queue account under the queue's operations -/

/-- A popped waiter is no longer queued; its caller, as it is now, is not waiting. -/
theorem QueueAccount.popped {after : StrideQueue String Nat} (account : QueueAccount queue callers)
    {rest : List Nat} (spec : StrideQueue.Popped queue weightOf admits profileId index rest after)
    (stored : callers[index]? = some old) (served : new.isWaiting = false) :
    QueueAccount after (callers.set index new) where
  consistent := spec.consistent
  nodup := (List.nodup_cons.mp (spec.queued.nodup_iff.mp account.nodup)).2
  queued owner other member := by
    obtain ⟨inside, different⟩ := (spec.mem_waiting_iff account.nodup).mp member
    rw [Table.getElem?_set stored, if_neg different]
    exact account.queued owner other inside
  waiting other caller found waits := by
    rw [Table.getElem?_set stored] at found
    split at found
    · cases found
      rw [served] at waits
      cases waits
    · rename_i different
      exact (spec.mem_waiting_iff account.nodup).mpr
        ⟨account.waiting other caller found waits, different⟩

/-- A discarded waiter is no longer queued; its caller, as it is now, is not waiting. -/
theorem QueueAccount.discarded (account : QueueAccount queue callers)
    (stored : callers[index]? = some old) (left : new.isWaiting = false) :
    QueueAccount (queue.discard old.profileId index).2 (callers.set index new) := by
  have home : ∀ elsewhere, index ∈ queue.waiting elsewhere → elsewhere = old.profileId := by
    intro elsewhere member
    obtain ⟨caller, found, owner, _⟩ := account.queued elsewhere index member
    obtain rfl : old = caller := Option.some.inj (stored.symm.trans found)
    exact owner.symm
  exact
    { consistent := StrideQueue.consistent_discard account.consistent _ _
      nodup := by
        obtain ⟨kept, same, sublist⟩ :=
          StrideQueue.queued_discard_subperm account.consistent old.profileId index
        exact same.nodup_iff.mp (account.nodup.sublist sublist)
      queued := by
        intro owner other member
        obtain ⟨inside, different⟩ :=
          (StrideQueue.mem_waiting_discard account.consistent account.nodup home).mp member
        rw [Table.getElem?_set stored, if_neg different]
        exact account.queued owner other inside
      waiting := by
        intro other caller found waits
        rw [Table.getElem?_set stored] at found
        split at found
        · cases found
          rw [left] at waits
          cases waits
        · rename_i different
          exact (StrideQueue.mem_waiting_discard account.consistent account.nodup home).mpr
            ⟨account.waiting other caller found waits, different⟩ }

/-- A row number not in use is not queued. -/
theorem QueueAccount.not_mem (account : QueueAccount queue callers) (profileId : String) :
    callers.length ∉ queue.waiting profileId := by
  intro member
  obtain ⟨caller, found, _⟩ := account.queued profileId callers.length member
  rw [List.getElem?_eq_none le_rfl] at found
  cases found

theorem QueueAccount.ne_length (account : QueueAccount queue callers)
    (member : index ∈ queue.waiting profileId) : index ≠ callers.length := by
  rintro rfl
  exact account.not_mem profileId member

/-- A new call queues its waiter. -/
theorem QueueAccount.arrived (account : QueueAccount queue callers) (profileId : String) :
    QueueAccount (queue.push profileId callers.length)
      (callers ++ [Caller.arriving profileId]) where
  consistent := StrideQueue.consistent_push account.consistent _ _
  nodup := by
    rw [(StrideQueue.queued_push queue account.consistent _ _).nodup_iff, List.nodup_cons]
    refine ⟨fun member => ?_, account.nodup⟩
    obtain ⟨owner, inside⟩ := StrideQueue.mem_queued.mp member
    exact account.not_mem owner inside
  queued owner other member := by
    rw [Table.getElem?_concat]
    rcases (StrideQueue.mem_waiting_push account.consistent).mp member with inside | ⟨rfl, rfl⟩
    · rw [if_neg (account.ne_length inside)]
      exact account.queued owner other inside
    · exact ⟨_, if_pos rfl, rfl, by simp [Caller.arriving], _, rfl⟩
  waiting other caller found waits := by
    rw [Table.getElem?_concat] at found
    rw [StrideQueue.mem_waiting_push account.consistent]
    split at found
    · rename_i same
      cases found
      exact Or.inr ⟨rfl, same⟩
    · exact Or.inl (account.waiting other caller found waits)

/-- A refused call is not queued. -/
theorem QueueAccount.refused (account : QueueAccount queue callers)
    (refused : caller.isWaiting = false) :
    QueueAccount queue (callers ++ [caller]) where
  consistent := account.consistent
  nodup := account.nodup
  queued owner other member := by
    rw [Table.getElem?_concat, if_neg (account.ne_length member)]
    exact account.queued owner other member
  waiting other stored found waits := by
    rw [Table.getElem?_concat] at found
    split at found
    · cases found
      rw [refused] at waits
      cases waits
    · exact account.waiting other stored found waits

/-- A new call holds nothing. -/
theorem SlotAccount.concat (account : SlotAccount running callers) (holds : caller.holds = false)
    (wellFormed : caller.WellFormed) : SlotAccount running (callers ++ [caller]) where
  count profileId := by
    rw [account.count, List.countP_append]
    simp [Caller.holdsFor_eq, holds]
  total := by
    rw [account.total, List.countP_append]
    simp [holds]
  wellFormed index stored found := by
    rw [Table.getElem?_concat] at found
    split at found
    · cases found
      exact wellFormed
    · exact account.wellFormed index stored found

/-! ### The pump -/

theorem width_le (pool : PluginAdmission) (policy : AdmissionPolicy) (probe : Nat) :
    pool.width policy probe ≤ pool.limits.maxConcurrent := by
  unfold width
  split
  · exact le_rfl
  · split
    · exact le_rfl
    · split
      · exact pool.limits.one_le_maxConcurrent
      · exact le_rfl

theorem Conserved.read (conserved : pool.Conserved) (allowed : Nat) :
    ({ pool with allowed } : PluginAdmission).Conserved :=
  ⟨conserved.queue, conserved.slots, conserved.total_le, conserved.depth_le⟩

/-- One round of the pump keeps both accounts: the popped waiter is handed a slot, or was
cancelled and is dropped. -/
theorem conserved_serve (conserved : pool.Conserved) {waiter : Nat}
    (pops : pool.queue.pop weightOf admits = some ((profileId, waiter), queue))
    (room : pool.running.total < pool.limits.maxConcurrent) :
    (({ pool with queue } : PluginAdmission).serve profileId waiter).Conserved := by
  obtain ⟨rest, spec⟩ := StrideQueue.pop_spec conserved.queue.consistent pops
  have queuedWaiter : waiter ∈ pool.queue.waiting profileId := by
    rw [spec.waiting_before]
    exact List.mem_cons_self
  obtain ⟨caller, stored, rfl, unresolved, suspended⟩ :=
    conserved.queue.queued profileId waiter queuedWaiter
  have wellFormed := conserved.slots.wellFormed waiter caller stored
  have shallower : queue.depth ≤ pool.limits.maxWaiting := by
    have deeper := spec.depth
    have bound := conserved.depth_le
    omega
  unfold serve
  simp only [stored]
  split
  · -- a cancelled waiter leaves the queue and nothing else changes
    rename_i cancelled
    have notWaiting : caller.isWaiting = false := by simp [Caller.isWaiting, cancelled]
    have account := conserved.queue.popped spec stored notWaiting
    rw [Table.set_self stored] at account
    exact ⟨account, conserved.slots, conserved.total_le, shallower⟩
  · have granted := wellFormed.granted suspended unresolved
    have notHolding : caller.holds = false := by
      rw [← Bool.not_eq_true, wellFormed.holds_iff]
      exact fun both => unresolved both.1
    have live : ¬caller.HasEnded := by
      obtain ⟨requested, task⟩ := suspended
      simp [Caller.HasEnded, task]
    refine ⟨conserved.queue.popped spec stored (by simp [Caller.isWaiting]),
      conserved.slots.add stored rfl notHolding (granted.holds_iff.mpr ⟨rfl, live⟩) granted, ?_,
      shallower⟩
    show (pool.running.add caller.profileId).total ≤ pool.limits.maxConcurrent
    rw [Counter.total_add]
    exact room

theorem queue_serve (pool : PluginAdmission) (profileId : String) (waiter : Nat) :
    (pool.serve profileId waiter).queue = pool.queue := by
  unfold serve
  split
  · rfl
  · split <;> rfl

theorem conserved_pumpFrom (policy : AdmissionPolicy) (fuel probe : Nat)
    (conserved : pool.Conserved) : (pool.pumpFrom policy fuel probe).Conserved := by
  induction fuel generalizing pool probe with
  | zero => exact conserved
  | succ fuel inductionHypothesis =>
    have read := conserved.read (pool.width policy probe)
    unfold pumpFrom
    dsimp only
    split
    · rename_i room
      split
      · exact read
      · rename_i profileId waiter queue pops
        exact inductionHypothesis (probe + 1)
          (conserved_serve read pops (lt_of_lt_of_le room (width_le pool policy probe)))
    · exact read

theorem conserved_pump (conserved : pool.Conserved) (policy : AdmissionPolicy) :
    (pool.pump policy).Conserved :=
  conserved_pumpFrom policy _ _ conserved

/-- A pool is settled under a policy: it runs as many jobs as the width read last, or the policy
admits no waiting caller. -/
def Settled (pool : PluginAdmission) (policy : AdmissionPolicy) : Prop :=
  (∃ probe, pool.allowed = pool.width policy probe ∧ pool.allowed ≤ pool.running.total) ∨
    ∀ caller ∈ pool.callers, caller.isWaiting = true →
      admitted policy.admits caller.profileId = false

/-- With enough fuel for every queued waiter the pump stops only when the pool is settled. -/
theorem settled_pumpFrom (policy : AdmissionPolicy) (fuel probe : Nat) (conserved : pool.Conserved)
    (enough : pool.queue.depth < fuel) : (pool.pumpFrom policy fuel probe).Settled policy := by
  induction fuel generalizing pool probe with
  | zero => exact absurd enough (Nat.not_lt_zero _)
  | succ fuel inductionHypothesis =>
    have read := conserved.read (pool.width policy probe)
    unfold pumpFrom
    dsimp only
    split
    · rename_i room
      split
      · rename_i pops
        refine Or.inr fun caller member waits => ?_
        obtain ⟨index, stored⟩ := List.mem_iff_getElem?.mp member
        have queued := read.queue.waiting index caller stored waits
        refine (StrideQueue.pop_eq_none_iff read.queue.consistent).mp pops _ ?_
        exact read.queue.consistent.mem_order_iff.mpr (List.ne_nil_of_mem queued)
      · rename_i profileId waiter queue pops
        obtain ⟨rest, spec⟩ := StrideQueue.pop_spec read.queue.consistent pops
        refine inductionHypothesis (probe + 1)
          (conserved_serve read pops (lt_of_lt_of_le room (width_le pool policy probe))) ?_
        rw [queue_serve]
        have deeper := spec.depth
        dsimp only at deeper ⊢
        omega
    · rename_i full
      exact Or.inl ⟨probe, rfl, Nat.not_lt.mp full⟩

theorem settled_pump (conserved : pool.Conserved) (policy : AdmissionPolicy) :
    (pool.pump policy).Settled policy :=
  settled_pumpFrom policy _ _ conserved (Nat.lt_succ_self _)

/-! ### Limits never change -/

theorem limits_pumpFrom (policy : AdmissionPolicy) (fuel probe : Nat) (pool : PluginAdmission) :
    (pool.pumpFrom policy fuel probe).limits = pool.limits := by
  induction fuel generalizing pool probe with
  | zero => rfl
  | succ fuel inductionHypothesis =>
    unfold pumpFrom
    dsimp only
    split
    · split
      · rfl
      · rw [inductionHypothesis]
        unfold serve
        split
        · rfl
        · split <;> rfl
    · rfl

theorem limits_enter (pool : PluginAdmission) (index : Nat) :
    (pool.enter index).limits = pool.limits := by
  unfold enter
  split
  · rfl
  · split <;> rfl

/-! ### Actions -/

theorem step_cancel (steps : pool.step (.cancel index) = some next) :
    ∃ caller requested, pool.callers[index]? = some caller ∧
      caller.task = .suspended requested ∧ next = pool.cancel index caller := by
  simp only [step] at steps
  split at steps
  · rename_i caller stored
    split at steps
    · rename_i requested task
      exact ⟨caller, requested, stored, task, (Option.some.inj steps).symm⟩
    · cases steps
  · cases steps

theorem step_resume (steps : pool.step (.resume policy index) = some next) :
    ∃ caller requested, pool.callers[index]? = some caller ∧
      caller.task = .suspended requested ∧ caller.waiter ≠ .pending ∧
      next = pool.resume policy index caller := by
  simp only [step] at steps
  split at steps
  · rename_i caller stored
    split at steps
    · rename_i requested task
      split at steps
      · cases steps
      · rename_i done
        exact ⟨caller, requested, stored, task, done, (Option.some.inj steps).symm⟩
    · cases steps
  · cases steps

theorem step_finish (steps : pool.step (.finish policy index) = some next) :
    ∃ caller, pool.callers[index]? = some caller ∧ caller.task = .running ∧
      next = pool.release policy index caller .finished := by
  simp only [step] at steps
  split at steps
  · rename_i caller stored
    split at steps
    · rename_i task
      exact ⟨caller, stored, task, (Option.some.inj steps).symm⟩
    · cases steps
  · cases steps

/-- A call that leaves while it holds a slot gives the slot back before the pump runs. -/
theorem conserved_release (pool : PluginAdmission) (ended : CallerTask) (policy : AdmissionPolicy)
    (queue : QueueAccount pool.queue (pool.callers.set index
      { caller with task := ended, releases := caller.releases + 1 }))
    (slots : SlotAccount pool.running pool.callers)
    (total_le : pool.running.total ≤ pool.limits.maxConcurrent)
    (depth_le : pool.queue.depth ≤ pool.limits.maxWaiting)
    (stored : pool.callers[index]? = some caller) (resolved : caller.waiter = .resolved)
    (live : ¬caller.HasEnded) (ends : ended = .finished ∨ ended = .cancelled) :
    (pool.release policy index caller ended).Conserved ∧
      (pool.release policy index caller ended).Settled policy := by
  have wellFormed := slots.wellFormed index caller stored
  have holds : caller.holds = true := wellFormed.holds_iff.mpr ⟨resolved, live⟩
  have released := wellFormed.released resolved live ends
  have notHolding :
      ({ caller with task := ended, releases := caller.releases + 1 } : Caller).holds = false := by
    rw [← Bool.not_eq_true, released.holds_iff]
    exact fun both => both.2 ends
  have removed := pool.running.total_remove (slots.count_pos stored holds)
  have balanced : Conserved
      { pool with
        running := pool.running.remove caller.profileId
        callers := pool.callers.set index
          { caller with task := ended, releases := caller.releases + 1 } } :=
    { queue
      slots := slots.remove stored rfl holds notHolding released
      total_le := by
        dsimp only
        omega
      depth_le }
  exact ⟨conserved_pump balanced policy, settled_pump balanced policy⟩

/-- A resolved waiter is not queued, so its caller may change in any way that keeps it so. -/
theorem Conserved.not_queued (conserved : pool.Conserved)
    (stored : pool.callers[index]? = some caller) (resolved : caller.waiter = .resolved)
    (profileId : String) : index ∉ pool.queue.waiting profileId := by
  intro member
  obtain ⟨found, same, _, mayQueue⟩ := conserved.queue.queued profileId index member
  obtain rfl : caller = found := Option.some.inj (stored.symm.trans same)
  exact mayQueue.1 resolved

/-- A caller holding a slot moves on without ending. -/
theorem Conserved.move (conserved : pool.Conserved) (stored : pool.callers[index]? = some caller)
    (resolved : caller.waiter = .resolved) (live : ¬caller.HasEnded) {task : CallerTask}
    (next : task = .running ∨ ∃ requested, task = .suspended requested) :
    ({ pool with callers := pool.callers.set index { caller with task } } :
      PluginAdmission).Conserved := by
  have wellFormed := conserved.slots.wellFormed index caller stored
  have moved := wellFormed.moved resolved live next
  refine ⟨conserved.queue.set stored rfl (fun member => ?_) fun waits => ?_,
    conserved.slots.set stored rfl rfl moved, conserved.total_le, conserved.depth_le⟩
  · exact absurd member (conserved.not_queued stored resolved _)
  · simp [Caller.isWaiting, resolved] at waits

theorem suspended_not_ended (task : caller.task = .suspended requested) : ¬caller.HasEnded := by
  simp [Caller.HasEnded, task]

theorem conserved_cancel (conserved : pool.Conserved) (stored : pool.callers[index]? = some caller)
    (task : caller.task = .suspended requested) : (pool.cancel index caller).Conserved := by
  have wellFormed := conserved.slots.wellFormed index caller stored
  unfold cancel
  dsimp only
  split
  · rename_i pending
    have cancelled := wellFormed.cancelledWaiting ⟨requested, task⟩ pending
    refine ⟨conserved.queue.set stored rfl (fun _ => ⟨by simp, requested, task⟩) fun waits => ?_,
      conserved.slots.set stored rfl rfl cancelled, conserved.total_le, conserved.depth_le⟩
    simp [Caller.isWaiting] at waits
  · rename_i done
    by_cases resolved : caller.waiter = .resolved
    · exact conserved.move stored resolved (suspended_not_ended task) (Or.inr ⟨true, rfl⟩)
    · -- the future was cancelled before: only the request is noted again
      have cancelled := WaiterState.cancelled_of_ne done resolved
      have again := wellFormed.cancelledAgain cancelled
      refine ⟨conserved.queue.set stored rfl (fun _ => ⟨resolved, true, rfl⟩) fun waits => ?_,
        conserved.slots.set stored rfl rfl again, conserved.total_le, conserved.depth_le⟩
      simp [Caller.isWaiting] at waits

theorem conserved_resume (conserved : pool.Conserved) (policy : AdmissionPolicy)
    (stored : pool.callers[index]? = some caller) (task : caller.task = .suspended requested)
    (done : caller.waiter ≠ .pending) :
    (pool.resume policy index caller).Conserved ∧
      (caller.waiter = .resolved → requested = true →
        (pool.resume policy index caller).Settled policy) := by
  have wellFormed := conserved.slots.wellFormed index caller stored
  have live := suspended_not_ended task
  have shallower : (pool.queue.discard caller.profileId index).2.depth ≤
      pool.limits.maxWaiting := by
    have fewer :=
      (StrideQueue.queued_discard_subperm conserved.queue.consistent caller.profileId index).length_le
    have bound := conserved.depth_le
    rw [StrideQueue.depth_eq] at bound ⊢
    omega
  unfold resume
  split
  · rename_i enters
    refine ⟨conserved.move stored enters.1 live (Or.inl rfl), fun _ cancelled => ?_⟩
    rw [task, cancelled] at enters
    cases enters.2
  · dsimp only
    split
    · -- handed over and then cancelled: the slot goes back
      rename_i resolved
      obtain ⟨balanced, settled⟩ := conserved_release
        { pool with queue := (pool.queue.discard caller.profileId index).2 } .cancelled policy
        (conserved.queue.discarded stored (by simp [Caller.isWaiting])) conserved.slots
        conserved.total_le shallower stored resolved live (Or.inr rfl)
      exact ⟨balanced, fun _ _ => settled⟩
    · rename_i unresolved
      have cancelled := WaiterState.cancelled_of_ne done unresolved
      refine ⟨⟨conserved.queue.discarded stored (by simp [Caller.isWaiting]),
        conserved.slots.set stored rfl rfl (wellFormed.endedCancelled cancelled),
        conserved.total_le, shallower⟩, fun resolved => absurd resolved unresolved⟩

theorem conserved_enter (conserved : pool.Conserved)
    (suspended : ∀ caller, pool.callers[index]? = some caller → ¬caller.HasEnded) :
    (pool.enter index).Conserved := by
  unfold enter
  split
  · exact conserved
  · rename_i caller stored
    split
    · rename_i resolved
      exact conserved.move stored resolved (suspended caller stored) (Or.inl rfl)
    · exact conserved

theorem settled_enter (settled : pool.Settled policy) (index : Nat) :
    (pool.enter index).Settled policy := by
  unfold enter
  split
  · exact settled
  · rename_i caller stored
    split
    · rename_i resolved
      refine settled.imp (fun full => full) fun held other member waits => ?_
      rcases List.mem_or_eq_of_mem_set member with same | rfl
      · exact held other same waits
      · simp [Caller.isWaiting] at waits
    · exact settled

/-- The pump changes futures, not where the calls are. -/
theorem task_pumpFrom (policy : AdmissionPolicy) (fuel probe : Nat) (pool : PluginAdmission)
    (index : Nat) :
    ((pool.pumpFrom policy fuel probe).callers[index]?).map Caller.task =
      (pool.callers[index]?).map Caller.task := by
  induction fuel generalizing pool probe with
  | zero => rfl
  | succ fuel inductionHypothesis =>
    unfold pumpFrom
    dsimp only
    split
    · split
      · rfl
      · rename_i profileId waiter queue pops
        rw [inductionHypothesis]
        unfold serve
        split
        · rfl
        · rename_i caller stored
          split
          · rfl
          · dsimp only at stored ⊢
            rw [Table.getElem?_set stored]
            split
            · rename_i same
              rw [same, stored]
              rfl
            · rfl
    · rfl

theorem task_pump (pool : PluginAdmission) (policy : AdmissionPolicy) (index : Nat) :
    ((pool.pump policy).callers[index]?).map Caller.task =
      (pool.callers[index]?).map Caller.task :=
  task_pumpFrom policy _ _ pool index

theorem conserved_push (conserved : pool.Conserved)
    (room : pool.queue.depth < pool.limits.maxWaiting) (profileId : String) :
    (pool.push profileId).Conserved where
  queue := conserved.queue.arrived profileId
  slots := conserved.slots.concat rfl (Caller.wellFormed_arriving profileId)
  total_le := conserved.total_le
  depth_le := by
    rw [push, StrideQueue.depth_push conserved.queue.consistent]
    exact room

/-- Every action keeps both accounts, and the pool it pumped is settled. -/
theorem conserved_step {action : Action} (conserved : pool.Conserved)
    (steps : pool.step action = some next) :
    next.Conserved ∧ ∀ policy, pool.pumpedUnder action = some policy → next.Settled policy := by
  cases action with
  | arrive policy profileId =>
    obtain rfl : pool.arrive policy profileId = next := Option.some.inj steps
    unfold arrive
    dsimp only
    split
    · rename_i full
      refine ⟨⟨conserved.queue.refused (by simp [Caller.isWaiting]),
        conserved.slots.concat rfl (Caller.wellFormed_refused profileId), conserved.total_le,
        conserved.depth_le⟩, fun other pumped => ?_⟩
      rw [pumpedUnder, if_pos full] at pumped
      cases pumped
    · rename_i room
      have pushed := conserved_push conserved (Nat.not_le.mp room) profileId
      refine ⟨conserved_enter (conserved_pump pushed policy) fun caller stored => ?_,
        fun other pumped => ?_⟩
      · have kept := task_pump (pool.push profileId) policy pool.callers.length
        rw [stored, push, List.getElem?_concat_length] at kept
        exact suspended_not_ended (Option.some.inj kept)
      · rw [pumpedUnder, if_neg room] at pumped
        cases pumped
        exact settled_enter (settled_pump pushed policy) _
  | cancel index =>
    obtain ⟨caller, requested, stored, task, rfl⟩ := step_cancel steps
    refine ⟨conserved_cancel conserved stored task, fun policy pumped => ?_⟩
    cases pumped
  | resume policy index =>
    obtain ⟨caller, requested, stored, task, done, rfl⟩ := step_resume steps
    obtain ⟨balanced, settled⟩ := conserved_resume conserved policy stored task done
    refine ⟨balanced, fun other pumped => ?_⟩
    simp only [pumpedUnder, stored] at pumped
    split at pumped
    · rename_i returned
      cases pumped
      rw [task] at returned
      exact settled returned.1 (CallerTask.suspended.inj returned.2)
    · cases pumped
  | finish policy index =>
    obtain ⟨caller, stored, task, rfl⟩ := step_finish steps
    have wellFormed := conserved.slots.wellFormed index caller stored
    have live : ¬caller.HasEnded := by simp [Caller.HasEnded, task]
    have resolved : caller.waiter = .resolved := by
      cases waiter : caller.waiter with
      | resolved => rfl
      | pending => rcases wellFormed.pending waiter with other | other <;> simp [task] at other
      | cancelled => rcases wellFormed.cancelled waiter with ⟨_, other⟩ | other <;> simp [task] at other
    obtain ⟨balanced, settled⟩ := conserved_release pool .finished policy
      (conserved.queue.set stored rfl
        (fun member => absurd member (conserved.not_queued stored resolved _))
        (fun waits => by simp [Caller.isWaiting] at waits))
      conserved.slots conserved.total_le conserved.depth_le stored resolved live (Or.inl rfl)
    refine ⟨balanced, fun other pumped => ?_⟩
    cases pumped
    exact settled
  | kick policy =>
    obtain rfl : pool.pump policy = next := Option.some.inj steps
    refine ⟨conserved_pump conserved policy, fun other pumped => ?_⟩
    cases pumped
    exact settled_pump conserved policy

theorem limits_step {action : Action} (steps : pool.step action = some next) :
    next.limits = pool.limits := by
  cases action with
  | arrive policy profileId =>
    obtain rfl : pool.arrive policy profileId = next := Option.some.inj steps
    unfold arrive
    dsimp only
    split
    · rfl
    · rw [limits_enter, pump, limits_pumpFrom, push]
  | cancel index =>
    obtain ⟨caller, _, _, _, rfl⟩ := step_cancel steps
    rfl
  | resume policy index =>
    obtain ⟨caller, _, _, _, _, rfl⟩ := step_resume steps
    unfold resume
    dsimp only
    split
    · rfl
    · split
      · rw [release, pump, limits_pumpFrom]
      · rfl
  | finish policy index =>
    obtain ⟨caller, _, _, rfl⟩ := step_finish steps
    rw [release, pump, limits_pumpFrom]
  | kick policy =>
    obtain rfl : pool.pump policy = next := Option.some.inj steps
    rw [pump, limits_pumpFrom]

/-- Every reachable pool keeps both accounts. -/
theorem conserved_run {limits : PoolLimits} {actions : List Action}
    (runs : Machine.run step (empty limits) actions = some pool) :
    pool.Conserved ∧ pool.limits = limits := by
  refine Machine.invariant_run (fun pool => pool.Conserved ∧ pool.limits = limits)
    (fun _ _ _ kept steps => ?_) ⟨conserved_empty limits, rfl⟩ runs
  exact ⟨(conserved_step kept.1 steps).1, (limits_step steps).trans kept.2⟩

/-- In every run of the pool the running counts are the callers that hold a slot and never exceed
the maximum, the waiters never exceed theirs, no call is handed a second slot, a cancelled one
leaves no slot behind, and every pump runs up to the width or until no waiter is admitted. -/
theorem slots_conserved (limits : PoolLimits) (actions : List Action) (pool : PluginAdmission)
    (runs : Machine.run step (empty limits) actions = some pool) :
    (∀ profileId, pool.running.count profileId = pool.callers.countP (Caller.holdsFor profileId)) ∧
      pool.running.total = pool.callers.countP Caller.holds ∧
      pool.running.total ≤ limits.maxConcurrent ∧
      pool.queue.depth ≤ limits.maxWaiting ∧
      (∀ caller ∈ pool.callers, caller.grants ≤ 1 ∧
        (caller.waiter = .cancelled → caller.grants = 0) ∧
        (caller.task = .cancelled → caller.grants = caller.releases)) ∧
      ∀ action next, pool.step action = some next →
        ∀ policy, pool.pumpedUnder action = some policy → next.Settled policy := by
  obtain ⟨conserved, same⟩ := conserved_run runs
  refine ⟨conserved.slots.count, conserved.slots.total, same ▸ conserved.total_le,
    same ▸ conserved.depth_le, fun caller member => ?_, fun action next steps =>
      (conserved_step conserved steps).2⟩
  obtain ⟨index, stored⟩ := List.mem_iff_getElem?.mp member
  have wellFormed := conserved.slots.wellFormed index caller stored
  exact ⟨wellFormed.grants_le_one, wellFormed.grants_of_cancelled,
    wellFormed.released_of_cancelled⟩

/-- One slot: a waiting call is handed the slot of a finished one and cancelled before it resumes,
and the slot goes to the call queued behind it. -/
theorem slots_conserved_handover :
    let policy : AdmissionPolicy := ⟨fun _ => .integer 2, some fun _ => true, some fun _ => .fails⟩
    let limits : PoolLimits := ⟨1, 2, by decide, by decide, by decide, by decide⟩
    let actions : List Action :=
      [.arrive policy "alpha", .arrive policy "beta", .finish policy 0, .cancel 1,
        .arrive policy "gamma", .resume policy 1]
    ∃ pool, Machine.run step (empty limits) actions = some pool ∧
      pool.callers.map Caller.grants = [1, 1, 1] ∧ pool.callers.map Caller.releases = [1, 1, 0] ∧
      pool.running.total = pool.callers.countP Caller.holds := by
  intro policy limits actions
  have outcome : (Machine.run step (empty limits) actions).map (fun pool =>
      (pool.callers.map Caller.grants, pool.callers.map Caller.releases)) =
        some ([1, 1, 1], [1, 1, 0]) := by decide +kernel
  obtain ⟨pool, runs, counts⟩ := Option.map_eq_some_iff.mp outcome
  obtain ⟨grants, releases⟩ := Prod.mk.inj counts
  exact ⟨pool, runs, grants, releases, (slots_conserved limits actions pool runs).2.1⟩

end PluginAdmission

end Omnitensor
