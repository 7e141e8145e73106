/-
This file proves when the guard of the control surface keeps every caller within its quotas.

A window forgets only calls that are too old to count, so as long as a caller has one window the
calls in it are those that matter. A window is lost when it makes room in the table. The table is
as large as the callers it is meant for, but it holds one window for each method a caller calls: a
caller that calls other methods can push its own window out and start again with an empty one.

Nothing is lost by it when the window that makes room is idle. The invariant says that every call
the table has no window for is over and old, and that a window counts what is not. Every step that
lets only idle windows make room keeps it.
-/

import Omnitensor.ControlGuard
import Omnitensor.Fallible
import Omnitensor.Table

namespace Omnitensor

open Table

namespace ControlGuard

/-! ### Windows that make room -/

/-- The windows that make room for a caller. -/
def evicted (guard : ControlGuard) (key : String × String) : List ((String × String) × Nat) :=
  (guard.touched key).entries.take (guard.surplus key)

/-- No call of a window is under way or recent enough to count. -/
def Idle (guard : ControlGuard) (now : Rat) (entry : (String × String) × Nat) : Prop :=
  (guard.read entry.2).inFlight = 0 ∧ ∀ quota ∈ guard.quotas.get? entry.1.1,
    ∀ call ∈ (guard.read entry.2).calls, call ≤ guard.clock.minus now quota.windowSeconds

instance (guard : ControlGuard) (now : Rat) (entry : (String × String) × Nat) :
    Decidable (guard.Idle now entry) := inferInstanceAs (Decidable (_ ∧ _))

/-! ### Looking windows up -/

@[simp] theorem read_window (guard : ControlGuard) (key : String × String) (index : Nat) :
    (guard.window key).read index = guard.read index := by
  simp only [window, read]
  split
  · rfl
  · rw [getElem?_concat]
    split
    · rename_i last
      rw [last, List.getElem?_eq_none (Nat.le_refl _)]
      rfl
    · rfl

variable {guard : ControlGuard} {index : Nat} {key other : String × String}

theorem read_write (placed : index < guard.heap.length) (window : CallerWindow) (other : Nat) :
    (guard.write index window).read other = if other = index then window else guard.read other := by
  rw [read, write, getElem?_set (List.getElem?_eq_getElem placed)]
  split <;> rfl

theorem entries_touched (guard : ControlGuard) (key : String × String) :
    (guard.touched key).entries =
      (guard.windows.erase key).entries ++ [(key, guard.windowIndex key)] :=
  Dict.setEntries_of_not_mem (fun member => (Dict.mem_keys_erase.mp member).1 rfl) _

/-- The caller that was just seen keeps its window. -/
theorem get?_windows_self (tracked : 1 ≤ guard.maxTrackedCallers) (key : String × String) :
    (guard.window key).windows.get? key = some (guard.windowIndex key) := by
  have few : guard.surplus key ≤ (guard.windows.erase key).entries.length := by
    have size := congrArg List.length (guard.entries_touched key)
    rw [List.length_append, List.length_singleton] at size
    rw [surplus, Dict.size]
    omega
  refine Dict.get?_eq_some_iff.mpr ?_
  show _ ∈ (guard.touched key).entries.drop (guard.surplus key)
  rw [entries_touched, List.drop_append_of_le_length few]
  exact List.mem_append_right _ List.mem_cons_self

/-- A window of another caller is one it had. -/
theorem get?_of_get?_windows (different : other ≠ key)
    (found : (guard.window key).windows.get? other = some index) :
    guard.windows.get? other = some index := by
  have seen : (guard.touched key).get? other = some index := Dict.get?_of_get?_drop found
  rwa [touched, Dict.get?_set_of_ne _ _ _ different, Dict.get?_erase, if_neg different] at seen

/-- A caller keeps its window unless the window makes room. -/
theorem kept_or_evicted (different : other ≠ key) (found : guard.windows.get? other = some index) :
    (guard.window key).windows.get? other = some index ∨ (other, index) ∈ guard.evicted key := by
  have seen : (guard.touched key).get? other = some index := by
    rw [touched, Dict.get?_set_of_ne _ _ _ different, Dict.get?_erase, if_neg different, found]
  have member := Dict.get?_eq_some_iff.mp seen
  rw [← List.take_append_drop (guard.surplus key) (guard.touched key).entries] at member
  rcases List.mem_append.mp member with out | kept
  · exact Or.inr out
  · exact Or.inl (Dict.get?_eq_some_iff.mpr kept)

/-- The number a caller is looked up under is that of its window, or a new one. -/
theorem windowIndex_cases (guard : ControlGuard) (key : String × String) :
    guard.windows.get? key = some (guard.windowIndex key) ∨
      guard.windows.get? key = none ∧ guard.windowIndex key = guard.heap.length := by
  rw [windowIndex]
  cases guard.windows.get? key with
  | none => exact Or.inr ⟨rfl, rfl⟩
  | some index => exact Or.inl rfl

theorem length_heap_le (guard : ControlGuard) (key : String × String) :
    guard.heap.length ≤ (guard.window key).heap.length := by
  simp only [window]
  split
  · exact Nat.le_refl _
  · rw [List.length_append]
    exact Nat.le_add_right _ _

theorem windowIndex_lt
    (placed : ∀ key index, guard.windows.get? key = some index → index < guard.heap.length)
    (key : String × String) : guard.windowIndex key < (guard.window key).heap.length := by
  rcases guard.windowIndex_cases key with found | ⟨absent, last⟩
  · exact Nat.lt_of_lt_of_le (placed key _ found) (guard.length_heap_le key)
  · rw [last, window]
    simp only [if_neg (Dict.get?_eq_none_iff.mp absent), List.length_append, List.length_singleton]
    exact Nat.lt_succ_self _

theorem quota_of_checked {method : String} {payload : Option PyString} {quota : MethodQuota}
    (checks : guard.checked method payload = .ok quota) :
    guard.quotas.get? method = some quota := by
  rw [ControlGuard.checked, bind_eq_ok] at checks
  obtain ⟨listed, found, rest⟩ := checks
  obtain ⟨_, _, same⟩ := bind_eq_ok.mp rest
  cases same
  rw [ControlGuard.quotaFor] at found
  split at found
  · cases found
  · cases found
    assumption

end ControlGuard

/-! ### Expired calls -/

/-- A horizon that is not before the one calls are forgotten at counts them as before. -/
theorem CallerWindow.countP_expire (window : CallerWindow) {horizon later : Rat}
    (ordered : horizon ≤ later) :
    (window.expire horizon).calls.countP (fun call => decide (later < call)) =
      window.calls.countP fun call => decide (later < call) := by
  have split := congrArg (List.countP fun call => decide (later < call))
    (List.takeWhile_append_dropWhile (p := fun call => decide (call ≤ horizon))
      (l := window.calls))
  rw [List.countP_append] at split
  have forgotten : (window.calls.takeWhile fun call => decide (call ≤ horizon)).countP
      (fun call => decide (later < call)) = 0 := by
    rw [List.countP_eq_zero]
    intro call member
    have old : call ≤ horizon := by simpa using List.mem_takeWhile_imp member
    simpa using le_trans old ordered
  rwa [forgotten, Nat.zero_add] at split

namespace GuardRun

/-- How many calls that were charged to a window were admitted after an instant. -/
def chargedAfter (run : GuardRun) (index : Nat) (horizon : Rat) : Nat :=
  run.admissions.countP fun admission =>
    decide (admission.window = index ∧ horizon < admission.instant)

/-- How many calls that were charged to a window are under way. -/
def chargedUnderWay (run : GuardRun) (index : Nat) : Nat :=
  run.admissions.countP fun admission =>
    decide (admission.window = index ∧ admission.released = false)

/-- A call is over, and so old that it does not count. -/
def Settled (run : GuardRun) (admission : Admission) : Prop :=
  admission.released = true ∧ ∀ quota, run.guard.quotas.get? admission.method = some quota →
    admission.instant ≤ run.guard.clock.minus run.reading quota.windowSeconds

/-- What the table says of the calls that were admitted. -/
structure Accounted (run : GuardRun) : Prop where
  tracked : 1 ≤ run.guard.maxTrackedCallers
  placed : ∀ key index, run.guard.windows.get? key = some index → index < run.guard.heap.length
  distinct : ∀ first second index, run.guard.windows.get? first = some index →
    run.guard.windows.get? second = some index → first = second
  made : ∀ admission ∈ run.admissions, admission.window < run.guard.heap.length
  own : ∀ admission ∈ run.admissions, ∀ key,
    run.guard.windows.get? key = some admission.window → key = (admission.method, admission.owner)
  /-- A call that still matters was charged to the window its caller has. -/
  current : ∀ admission ∈ run.admissions,
    run.guard.windows.get? (admission.method, admission.owner) = some admission.window ∨
      run.Settled admission
  past : ∀ admission ∈ run.admissions, admission.instant ≤ run.reading
  underWay : ∀ index, (run.guard.read index).inFlight = run.chargedUnderWay index
  /-- A window holds the calls that still count. -/
  recent : ∀ key index quota, run.guard.windows.get? key = some index →
    run.guard.quotas.get? key.1 = some quota → ∀ horizon,
    run.guard.clock.minus run.reading quota.windowSeconds ≤ horizon →
    run.chargedAfter index horizon ≤
      (run.guard.read index).calls.countP fun call => decide (horizon < call)
  concurrent : ∀ key index quota, run.guard.windows.get? key = some index →
    run.guard.quotas.get? key.1 = some quota →
    (run.guard.read index).inFlight ≤ quota.maxConcurrent
  rate : ∀ method quota, run.guard.quotas.get? method = some quota → ∀ owner instant,
    run.admittedWithin method owner (run.guard.clock.minus instant quota.windowSeconds) instant ≤
      quota.maxCalls

namespace Accounted

variable {run : GuardRun}

theorem withinQuotas (accounted : run.Accounted) : run.WithinQuotas := by
  intro method quota listed owner
  refine ⟨accounted.rate method quota listed owner, ?_⟩
  cases found : run.guard.windows.get? (method, owner) with
  | none =>
    have nothing : run.underWay method owner = 0 := by
      rw [GuardRun.underWay, List.countP_eq_zero]
      intro admission member
      simp only [decide_eq_true_eq, not_and, Bool.not_eq_false]
      rintro rfl rfl
      rcases accounted.current admission member with held | settled
      · rw [found] at held
        cases held
      · exact settled.1
    omega
  | some index =>
    refine le_trans ?_ (accounted.concurrent _ index quota found listed)
    rw [accounted.underWay, GuardRun.underWay, chargedUnderWay]
    refine List.countP_mono_left fun admission member counted => ?_
    simp only [decide_eq_true_eq] at counted ⊢
    obtain ⟨rfl, rfl, running⟩ := counted
    rcases accounted.current admission member with held | settled
    · rw [found] at held
      exact ⟨(Option.some.inj held).symm, running⟩
    · rw [settled.1] at running
      cases running

/-- Time that passes keeps the account. -/
theorem passed (accounted : run.Accounted) {now : Rat} (later : run.reading ≤ now) :
    Accounted { run with reading := now } :=
  { tracked := accounted.tracked
    placed := accounted.placed
    distinct := accounted.distinct
    made := accounted.made
    own := accounted.own
    current := fun admission member => (accounted.current admission member).imp_right
      fun settled => ⟨settled.1, fun quota listed =>
        le_trans (settled.2 quota listed) (run.guard.clock.monotone _ later)⟩
    past := fun admission member => le_trans (accounted.past admission member) later
    underWay := accounted.underWay
    recent := fun key index quota held listed horizon after =>
      accounted.recent key index quota held listed horizon
        (le_trans (run.guard.clock.monotone _ later) after)
    concurrent := accounted.concurrent
    rate := accounted.rate }

/-- A window that makes room while it is idle leaves its calls settled. -/
theorem settled_of_idle (accounted : run.Accounted) {admission : Admission}
    (member : admission ∈ run.admissions)
    (held : run.guard.windows.get? (admission.method, admission.owner) = some admission.window)
    (idle : run.guard.Idle run.reading
      ((admission.method, admission.owner), admission.window)) : run.Settled admission := by
  refine ⟨?_, fun quota listed => ?_⟩
  · have none : run.chargedUnderWay admission.window = 0 :=
      (accounted.underWay admission.window).symm.trans idle.1
    simpa using List.countP_eq_zero.mp none admission member
  · have none : run.chargedAfter admission.window
        (run.guard.clock.minus run.reading quota.windowSeconds) = 0 := by
      refine Nat.le_zero.mp (le_trans
        (accounted.recent _ _ quota held listed _ (le_refl _)) ?_)
      rw [Nat.le_zero, List.countP_eq_zero]
      intro call inside
      simpa using idle.2 quota listed call inside
    simpa using List.countP_eq_zero.mp none admission member

variable {index : Nat} {quota : MethodQuota} {key : String × String} {method owner : String}

/-- Looking a window up keeps the account when only idle windows make room. -/
theorem looked (accounted : run.Accounted)
    (idle : ∀ entry ∈ run.guard.evicted key, run.guard.Idle run.reading entry) :
    Accounted { run with guard := run.guard.window key } := by
  have self := ControlGuard.get?_windows_self accounted.tracked key
  -- A window in the new table was there before, or it is new and nothing was charged to it.
  have before : ∀ other index, (run.guard.window key).windows.get? other = some index →
      run.guard.windows.get? other = some index ∨ other = key ∧ index = run.guard.heap.length := by
    intro other index found
    by_cases same : other = key
    · subst same
      rw [self] at found
      obtain rfl := Option.some.inj found
      exact (run.guard.windowIndex_cases other).imp_right fun absent => ⟨rfl, absent.2⟩
    · exact Or.inl (ControlGuard.get?_of_get?_windows same found)
  have beyond : ∀ admission ∈ run.admissions, admission.window ≠ run.guard.heap.length :=
    fun admission member => Nat.ne_of_lt (accounted.made admission member)
  refine
    { tracked := accounted.tracked
      placed := fun other index found => ?_
      distinct := fun first second index one two => ?_
      made := fun admission member =>
        Nat.lt_of_lt_of_le (accounted.made admission member) (run.guard.length_heap_le key)
      own := fun admission member other found => ?_
      current := fun admission member => ?_
      past := accounted.past
      underWay := fun index => ?_
      recent := fun other index quota found listed horizon after => ?_
      concurrent := fun other index quota found listed => ?_
      rate := accounted.rate }
  · rcases before other index found with held | ⟨rfl, rfl⟩
    · exact Nat.lt_of_lt_of_le (accounted.placed other index held) (run.guard.length_heap_le key)
    · have last := ControlGuard.windowIndex_lt accounted.placed other
      rwa [Option.some.inj (self.symm.trans found)] at last
  · rcases before first index one with held | ⟨rfl, rfl⟩
    · rcases before second index two with also | ⟨rfl, rfl⟩
      · exact accounted.distinct first second index held also
      · exact absurd (accounted.placed first _ held) (Nat.lt_irrefl _)
    · rcases before second _ two with also | ⟨same, _⟩
      · exact absurd (accounted.placed second _ also) (Nat.lt_irrefl _)
      · exact same.symm
  · rcases before other _ found with held | ⟨_, last⟩
    · exact accounted.own admission member other held
    · exact absurd last (beyond admission member)
  · rcases accounted.current admission member with held | settled
    · by_cases same : (admission.method, admission.owner) = key
      · left
        rw [same] at held ⊢
        rw [self, ControlGuard.windowIndex, held]
        rfl
      · rcases ControlGuard.kept_or_evicted same held with kept | out
        · exact Or.inl kept
        · exact Or.inr (accounted.settled_of_idle member held (idle _ out))
    · exact Or.inr settled
  · rw [ControlGuard.read_window]
    exact accounted.underWay index
  · rw [ControlGuard.read_window]
    rcases before other index found with held | ⟨_, rfl⟩
    · exact accounted.recent other index quota held listed horizon after
    · refine le_trans (Nat.le_of_eq ?_) (Nat.zero_le _)
      rw [chargedAfter, List.countP_eq_zero]
      intro admission member
      simp [beyond admission member]
  · rw [ControlGuard.read_window]
    rcases before other index found with held | ⟨_, rfl⟩
    · exact accounted.concurrent other index quota held listed
    · rw [ControlGuard.read, List.getElem?_eq_none (Nat.le_refl _)]
      exact Nat.zero_le _

/-- Forgetting the calls of a window that are too old keeps the account. -/
theorem expired (accounted : run.Accounted) (found : run.guard.windows.get? key = some index)
    (listed : run.guard.quotas.get? key.1 = some quota) :
    Accounted { run with guard := run.guard.write index ((run.guard.read index).expire
      (run.guard.clock.minus run.reading quota.windowSeconds)) } := by
  have read := ControlGuard.read_write (accounted.placed key index found)
    ((run.guard.read index).expire (run.guard.clock.minus run.reading quota.windowSeconds))
  have inFlight : ∀ other, ((run.guard.write index ((run.guard.read index).expire
      (run.guard.clock.minus run.reading quota.windowSeconds))).read other).inFlight =
      (run.guard.read other).inFlight := by
    intro other
    rw [read]
    split
    · rename_i same
      rw [same]
      rfl
    · rfl
  refine
    { tracked := accounted.tracked
      placed := fun other place held => ?_
      distinct := accounted.distinct
      made := fun admission member => ?_
      own := accounted.own
      current := accounted.current
      past := accounted.past
      underWay := fun other => (inFlight other).trans (accounted.underWay other)
      recent := fun other place quota' held also horizon after => ?_
      concurrent := fun other place quota' held also =>
        le_trans (Nat.le_of_eq (inFlight place)) (accounted.concurrent other place quota' held also)
      rate := accounted.rate }
  · show place < (run.guard.heap.set index _).length
    rw [List.length_set]
    exact accounted.placed other place held
  · show admission.window < (run.guard.heap.set index _).length
    rw [List.length_set]
    exact accounted.made admission member
  · refine le_trans (accounted.recent other place quota' held also horizon after) (Nat.le_of_eq ?_)
    rw [read]
    split
    · rename_i same
      subst same
      obtain rfl := accounted.distinct other key place held found
      obtain rfl := Option.some.inj (also.symm.trans listed)
      exact ((run.guard.read place).countP_expire after).symm
    · rfl

/-- The calls that count at an instant from the last reading on were charged to the window their
caller has, which holds them. -/
theorem admittedWithin_le (accounted : run.Accounted)
    (found : run.guard.windows.get? key = some index)
    (listed : run.guard.quotas.get? key.1 = some quota) {instant : Rat}
    (later : run.reading ≤ instant) :
    run.admittedWithin key.1 key.2 (run.guard.clock.minus instant quota.windowSeconds) instant ≤
      (run.guard.read index).calls.length := by
  refine le_trans ?_ (le_trans (accounted.recent key index quota found listed _
    (run.guard.clock.monotone _ later)) List.countP_le_length)
  refine List.countP_mono_left fun admission member counted => ?_
  simp only [decide_eq_true_eq] at counted ⊢
  obtain ⟨method, owner, after, _⟩ := counted
  rcases accounted.current admission member with held | settled
  · rw [method, owner] at held
    exact ⟨Option.some.inj (held.symm.trans found), after⟩
  · have old := settled.2 quota (method ▸ listed)
    exact absurd (lt_of_lt_of_le after (le_trans old (run.guard.clock.monotone _ later)))
      (lt_irrefl _)

/-- Charging a call that the quota allows keeps the account. -/
theorem charged (accounted : run.Accounted)
    (found : run.guard.windows.get? (method, owner) = some index)
    (listed : run.guard.quotas.get? method = some quota)
    (few : (run.guard.read index).calls.length < quota.maxCalls)
    (free : (run.guard.read index).inFlight < quota.maxConcurrent) :
    Accounted { run with
      guard := run.guard.write index ((run.guard.read index).charge run.reading)
      admissions := run.admissions ++ [⟨method, owner, run.reading, index, false⟩] } := by
  have placed := accounted.placed _ index found
  have read := ControlGuard.read_write placed ((run.guard.read index).charge run.reading)
  have length : (run.guard.write index ((run.guard.read index).charge run.reading)).heap.length =
      run.guard.heap.length := List.length_set
  refine
    { tracked := accounted.tracked
      placed := fun other place held => length ▸ accounted.placed other place held
      distinct := accounted.distinct
      made := fun admission member => ?_
      own := fun admission member other held => ?_
      current := fun admission member => ?_
      past := fun admission member => ?_
      underWay := fun other => ?_
      recent := fun other place quota' held also horizon after => ?_
      concurrent := fun other place quota' held also => ?_
      rate := fun method' quota' listed' owner' instant => ?_ }
  · rcases List.mem_append.mp member with old | new
    · exact length ▸ accounted.made admission old
    · obtain rfl := List.mem_singleton.mp new
      exact length ▸ placed
  · rcases List.mem_append.mp member with old | new
    · exact accounted.own admission old other held
    · obtain rfl := List.mem_singleton.mp new
      exact accounted.distinct other _ index held found
  · rcases List.mem_append.mp member with old | new
    · exact accounted.current admission old
    · obtain rfl := List.mem_singleton.mp new
      exact Or.inl found
  · rcases List.mem_append.mp member with old | new
    · exact accounted.past admission old
    · obtain rfl := List.mem_singleton.mp new
      exact le_refl _
  · show ((run.guard.write index _).read other).inFlight = List.countP _ _
    rw [read, List.countP_append, List.countP_singleton]
    by_cases same : other = index
    · subst same
      simp only [if_true, CallerWindow.charge, accounted.underWay, chargedUnderWay, and_self,
        decide_true]
    · simp only [if_neg same, accounted.underWay, chargedUnderWay, Ne.symm same, false_and,
        decide_false, Bool.false_eq_true, if_false, Nat.add_zero]
  · show List.countP _ _ ≤ List.countP _ ((run.guard.write index _).read place).calls
    have earlier := accounted.recent other place quota' held also horizon after
    rw [read, List.countP_append, List.countP_singleton]
    by_cases same : place = index
    · subst same
      simp only [if_true, CallerWindow.charge, List.countP_append, List.countP_singleton, true_and]
      exact Nat.add_le_add_right earlier _
    · simpa only [if_neg same, Ne.symm same, false_and, decide_false, Bool.false_eq_true, if_false,
        Nat.add_zero, chargedAfter] using earlier
  · show ((run.guard.write index _).read place).inFlight ≤ quota'.maxConcurrent
    have earlier := accounted.concurrent other place quota' held also
    rw [read]
    by_cases same : place = index
    · subst same
      obtain rfl := accounted.distinct other _ place held found
      obtain rfl := Option.some.inj (also.symm.trans listed)
      rw [if_pos rfl]
      exact free
    · rwa [if_neg same]
  · show List.countP _ _ ≤ quota'.maxCalls
    have earlier := accounted.rate method' quota' listed' owner' instant
    rw [List.countP_append, List.countP_singleton]
    split
    · rename_i counts
      simp only [decide_eq_true_eq] at counts
      obtain ⟨rfl, rfl, _, later⟩ := counts
      obtain rfl := Option.some.inj (listed'.symm.trans listed)
      exact Nat.lt_of_le_of_lt (accounted.admittedWithin_le found listed later) few
    · exact earlier

/-- Giving the slot of a call back keeps the account. -/
theorem released (accounted : run.Accounted) {call : Nat} {admission : Admission}
    (admitted : run.admissions[call]? = some admission) (running : admission.released = false) :
    Accounted { run with
      guard := run.guard.releaseAdmitted admission.window
      admissions := run.admissions.set call { admission with released := true } } := by
  have member := List.mem_of_getElem? admitted
  have read := ControlGuard.read_write (accounted.made admission member)
    (run.guard.read admission.window).release
  have length : (run.guard.releaseAdmitted admission.window).heap.length =
      run.guard.heap.length := List.length_set
  have counted := countP_set admitted { admission with released := true }
  -- Every call is one that was there, or the one that ends now.
  have each : ∀ holds : Admission → Prop, (∀ other ∈ run.admissions, holds other) →
      holds { admission with released := true } →
      ∀ other ∈ run.admissions.set call { admission with released := true }, holds other :=
    fun holds all this other inside =>
      (List.mem_or_eq_of_mem_set inside).elim (all other) fun same => same ▸ this
  refine
    { tracked := accounted.tracked
      placed := fun other place held => length ▸ accounted.placed other place held
      distinct := accounted.distinct
      made := each _ (fun other inside => length ▸ accounted.made other inside)
        (length ▸ accounted.made admission member)
      own := each _ accounted.own (accounted.own admission member)
      current := each _ accounted.current ?_
      past := each _ accounted.past (accounted.past admission member)
      underWay := fun other => ?_
      recent := fun other place quota held also horizon after => ?_
      concurrent := fun other place quota held also => ?_
      rate := fun method quota listed owner instant => ?_ }
  · exact (accounted.current admission member).imp_right fun settled => ⟨rfl, settled.2⟩
  · show ((run.guard.write admission.window _).read other).inFlight = List.countP _ _
    have count := counted fun row => decide (row.window = other ∧ row.released = false)
    rw [read]
    by_cases same : other = admission.window
    · subst same
      simp only [if_true, CallerWindow.release, accounted.underWay, chargedUnderWay]
      simp only [running, and_self, decide_true, Bool.true_eq_false, and_false, decide_false,
        Bool.false_eq_true, if_true, if_false, Nat.add_zero] at count
      omega
    · simp only [if_neg same, accounted.underWay, chargedUnderWay]
      simp only [Ne.symm same, false_and, decide_false, Bool.false_eq_true, if_false,
        Nat.add_zero] at count
      exact count.symm
  · show List.countP _ _ ≤ List.countP _ ((run.guard.write admission.window _).read place).calls
    rw [Nat.add_right_cancel (counted fun row => decide (row.window = place ∧ horizon < row.instant)),
      read]
    refine le_trans (accounted.recent other place quota held also horizon after)
      (Nat.le_of_eq ?_)
    split
    · rename_i same
      rw [same]
      rfl
    · rfl
  · show ((run.guard.write admission.window _).read place).inFlight ≤ quota.maxConcurrent
    refine le_trans ?_ (accounted.concurrent other place quota held also)
    rw [read]
    split
    · rename_i same
      rw [same]
      exact Nat.sub_le _ _
    · exact Nat.le_refl _
  · have same := Nat.add_right_cancel (counted fun row => decide (row.method = method ∧
      row.owner = owner ∧ run.guard.clock.minus instant quota.windowSeconds < row.instant ∧
      row.instant ≤ instant))
    exact (Nat.le_of_eq same).trans (accounted.rate method quota listed owner instant)

/-- Charging a call keeps the account, whether the quota allows it or not. -/
theorem noted_charge (accounted : run.Accounted)
    (found : run.guard.windows.get? (method, owner) = some index)
    (listed : run.guard.quotas.get? method = some quota) :
    Accounted (run.noted method owner (run.guard.charge method quota index run.reading)) := by
  rw [ControlGuard.charge]
  split
  · exact accounted
  · rename_i few
    split
    · exact accounted
    · rename_i free
      exact accounted.charged found listed (Nat.lt_of_not_le few) (Nat.lt_of_not_le free)

/-- A call keeps the account when only idle windows make room for it. -/
theorem noted_admitCall (accounted : run.Accounted) {payload : Option PyString}
    (idle : (run.guard.checked method payload).isOk = true →
      ∀ entry ∈ run.guard.evicted (method, owner), run.guard.Idle run.reading entry) :
    Accounted (run.noted method owner (run.guard.admitCall method owner payload run.reading)) := by
  rw [ControlGuard.admitCall]
  cases checks : run.guard.checked method payload with
  | error refused => exact accounted
  | ok quota =>
    have listed := ControlGuard.quota_of_checked checks
    have found := ControlGuard.get?_windows_self accounted.tracked (method, owner)
    have ready := (accounted.looked (idle (by rw [checks]; rfl))).expired found listed
    exact ready.noted_charge found listed

end Accounted

/-- The condition under which a step loses nothing: a call that is charged finds its window, or
room for one, or the windows that make room are idle. -/
def EvictsIdle (run : GuardRun) : Action → Prop
  | .admitCall method owner payload now =>
    (run.guard.checked method payload).isOk = true →
      ∀ entry ∈ run.guard.evicted (method, owner), run.guard.Idle now entry
  | .release _ => True

instance (run : GuardRun) : (action : Action) → Decidable (run.EvictsIdle action)
  | .admitCall _ _ _ _ => inferInstanceAs (Decidable (_ → _))
  | .release _ => inferInstanceAs (Decidable True)

theorem accounted_step {run next : GuardRun} {action : Action} (accounted : run.Accounted)
    (idle : run.EvictsIdle action) (steps : run.step action = some next) : next.Accounted := by
  cases action with
  | admitCall method owner payload now =>
    rw [step] at steps
    split at steps
    · cases steps
    · rename_i later
      obtain rfl := Option.some.inj steps
      exact (accounted.passed (le_of_not_gt later)).noted_admitCall idle
  | release call =>
    rw [step] at steps
    split at steps
    · cases steps
    · split at steps
      · cases steps
      · rename_i admission admitted running
        obtain rfl := Option.some.inj steps
        exact accounted.released admitted (Bool.eq_false_iff.mpr running)

theorem accounted_start {clock : ClockArithmetic} {stack maxTrackedCallers : Nat}
    {quotas : List (String × MethodQuota)} {guard : ControlGuard}
    (made : ControlGuard.new clock stack quotas maxTrackedCallers = .ok guard) (reading : Rat) :
    (start guard reading).Accounted := by
  rw [ControlGuard.new] at made
  split at made
  · cases made
  · rename_i bounded
    rw [not_not] at bounded
    obtain ⟨_, _, same⟩ := bind_eq_ok.mp made
    cases same
    exact
      { tracked := bounded.1
        placed := fun _ _ found => nomatch found
        distinct := fun _ _ _ found => nomatch found
        made := fun _ member => nomatch member
        own := fun _ member => nomatch member
        current := fun _ member => nomatch member
        past := fun _ member => nomatch member
        underWay := fun _ => rfl
        recent := fun _ _ _ found => nomatch found
        concurrent := fun _ _ _ found => nomatch found
        rate := fun _ _ _ _ _ => Nat.zero_le _ }

/-- The limits hold along every run in which only idle windows make room. A method with a quota is called
by one owner no more often in any window of time, and is under way for it no more often at once, than the
quota says. -/
theorem withinQuotas_of_evictsIdle {clock : ClockArithmetic} {stack maxTrackedCallers : Nat}
    {quotas : List (String × MethodQuota)} {guard : ControlGuard}
    (made : ControlGuard.new clock stack quotas maxTrackedCallers = .ok guard) {reading : Rat}
    {actions : List Action} {run : GuardRun}
    (runs : Machine.run step (start guard reading) actions = some run)
    (idle : Machine.Throughout step EvictsIdle (start guard reading) actions) :
    run.WithinQuotas :=
  (Machine.invariant_run_throughout Accounted
    (fun _ _ _ accounted idle steps => accounted_step accounted idle steps)
    (accounted_start made reading) idle runs).withinQuotas

/-- One call in ten seconds. -/
def seldom : MethodQuota := ⟨1, 1, 10, 4⟩

/-- Two callers, the second of which calls when the window of the first is idle. -/
def spacedCalls : List Action :=
  [.admitCall "describe-plugins" "uid:1000" (some []) 0, .release 0,
    .admitCall "describe-plugins" "uid:1001" (some []) 10]

theorem spacedCalls_evict_idle :
    (ControlGuard.new .exact 1 [("describe-plugins", seldom)] 1).toOption.any (fun guard =>
      decide (Machine.Throughout step EvictsIdle (start guard 0) spacedCalls) &&
        (Machine.run step (start guard 0) spacedCalls).any fun run =>
          decide (run.admissions.length = 2)) = true := by
  decide +kernel

theorem withinQuotas_of_evictsIdle_spaced :
    ∃ guard run, ControlGuard.new .exact 1 [("describe-plugins", seldom)] 1 = .ok guard ∧
      Machine.run step (start guard 0) spacedCalls = some run ∧ run.admissions.length = 2 ∧
      run.WithinQuotas := by
  obtain ⟨guard, made, passes⟩ := exists_ok_of_any spacedCalls_evict_idle
  rw [Bool.and_eq_true, decide_eq_true_eq] at passes
  obtain ⟨run, runs, two⟩ := Machine.exists_run_of_any passes.2
  exact ⟨guard, run, made, runs, of_decide_eq_true two,
    withinQuotas_of_evictsIdle made runs passes.1⟩

/-! ### A caller that calls two methods -/

/-- The owners that call along a run. -/
def owners (actions : List Action) : List String :=
  (actions.filterMap fun action =>
    match action with
    | .admitCall _ owner _ _ => some owner
    | .release _ => none).dedup

/-- One caller, which calls another method in between. -/
def alternatingCalls : List Action :=
  [.admitCall "describe-plugins" "uid:1000" (some []) 0,
    .admitCall "describe-contract" "uid:1000" (some []) 1,
    .admitCall "describe-plugins" "uid:1000" (some []) 2]

theorem alternatingCalls_exceed :
    (ControlGuard.new .exact 1 [("describe-plugins", seldom)] 1).toOption.any (fun guard =>
      (Machine.run step (start guard 0) alternatingCalls).any fun run =>
        decide (run.guard.quotas.get? "describe-plugins" = some seldom) &&
          decide (1 < run.admittedWithin "describe-plugins" "uid:1000"
            (run.guard.clock.minus 2 10) 2)) = true := by
  decide +kernel

/-- A guard sized for its callers does not keep them within their quotas: one owner clears its own
record by calling another method. -/
theorem not_withinQuotas :
    ¬ ∀ clock stack quotas maxTrackedCallers guard reading actions run,
      ControlGuard.new clock stack quotas maxTrackedCallers = .ok guard →
      Machine.run step (start guard reading) actions = some run →
      (owners actions).length ≤ maxTrackedCallers → run.WithinQuotas := by
  intro limited
  obtain ⟨guard, made, passes⟩ := exists_ok_of_any alternatingCalls_exceed
  obtain ⟨run, runs, exceeds⟩ := Machine.exists_run_of_any passes
  rw [Bool.and_eq_true, decide_eq_true_eq, decide_eq_true_eq] at exceeds
  have within := limited _ _ _ _ guard 0 alternatingCalls run made runs (by decide)
  exact absurd ((within _ seldom exceeds.1 "uid:1000").1 2) (Nat.not_le_of_lt exceeds.2)

end GuardRun

end Omnitensor
