/-
This file proves that a coordinator of triggers neither loses nor repeats work.

Whatever is submitted, ticked and collected, and however collections end, the keys of the queue are the
set of keys, none twice, and the triggers whose submission was accepted are those that were handed over,
in order, followed by those that wait. A tick submits every registration that is due, unless the number
of a trigger is longer than an id may be.
-/

import Omnitensor.TriggerCoordinator
import Omnitensor.Fallible

namespace Omnitensor

namespace Triggers

open PyString (ofString)

variable {Real Collector : Type} {settings : TriggerSettings}

/-! ### Checks -/

variable {pluginId : PyString} {nowMs intervalMs firstDueMs : Int}
  {registration : PeriodicRegistration Real} {trigger : Trigger Real} {collector : Collector}
  {registrations : List (PeriodicRegistration Real)} {actions : List (TriggerAction Real Collector)}
  {count : Nat} {coordinator next : TriggerCoordinator Real Collector}
  {receipt : TriggerReceipt Real} {answers : List (Answer Real)} {payload : PyValue Real}

theorem requireCollector_eq_ok :
    requireCollector settings pluginId coordinator = .ok collector ↔
      validPluginId pluginId = true ∧ coordinator.collectors.get? pluginId = some collector := by
  rw [requireCollector, validatePluginId]
  by_cases valid : validPluginId pluginId = true
  · rw [if_pos valid, ok_bind, and_iff_right valid]
    cases found : coordinator.collectors.get? pluginId with
    | none => exact iff_of_false nofun nofun
    | some other => simp
  · rw [if_neg valid]
    exact iff_of_false nofun fun both => valid both.1

variable [FloatText Real]

/-- What a submission that is answered does. -/
theorem submit_cases (answers : submit settings trigger coordinator = .ok (receipt, next)) :
    receipt.trigger = trigger ∧ (coordinator.collectors.get? trigger.pluginId).isSome ∧
      ((receipt.disposition = .coalesced ∧ key trigger ∈ coordinator.pendingKeys ∧ next = coordinator) ∨
      (receipt.disposition = .queueFull ∧ next = coordinator) ∨
      (receipt.disposition = .accepted ∧ key trigger ∉ coordinator.pendingKeys ∧
        coordinator.pending.length < settings.maxPending ∧
        next = { coordinator with
          pending := coordinator.pending ++ [trigger]
          pendingKeys := insert (key trigger) coordinator.pendingKeys })) := by
  obtain ⟨collector, required, rest⟩ := bind_eq_ok.mp answers
  obtain ⟨_, _, rest⟩ := bind_eq_ok.mp rest
  obtain ⟨_, _, rest⟩ := bind_eq_ok.mp rest
  obtain ⟨_, _, rest⟩ := bind_eq_ok.mp rest
  have registered : (coordinator.collectors.get? trigger.pluginId).isSome :=
    Option.isSome_iff_exists.mpr ⟨collector, (requireCollector_eq_ok.mp required).2⟩
  split_ifs at rest with waiting full
  · cases rest
    exact ⟨rfl, registered, .inl ⟨rfl, waiting, rfl⟩⟩
  · cases rest
    exact ⟨rfl, registered, .inr (.inl ⟨rfl, rfl⟩)⟩
  · cases rest
    exact ⟨rfl, registered, .inr (.inr ⟨rfl, waiting, Nat.lt_of_not_le full, rfl⟩)⟩

/-- A trigger that passes every check is answered. -/
theorem submit_answers (valid : validPluginId trigger.pluginId = true)
    (registered : (coordinator.collectors.get? trigger.pluginId).isSome)
    (correlation : validateCorrelationId trigger.triggerId = .ok ())
    (created : 0 ≤ trigger.createdAtMs)
    (payload : validatePayload settings trigger.payload = .ok ()) :
    ∃ receipt next, submit settings trigger coordinator = .ok (receipt, next) := by
  obtain ⟨collector, found⟩ := Option.isSome_iff_exists.mp registered
  rw [submit, requireCollector_eq_ok.mpr ⟨valid, found⟩, ok_bind, correlation, ok_bind,
    validateNonNegativeInteger, if_neg (not_lt.mpr created), ok_bind, payload, ok_bind]
  split_ifs
  · exact ⟨_, _, rfl⟩
  · exact ⟨_, _, rfl⟩
  · exact ⟨_, _, rfl⟩

theorem submit_collectors (answers : submit settings trigger coordinator = .ok (receipt, next)) :
    next.collectors = coordinator.collectors ∧ next.periodic = coordinator.periodic := by
  rcases (submit_cases answers).2.2 with ⟨_, _, rfl⟩ | ⟨_, rfl⟩ | ⟨_, _, _, rfl⟩
  · exact ⟨rfl, rfl⟩
  · exact ⟨rfl, rfl⟩
  · exact ⟨rfl, rfl⟩

/-! ### What calls preserve -/

/-- The set of keys is that of the queue, which holds no key twice and only triggers of collectors. -/
structure Queued (settings : TriggerSettings) (coordinator : TriggerCoordinator Real Collector) :
    Prop where
  keys : coordinator.pendingKeys = (coordinator.pending.map key).toFinset
  once : (coordinator.pending.map key).Nodup
  bounded : coordinator.pending.length ≤ settings.maxPending
  registered : ∀ trigger ∈ coordinator.pending, (coordinator.collectors.get? trigger.pluginId).isSome

/-- A registration that no check of a submission refuses, but for the number of its trigger. -/
structure Submittable (settings : TriggerSettings) (collectors : Dict PyString Collector)
    (registration : PeriodicRegistration Real) : Prop where
  valid : validPluginId registration.pluginId = true
  registered : (collectors.get? registration.pluginId).isSome
  payload : validatePayload settings registration.payload = .ok ()

/-- Every registration stands under its plugin and is submittable. -/
def Sourced (settings : TriggerSettings) (coordinator : TriggerCoordinator Real Collector) : Prop :=
  ∀ pluginId registration, coordinator.periodic.get? pluginId = some registration →
    registration.pluginId = pluginId ∧ Submittable settings coordinator.collectors registration

/-- A coalesced trigger has one of its key waiting. -/
def Coalesces (answer : Answer Real) : Prop :=
  answer.receipt.disposition = .coalesced →
    ∃ waiting ∈ answer.pending, key waiting = key answer.receipt.trigger

/-- A coordinator that gave some answers, of which it handed some triggers over. -/
structure Booked (settings : TriggerSettings) (handed : List (Trigger Real))
    (coordinator : TriggerCoordinator Real Collector) (answers : List (Answer Real)) : Prop where
  queued : Queued settings coordinator
  sourced : Sourced settings coordinator
  accepted : acceptedOf answers = handed ++ coordinator.pending
  coalesced : ∀ answer ∈ answers, Coalesces answer

omit [FloatText Real] in
theorem acceptedOf_concat {answer : Answer Real} (accepted : answer.receipt.disposition = .accepted) :
    acceptedOf (answers ++ [answer]) = acceptedOf answers ++ [answer.receipt.trigger] := by
  simp [acceptedOf, accepted]

omit [FloatText Real] in
theorem acceptedOf_concat_of_ne {answer : Answer Real}
    (refused : answer.receipt.disposition ≠ .accepted) :
    acceptedOf (answers ++ [answer]) = acceptedOf answers := by
  simp [acceptedOf, refused]

variable {handed : List (Trigger Real)} {coordinator next : TriggerCoordinator Real Collector}
  {answers : List (Answer Real)}

theorem Booked.submit (booked : Booked settings handed coordinator answers)
    (submits : submit settings trigger coordinator = .ok (receipt, next)) :
    Booked settings handed next (answers ++ [⟨receipt, coordinator.pending⟩]) := by
  obtain ⟨queued, sourced, accepted, coalesced⟩ := booked
  obtain ⟨sameTrigger, registered, outcome⟩ := submit_cases submits
  have extended (coalesces : Coalesces ⟨receipt, coordinator.pending⟩) :
      ∀ answer ∈ answers ++ [⟨receipt, coordinator.pending⟩], Coalesces answer := by
    simpa only [List.forall_mem_append, List.forall_mem_singleton] using And.intro coalesced coalesces
  rcases outcome with ⟨disposition, waiting, rfl⟩ | ⟨disposition, rfl⟩ | ⟨disposition, fresh, room, rfl⟩
  · refine ⟨queued, sourced, ?_, extended fun _ => ?_⟩
    · rw [acceptedOf_concat_of_ne (by rw [disposition]; decide), accepted]
    · rw [queued.keys, List.mem_toFinset, List.mem_map] at waiting
      rwa [← sameTrigger] at waiting
  · refine ⟨queued, sourced, ?_, extended fun coalescing => ?_⟩
    · rw [acceptedOf_concat_of_ne (by rw [disposition]; decide), accepted]
    · rw [disposition] at coalescing
      cases coalescing
  · refine ⟨⟨?_, ?_, ?_, ?_⟩, sourced, ?_, extended fun coalescing => ?_⟩
    · rw [queued.keys, List.map_append, List.toFinset_append, List.map_singleton,
        List.toFinset_cons, List.toFinset_nil, insert_empty_eq, Finset.union_comm, Finset.insert_eq]
    · rw [queued.keys, List.mem_toFinset] at fresh
      rw [List.map_append, List.map_singleton]
      exact queued.once.append (List.nodup_singleton _)
        (List.disjoint_singleton.mpr fresh)
    · simpa using room
    · simpa only [List.forall_mem_append, List.forall_mem_singleton] using
        And.intro queued.registered registered
    · rw [acceptedOf_concat disposition, accepted, sameTrigger, List.append_assoc]
    · rw [disposition] at coalescing
      cases coalescing

theorem Booked.setPeriodic (booked : Booked settings handed coordinator answers)
    (submittable : Submittable settings coordinator.collectors registration) :
    Booked settings handed (coordinator.setPeriodic registration) answers := by
  obtain ⟨⟨keys, once, bounded, registered⟩, sourced, accepted, coalesced⟩ := booked
  refine ⟨⟨keys, once, bounded, registered⟩, fun pluginId other found => ?_, accepted, coalesced⟩
  rw [TriggerCoordinator.setPeriodic, Dict.get?_set] at found
  split_ifs at found with same
  · cases found
    exact ⟨same.symm, submittable⟩
  · exact sourced pluginId other found

/-- What the submissions and the registrations of a tick preserve, a tick preserves. -/
theorem Booked.tickEach (booked : Booked settings handed coordinator answers)
    (submittable : ∀ registration ∈ registrations,
      Submittable settings coordinator.collectors registration) :
    Booked settings handed (tickEach settings nowMs registrations coordinator).coordinator
      (answers ++ (Triggers.tickEach settings nowMs registrations coordinator).answers) := by
  induction registrations generalizing coordinator answers with
  | nil =>
    rw [Triggers.tickEach, List.append_nil]
    exact booked
  | cons registration registrations inductionHypothesis =>
    obtain ⟨first, others⟩ := List.forall_mem_cons.mp submittable
    rw [Triggers.tickEach]
    split_ifs with early
    · exact inductionHypothesis booked others
    · have counted : Submittable settings coordinator.collectors
          { registration with sequence := registration.sequence + 1 } :=
        ⟨first.valid, first.registered, first.payload⟩
      have started := booked.setPeriodic counted
      dsimp only
      split
      · rwa [List.append_nil]
      · rename_i receipt submitted submits
        have same := (submit_collectors submits).1
        have answered := started.submit submits
        have due : Submittable settings submitted.collectors ⟨registration.pluginId,
            registration.intervalMs, nowMs + registration.intervalMs, registration.payload,
            registration.sequence + 1⟩ := by
          rw [same]
          exact ⟨first.valid, first.registered, first.payload⟩
        have rest := inductionHypothesis (answered.setPeriodic due) fun other member => by
          show Submittable settings submitted.collectors other
          rw [same]
          exact others other member
        rwa [List.append_assoc, List.singleton_append] at rest

omit [FloatText Real] in
theorem mem_sorted :
    registration ∈ registrations.insertionSort (fun first second => first.pluginId ≤ second.pluginId) ↔
      registration ∈ registrations :=
  (List.perm_insertionSort _ registrations).mem_iff

theorem Sourced.submittable (sourced : Sourced settings coordinator)
    (member : registration ∈ coordinator.periodic.values) :
    coordinator.periodic.get? registration.pluginId = some registration ∧
      Submittable settings coordinator.collectors registration := by
  obtain ⟨pluginId, found⟩ := Dict.mem_values_iff.mp member
  obtain ⟨rfl, submittable⟩ := sourced pluginId registration found
  exact ⟨found, submittable⟩

theorem Booked.tick (booked : Booked settings handed coordinator answers) :
    Booked settings handed (tick settings nowMs coordinator).coordinator
      (answers ++ (Triggers.tick settings nowMs coordinator).answers) := by
  rw [Triggers.tick]
  split
  · rw [List.append_nil]
    exact booked
  · exact booked.tickEach fun registration member =>
      (booked.sourced.submittable (mem_sorted.mp member)).2

/-- Taking the oldest trigger off a queue that is booked raises nothing, and hands it to its collector. -/
theorem Booked.takeNext (booked : Booked settings handed coordinator answers) :
    (coordinator.pending = [] ∧ takeNext coordinator = (.ok none, coordinator)) ∨
      ∃ trigger collector, coordinator.collectors.get? trigger.pluginId = some collector ∧
        (∃ after, Triggers.takeNext coordinator = (.ok (some (collector, trigger)), after) ∧
          after.collectors = coordinator.collectors ∧ after.periodic = coordinator.periodic ∧
          Booked settings (handed ++ [trigger]) after answers) := by
  obtain ⟨⟨keys, once, bounded, registered⟩, sourced, accepted, coalesced⟩ := booked
  rw [Triggers.takeNext]
  cases queue : coordinator.pending with
  | nil => exact .inl ⟨rfl, rfl⟩
  | cons trigger pending =>
    rw [queue] at keys once bounded registered accepted
    obtain ⟨first, others⟩ := List.forall_mem_cons.mp registered
    obtain ⟨collector, found⟩ := Option.isSome_iff_exists.mp first
    rw [List.map_cons, List.nodup_cons] at once
    have waiting : key trigger ∈ coordinator.pendingKeys := by
      rw [keys, List.mem_toFinset, List.map_cons]
      exact List.mem_cons_self
    refine .inr ⟨trigger, collector, found, { coordinator with
      pending
      pendingKeys := coordinator.pendingKeys.erase (key trigger) }, ?_, rfl, rfl, ⟨?_, ?_, ?_, ?_⟩,
      sourced, ?_, coalesced⟩
    · simp only [if_pos waiting, found]
    · rw [keys, List.map_cons, List.toFinset_cons, Finset.erase_insert]
      rw [List.mem_toFinset]
      exact once.1
    · exact once.2
    · exact (Nat.le_succ _).trans bounded
    · exact others
    · rw [accepted, List.append_assoc, List.singleton_append]

omit [FloatText Real] in
theorem registerCollector_cases
    (registers : registerCollector settings pluginId collector coordinator = .ok next) :
    coordinator.collectors.get? pluginId = none ∧
      next = { coordinator with collectors := coordinator.collectors.set pluginId collector } := by
  obtain ⟨_, _, rest⟩ := bind_eq_ok.mp registers
  split_ifs at rest with taken
  cases rest
  exact ⟨Option.not_isSome_iff_eq_none.mp taken, rfl⟩

theorem registerPeriodic_cases
    (registers : registerPeriodic settings pluginId intervalMs firstDueMs payload coordinator = .ok next) :
    coordinator.periodic.get? pluginId = none ∧
      next = coordinator.setPeriodic ⟨pluginId, intervalMs, firstDueMs, payload, 0⟩ ∧
      Submittable settings coordinator.collectors ⟨pluginId, intervalMs, firstDueMs, payload, 0⟩ := by
  obtain ⟨collector, required, rest⟩ := bind_eq_ok.mp registers
  obtain ⟨_, _, rest⟩ := bind_eq_ok.mp rest
  obtain ⟨_, _, rest⟩ := bind_eq_ok.mp rest
  obtain ⟨⟨⟩, sized, rest⟩ := bind_eq_ok.mp rest
  split_ifs at rest with taken
  cases rest
  obtain ⟨valid, found⟩ := requireCollector_eq_ok.mp required
  exact ⟨Option.not_isSome_iff_eq_none.mp taken, rfl,
    ⟨valid, Option.isSome_iff_exists.mpr ⟨collector, found⟩, sized⟩⟩

/-- The collectors of one coordinator are still those of another. -/
def Keeps (earlier later : TriggerCoordinator Real Collector) : Prop :=
  ∀ pluginId collector, earlier.collectors.get? pluginId = some collector →
    later.collectors.get? pluginId = some collector

omit [FloatText Real] in
theorem keeps_registerCollector
    (registers : registerCollector settings pluginId collector coordinator = .ok next) :
    Keeps coordinator next := by
  obtain ⟨free, rfl⟩ := registerCollector_cases registers
  intro other found present
  rw [Dict.get?_set_of_ne]
  · exact present
  · rintro rfl
    rw [free] at present
    cases present

omit [FloatText Real] in
theorem Keeps.isSome (keeps : Keeps coordinator next)
    (registered : (coordinator.collectors.get? pluginId).isSome) :
    (next.collectors.get? pluginId).isSome := by
  obtain ⟨collector, found⟩ := Option.isSome_iff_exists.mp registered
  exact Option.isSome_iff_exists.mpr ⟨collector, keeps pluginId collector found⟩

theorem Booked.registerCollector (booked : Booked settings handed coordinator answers)
    (registers : registerCollector settings pluginId collector coordinator = .ok next) :
    Booked settings handed next answers := by
  have keeps := keeps_registerCollector registers
  obtain ⟨_, rfl⟩ := registerCollector_cases registers
  obtain ⟨⟨keys, once, bounded, registered⟩, sourced, accepted, coalesced⟩ := booked
  refine ⟨⟨keys, once, bounded, fun trigger member => keeps.isSome (registered trigger member)⟩,
    fun other registration found => ?_, accepted, coalesced⟩
  obtain ⟨same, valid, stands, payload⟩ := sourced other registration found
  exact ⟨same, valid, keeps.isSome stands, payload⟩

theorem Booked.registerPeriodic (booked : Booked settings handed coordinator answers)
    (registers : registerPeriodic settings pluginId intervalMs firstDueMs payload coordinator = .ok next) :
    Booked settings handed next answers := by
  obtain ⟨_, rfl, submittable⟩ := registerPeriodic_cases registers
  exact booked.setPeriodic submittable

theorem tickEach_collectors :
    (tickEach settings nowMs registrations coordinator).coordinator.collectors =
      coordinator.collectors := by
  induction registrations generalizing coordinator with
  | nil => rfl
  | cons registration registrations inductionHypothesis =>
    rw [tickEach]
    split_ifs with early
    · exact inductionHypothesis
    · dsimp only
      split
      · rfl
      · rename_i receipt submitted submits
        exact inductionHypothesis.trans (submit_collectors submits).1

theorem tick_collectors :
    (tick settings nowMs coordinator).coordinator.collectors = coordinator.collectors := by
  rw [tick]
  split
  · rfl
  · exact tickEach_collectors

/-! ### What a run preserves -/

/-- A system whose books agree, and whose collections were begun with the collectors of their plugins. -/
structure Accounted (settings : TriggerSettings) (system : TriggerSystem Real Collector) : Prop where
  booked : Booked settings system.handed system.coordinator system.answers
  collectors : ∀ collection ∈ system.collections,
    system.coordinator.collectors.get? collection.trigger.pluginId = some collection.collector

/-- Whether an action asks for the next collection. -/
def collects : TriggerAction Real Collector → Bool
  | .collectNext => true
  | _ => false

/-- What a step does to the answers and to the triggers that are handed over. -/
structure Extends (action : TriggerAction Real Collector) (system next : TriggerSystem Real Collector) :
    Prop where
  accepted : system.accepted <+: next.accepted
  handed : system.handed <+: next.handed
  taken : collects action = true → system.coordinator.pending ≠ [] →
    next.handed.length = system.handed.length + 1

variable {system following : TriggerSystem Real Collector} {action : TriggerAction Real Collector}

omit [FloatText Real] in
theorem acceptedOf_prefix_append (answered : List (Answer Real)) :
    acceptedOf answers <+: acceptedOf (answers ++ answered) := by
  rw [acceptedOf, acceptedOf, List.filter_append, List.map_append]
  exact List.prefix_append _ _

omit [FloatText Real] in
theorem keeps_of_eq (same : next.collectors = coordinator.collectors) : Keeps coordinator next := by
  intro pluginId collector found
  rwa [same]

omit [FloatText Real] in
/-- What comes of a collection is not what it was begun with. -/
theorem map_trigger_set {collections : List (Collection Real Collector)} {index : Nat}
    (running : collections[index]? = some ⟨collector, trigger, none⟩)
    (ended : Option (Except TriggerError (Option (CollectionOutcome Real)))) :
    (collections.set index ⟨collector, trigger, ended⟩).map Collection.trigger =
      collections.map Collection.trigger := by
  obtain ⟨inside, here⟩ := List.getElem?_eq_some_iff.mp running
  rw [List.map_set]
  have mapped : index < (collections.map Collection.trigger).length := by
    rwa [List.length_map]
  have same : (collections.map Collection.trigger)[index] = trigger := by
    rw [List.getElem_map, here]
  calc (collections.map Collection.trigger).set index trigger
      = (collections.map Collection.trigger).set index
          (collections.map Collection.trigger)[index] := by rw [same]
    _ = collections.map Collection.trigger := List.set_getElem_self mapped

theorem Accounted.step (accounted : Accounted settings system)
    (steps : step settings system action = some following) :
    Accounted settings following ∧ Extends action system following := by
  obtain ⟨booked, collectors⟩ := accounted
  cases action with
  | registerCollector pluginId collector =>
    simp only [Triggers.step] at steps
    split at steps
    · rename_i coordinator registers
      cases steps
      exact ⟨⟨booked.registerCollector registers, fun collection member =>
          keeps_registerCollector registers _ _ (collectors collection member)⟩,
        ⟨List.prefix_rfl, List.prefix_rfl, nofun⟩⟩
    · cases steps
      exact ⟨⟨booked, collectors⟩, ⟨List.prefix_rfl, List.prefix_rfl, nofun⟩⟩
  | registerPeriodic pluginId intervalMs firstDueMs payload =>
    simp only [Triggers.step] at steps
    split at steps
    · rename_i coordinator registers
      cases steps
      have same : coordinator.collectors = system.coordinator.collectors := by
        rw [(registerPeriodic_cases registers).2.1]
        rfl
      exact ⟨⟨booked.registerPeriodic registers, fun collection member =>
          keeps_of_eq same _ _ (collectors collection member)⟩,
        ⟨List.prefix_rfl, List.prefix_rfl, nofun⟩⟩
    · cases steps
      exact ⟨⟨booked, collectors⟩, ⟨List.prefix_rfl, List.prefix_rfl, nofun⟩⟩
  | submit trigger =>
    simp only [Triggers.step] at steps
    split at steps
    · rename_i receipt coordinator submits
      cases steps
      exact ⟨⟨booked.submit submits, fun collection member =>
          keeps_of_eq (submit_collectors submits).1 _ _ (collectors collection member)⟩,
        ⟨acceptedOf_prefix_append _, List.prefix_rfl, nofun⟩⟩
    · cases steps
      exact ⟨⟨booked, collectors⟩, ⟨List.prefix_rfl, List.prefix_rfl, nofun⟩⟩
  | tick nowMs =>
    cases steps
    exact ⟨⟨booked.tick, fun collection member =>
        keeps_of_eq tick_collectors _ _ (collectors collection member)⟩,
      ⟨acceptedOf_prefix_append _, List.prefix_rfl, nofun⟩⟩
  | collectNext =>
    simp only [Triggers.step] at steps
    rcases booked.takeNext with ⟨none, takes⟩ | ⟨trigger, collector, found, after, takes, same, _, later⟩
    · rw [takes] at steps
      cases steps
      exact ⟨⟨booked, collectors⟩, ⟨List.prefix_rfl, List.prefix_rfl, fun _ some => absurd none some⟩⟩
    · rw [takes] at steps
      cases steps
      have handed : TriggerSystem.handed ⟨after, system.answers,
          system.collections ++ [⟨collector, trigger, none⟩]⟩ = system.handed ++ [trigger] := by
        rw [TriggerSystem.handed, List.map_append]
        rfl
      refine ⟨⟨?_, ?_⟩, ⟨List.prefix_rfl, ?_, fun _ _ => ?_⟩⟩
      · rw [handed]
        exact later
      · simp only [List.forall_mem_append, List.forall_mem_singleton]
        rw [same]
        exact ⟨collectors, found⟩
      · rw [handed]
        exact List.prefix_append _ _
      · rw [handed, List.length_append, List.length_singleton]
  | collected index result =>
    simp only [Triggers.step] at steps
    split at steps
    · rename_i collector trigger running
      cases steps
      obtain ⟨inside, here⟩ := List.getElem?_eq_some_iff.mp running
      have handed : TriggerSystem.handed ⟨system.coordinator, system.answers,
          system.collections.set index ⟨collector, trigger, some (outcome settings trigger result)⟩⟩ =
            system.handed := map_trigger_set running _
      refine ⟨⟨?_, fun collection member => ?_⟩, ⟨List.prefix_rfl, ?_, nofun⟩⟩
      · rw [handed]
        exact booked
      · rcases List.mem_or_eq_of_mem_set member with member | rfl
        · exact collectors collection member
        · exact collectors ⟨collector, trigger, none⟩ (here ▸ List.getElem_mem inside)
      · rw [handed]
    · cases steps

theorem accounted_empty :
    Accounted settings (.empty : TriggerSystem Real Collector) where
  booked := ⟨⟨rfl, List.nodup_nil, Nat.zero_le _, fun _ => nofun⟩,
    fun pluginId registration found => (by cases found), rfl, fun _ => nofun⟩
  collectors := fun _ => nofun

theorem Accounted.run (accounted : Accounted settings system)
    (runs : Machine.run (Triggers.step settings) system actions = some following) :
    Accounted settings following :=
  Machine.invariant_run (Accounted settings) (fun _ _ _ holds steps => (holds.step steps).1)
    accounted runs

theorem Accounted.run_accepted (accounted : Accounted settings system)
    (runs : Machine.run (Triggers.step settings) system actions = some following) :
    system.accepted <+: following.accepted := by
  induction actions generalizing system with
  | nil =>
    cases runs
    exact List.prefix_rfl
  | cons action actions inductionHypothesis =>
    obtain ⟨next, steps, rest⟩ := Machine.run_cons_eq_some.mp runs
    obtain ⟨later, extended⟩ := accounted.step steps
    exact extended.accepted.trans (inductionHypothesis later rest)

theorem Accounted.length_accepted (accounted : Accounted settings system) :
    system.accepted.length = system.handed.length + system.coordinator.pending.length := by
  rw [TriggerSystem.accepted, accounted.booked.accepted, List.length_append]

/-- As many collections as triggers are missing hand that many triggers over. -/
theorem Accounted.run_handed (accounted : Accounted settings system)
    (runs : Machine.run (Triggers.step settings) system actions = some following)
    (accepted : count ≤ system.accepted.length)
    (enough : count ≤ system.handed.length + actions.countP collects) :
    count ≤ following.handed.length := by
  induction actions generalizing system with
  | nil =>
    cases runs
    exact enough
  | cons action actions inductionHypothesis =>
    obtain ⟨next, steps, rest⟩ := Machine.run_cons_eq_some.mp runs
    obtain ⟨later, extended⟩ := accounted.step steps
    have acceptedLater := accepted.trans extended.accepted.length_le
    have handedLater := extended.handed.length_le
    refine inductionHypothesis later rest acceptedLater ?_
    rw [List.countP_cons] at enough
    split_ifs at enough with collecting
    · by_cases none : system.coordinator.pending = []
      · have all := accounted.length_accepted
        rw [none, List.length_nil] at all
        omega
      · have taken := extended.taken collecting none
        omega
    · omega

/-- A trigger that waits is handed over once as many collections were begun as triggers waited. -/
theorem Accounted.accepted_prefix_handed (accounted : Accounted settings system)
    (runs : Machine.run (Triggers.step settings) system actions = some following)
    (enough : system.coordinator.pending.length ≤ actions.countP collects) :
    system.accepted <+: following.handed := by
  have all := accounted.length_accepted
  have handed := accounted.run_handed runs le_rfl (by omega)
  have booked : following.accepted = following.handed ++ following.coordinator.pending :=
    (accounted.run runs).booked.accepted
  have extended := accounted.run_accepted runs
  rw [booked] at extended
  exact List.prefix_of_prefix_length_le extended (List.prefix_append _ _) handed

/-! ### Registrations that are due -/

/-- The least number that makes the id of a periodic trigger too long. -/
def maxSequence : Nat := 10 ^ (maxCorrelationChars - "periodic-".length)

omit [FloatText Real] in
/-- The id of a periodic trigger is accepted as long as its number has few enough digits. -/
theorem validateCorrelationId_periodic :
    validateCorrelationId (periodicTrigger nowMs registration).triggerId = .ok () ↔
      registration.sequence < maxSequence := by
  have length : (periodicTrigger nowMs registration).triggerId.length =
      9 + (Nat.toDigits 10 registration.sequence).length := by
    simp only [periodicTrigger, ofString, PyString.length_ofChars, String.toList_append,
      List.length_append, Nat.toString_eq_repr, Nat.toList_repr]
    rfl
  have some : (periodicTrigger nowMs registration).triggerId.isEmpty = false := by
    rw [List.isEmpty_eq_false_iff, ← List.length_pos_iff, length]
    omega
  have limit : maxCorrelationChars = 9 + 119 := rfl
  have bound : maxSequence = 10 ^ 119 := rfl
  rw [validateCorrelationId, some, Bool.false_or, length, limit, bound,
    ← Nat.length_toDigits_le_iff (show 1 < 10 by decide) (show 0 < 119 by decide)]
  by_cases short : (Nat.toDigits 10 registration.sequence).length ≤ 119
  · rw [decide_eq_false (not_lt.mpr (Nat.add_le_add_left short 9)), if_neg Bool.false_ne_true]
    exact iff_of_true rfl short
  · rw [decide_eq_true (Nat.add_lt_add_left (not_le.mp short) 9), if_pos rfl]
    exact iff_of_false (fun accepted => by cases accepted) short

/-- What the submission of a registration is answered. -/
def SubmittedBy (nowMs : Int) (registration : PeriodicRegistration Real) (answers : List (Answer Real)) :
    Prop :=
  ∃ answer ∈ answers, answer.receipt.trigger =
    periodicTrigger nowMs { registration with sequence := registration.sequence + 1 }

/-- A tick over registrations that are submittable raises nothing, and submits each that is due. -/
theorem tickEach_submits (now : 0 ≤ nowMs) (submittable : ∀ registration ∈ registrations,
      Submittable settings coordinator.collectors registration)
    (numbered : ∀ registration ∈ registrations, registration.sequence + 1 < maxSequence) :
    (tickEach settings nowMs registrations coordinator).raised = none ∧
      ∀ registration ∈ registrations, registration.nextDueMs ≤ nowMs →
        SubmittedBy nowMs registration (tickEach settings nowMs registrations coordinator).answers := by
  induction registrations generalizing coordinator with
  | nil => exact ⟨rfl, fun _ => nofun⟩
  | cons registration registrations inductionHypothesis =>
    obtain ⟨first, others⟩ := List.forall_mem_cons.mp submittable
    obtain ⟨number, numbers⟩ := List.forall_mem_cons.mp numbered
    rw [tickEach]
    split_ifs with early
    · obtain ⟨raised, submits⟩ := inductionHypothesis others numbers
      refine ⟨raised, List.forall_mem_cons.mpr ⟨fun due => absurd early (not_lt.mpr due), submits⟩⟩
    · have submits : ∃ receipt next, submit settings
          (periodicTrigger nowMs { registration with sequence := registration.sequence + 1 })
          (coordinator.setPeriodic { registration with sequence := registration.sequence + 1 }) =
            .ok (receipt, next) :=
        submit_answers first.valid first.registered (validateCorrelationId_periodic.mpr number) now
          first.payload
      obtain ⟨receipt, submitted, answered⟩ := submits
      have same : submitted.collectors = coordinator.collectors := (submit_collectors answered).1
      simp only [answered]
      obtain ⟨raised, submits⟩ := @inductionHypothesis (submitted.setPeriodic ⟨registration.pluginId,
        registration.intervalMs, nowMs + registration.intervalMs, registration.payload,
        registration.sequence + 1⟩) (by
          intro other member
          show Submittable settings submitted.collectors other
          rw [same]
          exact others other member) numbers
      refine ⟨raised, List.forall_mem_cons.mpr ⟨fun _ => ⟨_, List.mem_cons_self,
        (submit_cases answered).1⟩, fun other member due => ?_⟩⟩
      obtain ⟨answer, answeredBy, trigger⟩ := submits other member due
      exact ⟨answer, List.mem_cons_of_mem _ answeredBy, trigger⟩

/-- A tick submits every registration that is due, as long as no number is too long. -/
theorem Booked.tick_submits (booked : Booked settings handed coordinator answers) (now : 0 ≤ nowMs)
    (numbered : ∀ registration ∈ coordinator.periodic.values, registration.sequence + 1 < maxSequence)
    (member : registration ∈ coordinator.periodic.values) (due : registration.nextDueMs ≤ nowMs) :
    (Triggers.tick settings nowMs coordinator).raised = none ∧
      SubmittedBy nowMs registration (Triggers.tick settings nowMs coordinator).answers := by
  rw [Triggers.tick, validateNonNegativeInteger, if_neg (not_lt.mpr now)]
  obtain ⟨raised, submits⟩ := tickEach_submits now
    (fun other among => (booked.sourced.submittable (mem_sorted.mp among)).2)
    fun other among => numbered other (mem_sorted.mp among)
  exact ⟨raised, submits registration (mem_sorted.mpr member) due⟩

/-- A tick leaves the registrations of a plugin alone of which none is due. -/
theorem tickEach_periodic (early : ∀ registration ∈ registrations,
      registration.pluginId = pluginId → nowMs < registration.nextDueMs) :
    (tickEach settings nowMs registrations coordinator).coordinator.periodic.get? pluginId =
      coordinator.periodic.get? pluginId := by
  induction registrations generalizing coordinator with
  | nil => rfl
  | cons registration registrations inductionHypothesis =>
    obtain ⟨first, others⟩ := List.forall_mem_cons.mp early
    rw [tickEach]
    split_ifs with before
    · exact inductionHypothesis others
    · have other : pluginId ≠ registration.pluginId := fun same => before (first same.symm)
      dsimp only
      split
      · exact Dict.get?_set_of_ne _ _ _ other
      · rename_i receipt submitted submits
        rw [inductionHypothesis others, TriggerCoordinator.setPeriodic, Dict.get?_set_of_ne _ _ _ other,
          (submit_collectors submits).2]
        exact Dict.get?_set_of_ne _ _ _ other

/-- An action that is no tick at a time or after it. -/
def EarlierThan (dueMs : Int) : TriggerAction Real Collector → Prop
  | .tick nowMs => nowMs < dueMs
  | _ => True

/-- A registration stays as it is until the first tick at its time or after it. -/
theorem Accounted.step_periodic (accounted : Accounted settings system)
    (steps : Triggers.step settings system action = some following)
    (registered : system.coordinator.periodic.get? pluginId = some registration)
    (early : EarlierThan registration.nextDueMs action) :
    following.coordinator.periodic.get? pluginId = some registration := by
  cases action with
  | registerCollector other collector =>
    simp only [Triggers.step] at steps
    split at steps
    · rename_i coordinator registers
      cases steps
      rw [(registerCollector_cases registers).2]
      exact registered
    · cases steps
      exact registered
  | registerPeriodic other intervalMs firstDueMs payload =>
    simp only [Triggers.step] at steps
    split at steps
    · rename_i coordinator registers
      cases steps
      obtain ⟨free, same, _⟩ := registerPeriodic_cases registers
      rw [same, TriggerCoordinator.setPeriodic, Dict.get?_set_of_ne]
      · exact registered
      · rintro rfl
        rw [free] at registered
        cases registered
    · cases steps
      exact registered
  | submit trigger =>
    simp only [Triggers.step] at steps
    split at steps
    · rename_i receipt coordinator submits
      cases steps
      rw [(submit_collectors submits).2]
      exact registered
    · cases steps
      exact registered
  | tick nowMs =>
    cases steps
    show (Triggers.tick settings nowMs system.coordinator).coordinator.periodic.get? pluginId = _
    rw [Triggers.tick]
    split
    · exact registered
    · refine (tickEach_periodic fun other member same => ?_).trans registered
      have found := (accounted.booked.sourced.submittable (mem_sorted.mp member)).1
      rw [same, registered] at found
      cases found
      exact early
  | collectNext =>
    simp only [Triggers.step] at steps
    rcases accounted.booked.takeNext with ⟨_, takes⟩ | ⟨trigger, collector, _, after, takes, _, same, _⟩
    · rw [takes] at steps
      cases steps
      exact registered
    · rw [takes] at steps
      cases steps
      rw [same]
      exact registered
  | collected index result =>
    simp only [Triggers.step] at steps
    split at steps
    · cases steps
      exact registered
    · cases steps

theorem Accounted.run_periodic (accounted : Accounted settings system)
    (runs : Machine.run (Triggers.step settings) system actions = some following)
    (registered : system.coordinator.periodic.get? pluginId = some registration)
    (early : ∀ action ∈ actions, EarlierThan registration.nextDueMs action) :
    following.coordinator.periodic.get? pluginId = some registration := by
  induction actions generalizing system with
  | nil =>
    cases runs
    exact registered
  | cons action actions inductionHypothesis =>
    obtain ⟨next, steps, rest⟩ := Machine.run_cons_eq_some.mp runs
    obtain ⟨first, others⟩ := List.forall_mem_cons.mp early
    exact inductionHypothesis (accounted.step steps).1 rest
      (accounted.step_periodic steps registered first) others

/-! ### Work is neither lost nor repeated -/

/-- The keys are those of the queue, each once and few enough; what was accepted was handed to its
collector or waits; and what was coalesced had its like waiting. -/
structure Conserves (settings : TriggerSettings) (system : TriggerSystem Real Collector) : Prop where
  keys : system.coordinator.pendingKeys = (system.coordinator.pending.map key).toFinset
  once : (system.coordinator.pending.map key).Nodup
  bounded : system.coordinator.pending.length ≤ settings.maxPending
  handed : system.accepted = system.handed ++ system.coordinator.pending
  collectors : ∀ collection ∈ system.collections,
    system.coordinator.collectors.get? collection.trigger.pluginId = some collection.collector
  coalesced : ∀ answer ∈ system.answers, Coalesces answer

/-- Every accepted trigger is handed over once as many collections were begun as triggers waited. -/
def Delivers (settings : TriggerSettings) (system : TriggerSystem Real Collector) : Prop :=
  ∀ actions final, Machine.run (step settings) system actions = some final →
    system.coordinator.pending.length ≤ actions.countP collects → system.accepted <+: final.handed

/-- Every registration is submitted by the first tick at its time or after it, if the registrations
then meet a condition. -/
def Punctual (settings : TriggerSettings) (condition : PeriodicRegistration Real → Prop)
    (system : TriggerSystem Real Collector) : Prop :=
  ∀ registration ∈ system.coordinator.periodic.values, ∀ actions final,
    Machine.run (step settings) system actions = some final →
    (∀ action ∈ actions, EarlierThan registration.nextDueMs action) →
    (∀ other ∈ final.coordinator.periodic.values, condition other) →
    ∀ nowMs, 0 ≤ nowMs → registration.nextDueMs ≤ nowMs →
      (tick settings nowMs final.coordinator).raised = none ∧
        SubmittedBy nowMs registration (tick settings nowMs final.coordinator).answers

/-- In every state of every run the queue conserves work and delivers it, and every registration is
submitted in time whose number is short enough for an id. -/
theorem triggers_conserved (settings : TriggerSettings) (actions : List (TriggerAction Real Collector))
    (system : TriggerSystem Real Collector)
    (runs : Machine.run (step settings) .empty actions = some system) :
    Conserves settings system ∧ Delivers settings system ∧
      Punctual settings (fun registration => registration.sequence + 1 < maxSequence) system := by
  have accounted : Accounted settings system := accounted_empty.run runs
  have ⟨⟨⟨keys, once, bounded, _⟩, sourced, accepted, coalesced⟩, collectors⟩ := accounted
  refine ⟨⟨keys, once, bounded, accepted, collectors, coalesced⟩,
    fun later final rest enough => accounted.accepted_prefix_handed rest enough,
    fun registration member later final rest early numbered nowMs now due => ?_⟩
  have registered := (sourced.submittable member).1
  have stays := accounted.run_periodic rest registered early
  exact (accounted.run rest).booked.tick_submits now numbered
    (Dict.mem_values_iff.mpr ⟨_, stays⟩) due

/-- A trigger is submitted twice, and again while its collection runs and fails; then the queue is full. -/
def resubmitting : List (TriggerAction ExactDecimal Unit) :=
  let reading : Trigger ExactDecimal := ⟨ofString "a", ofString "reading", .manual, .dict [], 0⟩
  [.registerCollector (ofString "a") (), .registerPeriodic (ofString "a") 1 0 (.dict []),
    .submit reading, .submit reading, .collectNext, .submit reading, .collected 0 (.failed "OSError"),
    .tick 5, .tick 6]

theorem triggers_conserved_resubmitting :
    ∃ system, Machine.run (step ⟨2, 2, 10, id, by decide, by decide⟩) .empty resubmitting = some system ∧
      system.answers.map (fun answer => answer.receipt.disposition) =
        [.accepted, .coalesced, .accepted, .accepted, .queueFull] ∧
      Conserves ⟨2, 2, 10, id, by decide, by decide⟩ system ∧
      Delivers ⟨2, 2, 10, id, by decide, by decide⟩ system ∧
      Punctual ⟨2, 2, 10, id, by decide, by decide⟩
        (fun registration => registration.sequence + 1 < maxSequence) system :=
  ⟨_, rfl, rfl, triggers_conserved _ resubmitting _ rfl⟩

/-! ### Numbers that are too long -/

theorem submit_correlation (answers : submit settings trigger coordinator = .ok (receipt, next)) :
    validateCorrelationId trigger.triggerId = .ok () := by
  obtain ⟨_, _, rest⟩ := bind_eq_ok.mp answers
  obtain ⟨⟨⟩, correlation, _⟩ := bind_eq_ok.mp rest
  exact correlation

/-- The registration of one plugin alone, which is due at every count of its triggers. -/
def Lone (pluginId : PyString) (count : Nat) (coordinator : TriggerCoordinator Real Collector) : Prop :=
  ∃ payload, coordinator.periodic.entries = [(pluginId, ⟨pluginId, 1, count, payload, count⟩)]

theorem Lone.tick_eq (settings : TriggerSettings) (lone : Lone pluginId count coordinator) :
    ∃ payload, ⟨pluginId, 1, count, payload, count⟩ ∈ coordinator.periodic.values ∧
      tick settings count coordinator =
        tickEach settings count [⟨pluginId, 1, count, payload, count⟩] coordinator := by
  obtain ⟨payload, entries⟩ := lone
  have values : coordinator.periodic.values = [⟨pluginId, 1, count, payload, count⟩] := by
    rw [Dict.values, entries]
    rfl
  refine ⟨payload, values ▸ List.mem_singleton_self _, ?_⟩
  rw [tick, validateNonNegativeInteger, if_neg (not_lt.mpr (Int.natCast_nonneg count)), values]
  rfl

omit [FloatText Real] in
theorem entries_setPeriodic {other : PeriodicRegistration Real}
    (entries : coordinator.periodic.entries = [(registration.pluginId, other)]) :
    (coordinator.setPeriodic registration).periodic.entries =
      [(registration.pluginId, registration)] := by
  show Dict.setEntries registration.pluginId registration coordinator.periodic.entries = _
  rw [entries, Dict.setEntries, if_pos rfl]

theorem Booked.tick_lone (booked : Booked settings handed coordinator answers)
    (lone : Lone pluginId count coordinator) (number : count + 1 < maxSequence) :
    Lone pluginId (count + 1) (Triggers.tick settings count coordinator).coordinator := by
  obtain ⟨payload, member, ticked⟩ := lone.tick_eq settings
  obtain ⟨_, valid, registered, sized⟩ := booked.sourced.submittable member
  obtain ⟨_, entries⟩ := lone
  have submits : ∃ receipt next, Triggers.submit settings
      (periodicTrigger count ⟨pluginId, 1, count, payload, count + 1⟩)
      (coordinator.setPeriodic ⟨pluginId, 1, count, payload, count + 1⟩) = .ok (receipt, next) :=
    submit_answers valid registered (validateCorrelationId_periodic.mpr number)
      (Int.natCast_nonneg count) sized
  obtain ⟨receipt, submitted, answered⟩ := submits
  have counted : submitted.periodic.entries =
      [(pluginId, ⟨pluginId, 1, count, payload, count + 1⟩)] := by
    rw [(submit_collectors answered).2]
    exact entries_setPeriodic entries
  refine ⟨payload, ?_⟩
  rw [ticked, Triggers.tickEach, if_neg (lt_irrefl _)]
  simp only [answered, Triggers.tickEach]
  exact entries_setPeriodic counted

theorem Lone.tick_raises (lone : Lone pluginId count coordinator) (number : count + 1 = maxSequence) :
    (Triggers.tick settings count coordinator).raised ≠ none := by
  obtain ⟨payload, member, ticked⟩ := lone.tick_eq settings
  rw [ticked, Triggers.tickEach, if_neg (lt_irrefl _)]
  dsimp only
  split
  · exact Option.some_ne_none _
  · rename_i receipt submitted answered
    have short := validateCorrelationId_periodic.mp (submit_correlation answered)
    exact absurd number (Nat.ne_of_lt short)

/-- One plugin, which is registered for a trigger at every moment. -/
def registering : List (TriggerAction ExactDecimal Unit) :=
  [.registerCollector (ofString "a") (), .registerPeriodic (ofString "a") 1 0 (.dict [])]

def tiny : TriggerSettings := ⟨2, 1, 10, id, Nat.two_pos, Nat.one_pos⟩

def ticking (count : Nat) : List (TriggerAction ExactDecimal Unit) :=
  registering ++ (List.range count).map fun nowMs => .tick nowMs

theorem run_ticking (number : count < maxSequence) :
    ∃ system, Machine.run (step tiny) .empty (ticking count) = some system ∧
      Lone (ofString "a") count system.coordinator := by
  induction count with
  | zero => exact ⟨_, rfl, .dict [], rfl⟩
  | succ count inductionHypothesis =>
    obtain ⟨system, runs, lone⟩ := inductionHypothesis (Nat.lt_of_succ_lt number)
    have accounted : Accounted tiny system := accounted_empty.run runs
    refine ⟨⟨(tick tiny count system.coordinator).coordinator,
      system.answers ++ (tick tiny count system.coordinator).answers, system.collections⟩, ?_,
      accounted.booked.tick_lone lone number⟩
    rw [ticking, List.range_succ, List.map_append, ← List.append_assoc]
    exact Machine.run_concat runs rfl

/-- After one tick less than there are numbers, the next is refused: its trigger has too long an id. -/
theorem not_punctual : ¬ ∀ (settings : TriggerSettings) (actions : List (TriggerAction ExactDecimal Unit))
    (system : TriggerSystem ExactDecimal Unit),
    Machine.run (step settings) .empty actions = some system →
      Punctual settings (fun _ => True) system := by
  intro punctual
  have positive : 1 ≤ maxSequence := Nat.one_le_pow _ _ (by decide)
  obtain ⟨system, runs, lone⟩ := run_ticking (Nat.sub_lt positive Nat.one_pos)
  obtain ⟨payload, member, _⟩ := lone.tick_eq tiny
  obtain ⟨raised, _⟩ := punctual tiny _ system runs _ member [] system rfl (fun _ => nofun)
    (fun _ _ => trivial) _ (Int.natCast_nonneg _) le_rfl
  exact lone.tick_raises (Nat.sub_add_cancel positive) raised

end Triggers

end Omnitensor
