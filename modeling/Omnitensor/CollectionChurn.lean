/-
This file proves what the outputs of a collector tell over any sequence of collections.

What is remembered is what the last output emitted. So the churn of an output leads from the
identities of the one before to its own, as long as the grants stay the same. What is emitted is
allowlisted, and granted when the source has answered, unless a grant of the whole collector was
withdrawn while the source was read; and it is emitted once, unless the snapshot repeats it.
-/

import Mathlib.Data.Finset.Basic
import Omnitensor.BoundedCollection
import Omnitensor.Machine

namespace Omnitensor

namespace BoundedCollector

variable {Sample Document Extension : Type} (collector : BoundedCollector Sample Document)

/-! ### Runs -/

/-- An identity may be emitted. -/
def permits (allows : String → Bool) (identity : String) : Bool :=
  accepts (collector.mayEmit allows) identity

/-- An identity is allowlisted, where there is an allowlist. -/
def Allowlisted (identity : String) : Prop :=
  collector.requireAllowlist = true ∨ collector.allowedIds ≠ [] → identity ∈ collector.allowedIds

/-- Every grant that an item needs is held. -/
structure Granted (allows : String → Bool) (identity : String) : Prop where
  metadata : allows collector.metadataPermission = true
  consents : ∀ consent ∈ collector.consentPermissions, allows consent.1 = true
  item : ∀ permission, collector.itemPermission identity = some (some permission) →
    allows permission = true

/-- What is remembered, and the outputs so far with the grants when the source had answered. -/
structure Run (Sample Document Extension : Type) where
  previous : Dict String Sample
  outputs : List ((String → Bool) × CollectedOutput Sample Document Extension)

/-- Nothing is remembered. -/
def Run.start : Run Sample Document Extension := ⟨Dict.empty, []⟩

variable (violations : CollectedOutput Sample Document Extension → List String)

/-- One collection. -/
def step (state : Run Sample Document Extension) (call : CollectCall Sample Extension) :
    Option (Run Sample Document Extension) :=
  let (result, previous) := collector.collect violations state.previous call
  match result with
  | .error _ => some ⟨previous, state.outputs⟩
  | .ok output => some ⟨previous, state.outputs ++ [(call.answered, output)]⟩

/-- The identities that an output emits. -/
def emitted (output : CollectedOutput Sample Document Extension) : List String :=
  output.items.map fun item => collector.identity item.1

/-- Add and remove what churned. -/
def replay (known : Finset String) (churn : Churn Document) : Finset String :=
  (known \ (churn.removed.map Named.identity).toFinset) ∪ (churn.added.map Named.identity).toFinset

/-- The changed list names exactly what two outputs emit and what has fields that changed. -/
def Changes (older newer : CollectedOutput Sample Document Extension) : Prop :=
  ∀ identity, identity ∈ newer.churn.changed.map (fun changed => changed.identity) ↔
    ∃ before ∈ older.items, ∃ after ∈ newer.items, collector.identity before.1 = identity ∧
      collector.identity after.1 = identity ∧
        ∃ fields, collector.changedFields before.1 after.1 = some fields ∧ fields ≠ []

/-- The outputs are consented and faithful. -/
structure Faithful (state : Run Sample Document Extension) : Prop where
  consented : ∀ record ∈ state.outputs, ∀ identity ∈ collector.emitted record.2,
    collector.Allowlisted identity ∧ collector.Granted record.1 identity
  once : ∀ record ∈ state.outputs, (collector.emitted record.2).Nodup
  replays : ∀ before first rest last after, state.outputs = before ++ first :: rest ++ after →
    (∀ record ∈ rest, record.1 = first.1) → (first :: rest).getLast? = some last →
      rest.foldl (fun known record => replay known record.2.churn)
        (collector.emitted first.2).toFinset = (collector.emitted last.2).toFinset
  changes : ∀ before first second after, state.outputs = before ++ first :: second :: after →
    second.1 = first.1 → collector.Changes first.2 second.2

/-- A call that comes to read its source: the trigger is the collector's and every grant of the whole
collector is held. -/
def Reads (call : CollectCall Sample Extension) : Prop :=
  collector.validateTrigger call.trigger = .ok () ∧ collector.ungranted call.asked = none

/-- No grant of the whole collector was withdrawn while the source was read, unless nothing is
emitted, and no identity that is emitted is repeated. -/
def Kept (call : CollectCall Sample Extension) : Prop :=
  collector.Reads call → ∀ snapshot, call.source = some (some snapshot) →
    let items := snapshot.items.filter fun item =>
      collector.permits call.answered (collector.identity item)
    (items ≠ [] → collector.ungranted call.answered = none) ∧
      (items.map collector.identity).Nodup

/-! ### One output -/

/-- What an output is made of. -/
structure Emits (previous : Dict String Sample) (call : CollectCall Sample Extension)
    (output : CollectedOutput Sample Document Extension) (current : Dict String Sample) : Prop where
  reads : collector.Reads call
  items : ∃ snapshot, call.source = some (some snapshot) ∧
    (output.items.map Prod.fst).Perm (snapshot.items.filter fun item =>
      collector.permits call.answered (collector.identity item))
  remembered : current = collector.byIdentity (output.items.map Prod.fst)
  churn : collector.churn (previous.filter fun identity _ => collector.permits call.answered identity)
    current = .ok output.churn

variable {identity : String} {items : List Sample} {call : CollectCall Sample Extension}
  {state next : Run Sample Document Extension}

theorem items_of_validateSnapshot {snapshot : Option (SourceSnapshot Sample)}
    {status : SourceStatus} {observedAtMs : Int}
    (validated : collector.validateSnapshot snapshot = .ok (status, observedAtMs, items)) :
    ∃ given, snapshot = some given ∧ given.items = items := by
  unfold validateSnapshot at validated
  split at validated
  · cases validated
  · rename_i given
    obtain ⟨_, _, rest⟩ := bind_eq_ok.mp validated
    split at rest
    · cases rest
    · split at rest
      · cases rest
      · split_ifs at rest
        obtain ⟨_, _, last⟩ := bind_eq_ok.mp rest
        cases last
        exact ⟨given, rfl, rfl⟩

variable {collector violations}

theorem source_of_hook {Answer : Type} {given : Option Answer} {answer : Answer}
    (gave : hook given = .ok answer) : given = some answer := by
  cases given with
  | none => cases gave
  | some other =>
    cases gave
    rfl

theorem emits_of_collectOutput {previous current : Dict String Sample}
    {output : CollectedOutput Sample Document Extension}
    (collected : collector.collectOutput violations previous call = .ok (output, current)) :
    collector.Emits previous call output current := by
  rw [collectOutput] at collected
  obtain ⟨_, triggered, collected⟩ := bind_eq_ok.mp collected
  split at collected
  · cases collected
  · rename_i asked
    obtain ⟨snapshot, source, collected⟩ := bind_eq_ok.mp collected
    obtain ⟨⟨status, observedAtMs, items⟩, validated, collected⟩ := bind_eq_ok.mp collected
    obtain ⟨kept, filtered, collected⟩ := bind_eq_ok.mp collected
    obtain ⟨_, _, collected⟩ := bind_eq_ok.mp collected
    obtain ⟨authorized, remembered, collected⟩ := bind_eq_ok.mp collected
    obtain ⟨churn, churned, collected⟩ := bind_eq_ok.mp collected
    obtain ⟨documents, documented, collected⟩ := bind_eq_ok.mp collected
    obtain ⟨extension, _, collected⟩ := bind_eq_ok.mp collected
    dsimp only at collected
    split at collected
    · cases collected
    · cases collected
      obtain ⟨given, same, rfl⟩ := collector.items_of_validateSnapshot validated
      subst same
      have items : documents.map Prod.fst = (kept.insertionSort fun first second =>
          collector.identity first ≤ collector.identity second).map id :=
        map_eq_of_mapM documented fun item result read => by
          obtain ⟨_, _, last⟩ := bind_eq_ok.mp read
          cases last
          rfl
      rw [List.map_id] at items
      have permitted : kept = given.items.filter fun item =>
          collector.permits call.answered (collector.identity item) :=
        eq_filter_of_keepWhere filtered
      refine ⟨⟨triggered, asked⟩, ⟨given, source_of_hook source, ?_⟩, (congrArg _ items).symm, ?_⟩
      · rw [items, ← permitted]
        exact List.perm_insertionSort _ _
      · obtain ⟨_, _, last⟩ := bind_eq_ok.mp remembered
        cases last
        exact churned

/-! ### Churn -/

theorem mem_sortedEntries {Value : Type} {dict : Dict String Value} {entry : String × Value} :
    entry ∈ sortedEntries dict ↔ dict.get? entry.1 = some entry.2 := by
  rw [sortedEntries, List.mem_insertionSort, Dict.get?_eq_some_iff]

/-- The entries of a dictionary that are named. -/
theorem mem_named {dict : Dict String Sample} {names : List (Named Document)}
    (all : (sortedEntries dict).mapM collector.named = .ok names) :
    identity ∈ names.map Named.identity ↔ identity ∈ dict.keys := by
  have identities : names.map Named.identity = (sortedEntries dict).map Prod.fst :=
    map_eq_of_mapM all fun entry name read => by
      obtain ⟨_, _, last⟩ := bind_eq_ok.mp read
      cases last
      rfl
  rw [identities, sortedEntries]
  exact ((List.perm_insertionSort _ _).map Prod.fst).mem_iff

/-- An item changed, or it did not. -/
theorem eq_of_change {entry : String × Sample × Sample} {result : Option (ChangedItem Document)}
    (read : collector.change entry = .ok result) :
    ∃ fields, collector.changedFields entry.2.1 entry.2.2 = some fields ∧
      (fields = [] ∧ result = none ∨
        fields ≠ [] ∧ ∃ changed, result = some changed ∧ changed.identity = entry.1) := by
  obtain ⟨fields, found, rest⟩ := bind_eq_ok.mp read
  refine ⟨fields, source_of_hook found, ?_⟩
  by_cases unchanged : fields = []
  · rw [if_pos unchanged] at rest
    cases rest
    exact Or.inl ⟨unchanged, rfl⟩
  · rw [if_neg unchanged] at rest
    obtain ⟨name, named, last⟩ := bind_eq_ok.mp rest
    obtain ⟨_, _, same⟩ := bind_eq_ok.mp named
    cases same
    cases last
    exact Or.inr ⟨unchanged, _, rfl, rfl⟩

theorem mem_changed {dict : Dict String (Sample × Sample)}
    {changes : List (Option (ChangedItem Document))}
    (all : (sortedEntries dict).mapM collector.change = .ok changes) :
    identity ∈ changes.reduceOption.map (fun changed => changed.identity) ↔
      ∃ before after fields, dict.get? identity = some (before, after) ∧
        collector.changedFields before after = some fields ∧ fields ≠ [] := by
  simp only [List.mem_map, List.reduceOption_mem_iff, mem_iff_of_mapM all]
  constructor
  · rintro ⟨changed, ⟨⟨stored, before, after⟩, inside, read⟩, rfl⟩
    obtain ⟨fields, found, ⟨_, missing⟩ | ⟨some, _, same, named⟩⟩ := eq_of_change read
    · cases missing
    · cases same
      exact ⟨before, after, fields, named ▸ mem_sortedEntries.mp inside, found, some⟩
  · rintro ⟨before, after, fields, stored, found, some⟩
    have inside : (identity, before, after) ∈ sortedEntries dict := mem_sortedEntries.mpr stored
    obtain ⟨result, read⟩ := exists_result_of_mapM all _ inside
    obtain ⟨others, again, ⟨none, _⟩ | ⟨_, changed, rfl, named⟩⟩ := eq_of_change read
    · rw [found] at again
      cases again
      exact absurd none some
    · exact ⟨changed, ⟨_, inside, read⟩, named⟩

theorem mem_keys_filter_missing {first second : Dict String Sample} :
    identity ∈ (first.filter fun identity _ => !second.contains identity).keys ↔
      identity ∈ first.keys ∧ identity ∉ second.keys := by
  simp only [Dict.mem_keys_iff, Dict.get?_filter_of_accept, Bool.not_eq_true',
    ← Bool.not_eq_true, Dict.contains_iff, exists_and_right]

theorem churn_eq_ok {previous current : Dict String Sample} {churn : Churn Document}
    (churned : collector.churn previous current = .ok churn) {identity : String} :
    (identity ∈ churn.added.map Named.identity ↔
      identity ∈ current.keys ∧ identity ∉ previous.keys) ∧
    (identity ∈ churn.removed.map Named.identity ↔
      identity ∈ previous.keys ∧ identity ∉ current.keys) ∧
    (identity ∈ churn.changed.map (fun changed => changed.identity) ↔
      ∃ before after fields, previous.get? identity = some before ∧
        current.get? identity = some after ∧
          collector.changedFields before after = some fields ∧ fields ≠ []) := by
  rw [BoundedCollector.churn] at churned
  obtain ⟨added, addedAll, churned⟩ := bind_eq_ok.mp churned
  obtain ⟨removed, removedAll, churned⟩ := bind_eq_ok.mp churned
  obtain ⟨changed, changedAll, last⟩ := bind_eq_ok.mp churned
  cases last
  refine ⟨?_, ?_, ?_⟩
  · rw [mem_named addedAll]
    exact mem_keys_filter_missing
  · rw [mem_named removedAll]
    exact mem_keys_filter_missing
  · rw [mem_changed changedAll]
    simp only [Dict.get?_filterMap, Option.bind_eq_some_iff, Option.map_eq_some_iff, Prod.mk.injEq]
    constructor
    · rintro ⟨_, _, fields, ⟨before, stored, after, found, rfl, rfl⟩, changes⟩
      exact ⟨before, after, fields, stored, found, changes⟩
    · rintro ⟨before, after, fields, stored, found, changes⟩
      exact ⟨before, after, fields, ⟨before, stored, after, found, rfl, rfl⟩, changes⟩

/-! ### Memory -/

/-- Items of distinct identities are all remembered. -/
theorem entries_byIdentity (distinct : (items.map collector.identity).Nodup) :
    (collector.byIdentity items).entries = items.map fun item => (collector.identity item, item) := by
  have set := @Dict.entries_foldl_set String Sample _ Dict.empty
    (items.map fun item => (collector.identity item, item))
    (by rw [Dict.keys_empty, List.nil_append, List.map_map]; exact distinct)
  rw [List.foldl_map] at set
  exact set

theorem mem_keys_byIdentity (distinct : (items.map collector.identity).Nodup) :
    identity ∈ (collector.byIdentity items).keys ↔ identity ∈ items.map collector.identity := by
  rw [Dict.keys, entries_byIdentity distinct, List.map_map]
  exact Iff.rfl

theorem get?_byIdentity (distinct : (items.map collector.identity).Nodup) {item : Sample} :
    (collector.byIdentity items).get? identity = some item ↔
      item ∈ items ∧ collector.identity item = identity := by
  rw [Dict.get?_eq_some_iff, entries_byIdentity distinct, List.mem_map]
  constructor
  · rintro ⟨_, inside, same⟩
    cases same
    exact ⟨inside, rfl⟩
  · rintro ⟨inside, rfl⟩
    exact ⟨item, inside, rfl⟩

/-- An output continues another. -/
def Continues (collector : BoundedCollector Sample Document)
    (older newer : CollectedOutput Sample Document Extension) : Prop :=
  replay (collector.emitted older).toFinset newer.churn = (collector.emitted newer).toFinset ∧
    collector.Changes older newer

/-- What every collection preserves. -/
structure Remembers (collector : BoundedCollector Sample Document)
    (state : Run Sample Document Extension) : Prop where
  consented : ∀ record ∈ state.outputs, ∀ identity ∈ collector.emitted record.2,
    collector.Allowlisted identity ∧ collector.Granted record.1 identity
  once : ∀ record ∈ state.outputs, (collector.emitted record.2).Nodup
  chain : state.outputs.IsChain fun older newer =>
    newer.1 = older.1 → collector.Continues older.2 newer.2
  memory : ∀ record, state.outputs.getLast? = some record →
    state.previous = collector.byIdentity (record.2.items.map Prod.fst) ∧
      ∀ identity ∈ collector.emitted record.2, collector.permits record.1 identity = true

theorem remembers_start : collector.Remembers (Run.start : Run Sample Document Extension) where
  consented _ member := absurd member List.not_mem_nil
  once _ member := absurd member List.not_mem_nil
  chain := List.isChain_nil
  memory := nofun

/-- What is emitted is allowlisted and granted, if no grant of the whole collector is missing. -/
theorem granted_of_permits {allows : String → Bool}
    (permitted : collector.permits allows identity = true)
    (whole : collector.ungranted allows = none) :
    collector.Allowlisted identity ∧ collector.Granted allows identity := by
  rw [ungranted] at whole
  split_ifs at whole with metadata
  rw [Option.map_eq_none_iff, List.find?_eq_none] at whole
  rw [permits, accepts, mayEmit] at permitted
  split at permitted
  · rename_i accepted same
    split_ifs at same with excluded
    · cases same
      cases permitted
    · obtain ⟨permission, asked, last⟩ := bind_eq_ok.mp same
      cases last
      refine ⟨fun required => ?_, ?_, ?_, ?_⟩
      · by_contra absent
        refine excluded (by simpa [absent, List.isEmpty_iff] using required)
      · simpa using metadata
      · exact fun consent member => by simpa using whole consent member
      · intro needed found
        rw [source_of_hook asked] at found
        cases found
        exact permitted
  · cases permitted

/-- An output continues the last one, while the grants stay as they are. -/
theorem continues_of_emits {older newer : CollectedOutput Sample Document Extension}
    {current : Dict String Sample}
    (emits : collector.Emits (collector.byIdentity (older.items.map Prod.fst)) call newer current)
    (olderOnce : (collector.emitted older).Nodup) (newerOnce : (collector.emitted newer).Nodup)
    (permitted : ∀ identity ∈ collector.emitted older,
      collector.permits call.answered identity = true) : collector.Continues older newer := by
  have olderDistinct : ((older.items.map Prod.fst).map collector.identity).Nodup := by
    rw [List.map_map]
    exact olderOnce
  have newerDistinct : ((newer.items.map Prod.fst).map collector.identity).Nodup := by
    rw [List.map_map]
    exact newerOnce
  have authorized : (collector.byIdentity (older.items.map Prod.fst)).filter
      (fun identity _ => collector.permits call.answered identity) =
        collector.byIdentity (older.items.map Prod.fst) := by
    refine Dict.ext (List.filter_eq_self.mpr fun entry member => permitted _ ?_)
    have key := (mem_keys_byIdentity olderDistinct).mp (List.mem_map_of_mem member)
    rwa [List.map_map] at key
  have churned := emits.churn
  rw [authorized, emits.remembered] at churned
  constructor
  · ext identity
    obtain ⟨added, removed, _⟩ := @churn_eq_ok _ _ _ _ _ _ churned identity
    rw [mem_keys_byIdentity olderDistinct, mem_keys_byIdentity newerDistinct, List.map_map,
      List.map_map] at added removed
    rw [replay, Finset.mem_union, Finset.mem_sdiff, List.mem_toFinset, List.mem_toFinset,
      List.mem_toFinset, List.mem_toFinset, added, removed]
    change _ ↔ identity ∈ newer.items.map (collector.identity ∘ Prod.fst)
    change identity ∈ older.items.map (collector.identity ∘ Prod.fst) ∧ _ ∨ _ ↔ _
    tauto
  · intro identity
    obtain ⟨_, _, changed⟩ := @churn_eq_ok _ _ _ _ _ _ churned identity
    rw [changed]
    simp only [get?_byIdentity olderDistinct, get?_byIdentity newerDistinct, List.mem_map]
    constructor
    · rintro ⟨_, _, fields, ⟨⟨before, wasThere, rfl⟩, same⟩, ⟨⟨after, isThere, rfl⟩, again⟩, changes⟩
      exact ⟨before, wasThere, after, isThere, same, again, fields, changes⟩
    · rintro ⟨before, wasThere, after, isThere, same, again, fields, changes⟩
      exact ⟨_, _, fields, ⟨⟨before, wasThere, rfl⟩, same⟩, ⟨⟨after, isThere, rfl⟩, again⟩, changes⟩

/-! ### Runs of collections -/

/-- What a collection does: it fails and changes nothing, or it returns an output. -/
theorem step_cases (steps : collector.step violations state call = some next) :
    next = state ∨ ∃ output current, collector.Emits state.previous call output current ∧
      next = ⟨current, state.outputs ++ [(call.answered, output)]⟩ := by
  rw [step, collect] at steps
  cases collected : collector.collectOutput violations state.previous call with
  | error failure =>
    rw [collected] at steps
    exact Or.inl (Option.some.inj steps).symm
  | ok result =>
    rw [collected] at steps
    exact Or.inr ⟨result.1, result.2, emits_of_collectOutput collected, (Option.some.inj steps).symm⟩

theorem remembers_step (remembers : collector.Remembers state) (kept : collector.Kept call)
    (steps : collector.step violations state call = some next) : collector.Remembers next := by
  obtain rfl | ⟨output, current, emits, rfl⟩ := step_cases steps
  · exact remembers
  · obtain ⟨snapshot, source, items⟩ := emits.items
    obtain ⟨whole, distinct⟩ := kept emits.reads snapshot source
    have same : collector.emitted output = (output.items.map Prod.fst).map collector.identity := by
      rw [List.map_map]
      rfl
    have once : (collector.emitted output).Nodup := by
      rw [same]
      exact ((items.map collector.identity).nodup_iff).mpr distinct
    have permitted : ∀ identity ∈ collector.emitted output,
        collector.permits call.answered identity = true := by
      rw [same]
      intro identity member
      obtain ⟨item, inside, rfl⟩ := List.mem_map.mp member
      exact (List.mem_filter.mp (items.mem_iff.mp inside)).2
    refine ⟨?_, ?_, ?_, ?_⟩
    · intro record member identity inside
      rcases List.mem_append.mp member with old | new
      · exact remembers.consented record old identity inside
      · obtain rfl := List.mem_singleton.mp new
        refine granted_of_permits (permitted identity inside) (whole fun none => ?_)
        rw [same, items.map collector.identity |>.mem_iff, none] at inside
        cases inside
    · intro record member
      rcases List.mem_append.mp member with old | new
      · exact remembers.once record old
      · obtain rfl := List.mem_singleton.mp new
        exact once
    · refine List.isChain_append.mpr ⟨remembers.chain, List.isChain_singleton _, ?_⟩
      intro older last newer first unchanged
      cases first
      obtain ⟨memory, allowed⟩ := remembers.memory older last
      rw [memory] at emits
      refine continues_of_emits emits (remembers.once older (List.mem_of_getLast? last)) once ?_
      have answered : call.answered = older.1 := unchanged
      rw [answered]
      exact allowed
    · intro record last
      rw [List.getLast?_append_of_ne_nil, List.getLast?_singleton] at last
      · cases last
        exact ⟨emits.remembered, permitted⟩
      · simp

/-- Replaying the churn of successive outputs leads from the first to the last. -/
theorem replay_chain {first last : (String → Bool) × CollectedOutput Sample Document Extension}
    {rest : List ((String → Bool) × CollectedOutput Sample Document Extension)}
    (chain : (first :: rest).IsChain fun older newer =>
      newer.1 = older.1 → collector.Continues older.2 newer.2)
    (unchanged : ∀ record ∈ rest, record.1 = first.1)
    (ends : (first :: rest).getLast? = some last) :
    rest.foldl (fun known record => replay known record.2.churn)
      (collector.emitted first.2).toFinset = (collector.emitted last.2).toFinset := by
  induction rest generalizing first with
  | nil =>
    obtain rfl := Option.some.inj ends
    rfl
  | cons second rest inductionHypothesis =>
    obtain ⟨follows, others⟩ := List.isChain_cons_cons.mp chain
    obtain ⟨same, later⟩ := List.forall_mem_cons.mp unchanged
    rw [List.foldl_cons, (follows same).1]
    refine inductionHypothesis others (fun record member => (later record member).trans same.symm) ?_
    rwa [List.getLast?_cons_cons] at ends

theorem Remembers.faithful (remembers : collector.Remembers state) : collector.Faithful state where
  consented := remembers.consented
  once := remembers.once
  replays before first rest last after outputs unchanged ends := by
    have chain := remembers.chain
    rw [outputs] at chain
    refine replay_chain ?_ unchanged ends
    exact List.IsChain.infix chain ⟨before, after, by simp⟩
  changes before first second after outputs unchanged := by
    have chain := remembers.chain
    rw [outputs] at chain
    exact ((List.isChain_append_cons_cons.mp chain).2.1 unchanged).2

/-- Every sequence of collections is faithful, if no grant of the whole collector is withdrawn while
the source is read and something is emitted, and no identity that is emitted is repeated; and a
collection that fails changes nothing that is remembered. -/
theorem faithful_of_kept {calls : List (CollectCall Sample Extension)}
    {state : Run Sample Document Extension}
    (runs : Machine.run (collector.step violations) Run.start calls = some state)
    (kept : ∀ call ∈ calls, collector.Kept call) :
    collector.Faithful state ∧ ∀ call failure,
      (collector.collect violations state.previous call).1 = .error failure →
        (collector.collect violations state.previous call).2 = state.previous := by
  constructor
  · have throughout : Machine.Throughout (collector.step violations)
        (fun _ call => collector.Kept call) Run.start calls := Machine.throughout_of_forall kept
    have preserved : ∀ state call next, collector.Remembers state → collector.Kept call →
        collector.step violations state call = some next → collector.Remembers next :=
      fun _ _ _ remembers kept steps => remembers_step remembers kept steps
    exact (Machine.invariant_run_throughout collector.Remembers preserved remembers_start throughout
      runs).faithful
  · intro call failure failed
    rw [collect] at failed ⊢
    split at failed
    · rfl
    · cases failed

/-- A collector of readings that needs one grant. -/
def meter : BoundedCollector (String × Nat) String where
  pluginId := "meter"
  metadataPermission := "read"
  consentPermissions := []
  label := "meter"
  triggerLabel := ""
  sourceName := "meter"
  itemsKey := "items"
  requireAllowlist := false
  sortChangedFields := true
  allowedIds := []
  identityOf item := .text item.1
  documentOf item := some (toString item.2)
  changedFields before after := some (if before = after then [] else ["state"])
  itemPermission _ := some none
  identityDocument item := some item.1
  sampleError _ := some ""
  distinct := List.nodup_nil
  allowedFew := Nat.zero_le _
  allowedStable := nofun

/-- A collection of the meter. -/
def reading (answered : Bool) (items : List (String × Nat)) : CollectCall (String × Nat) Unit where
  trigger := some "meter"
  asked _ := true
  source := some (some ⟨some .ready, some 0, items⟩)
  answered _ := answered
  extension := some ()

/-- A reading changes and another one is replaced, with a collection between them that fails. -/
theorem faithful_of_kept_meter : ∃ state,
    Machine.run (meter.step fun _ : CollectedOutput (String × Nat) String Unit => []) Run.start
      [reading true [("a", 1), ("b", 2)], { reading true [] with source := none },
        reading true [("b", 3), ("c", 4)]] = some state ∧
    state.outputs.length = 2 ∧ meter.Faithful state := by
  have passes : (Machine.run (meter.step fun _ : CollectedOutput (String × Nat) String Unit => [])
      Run.start [reading true [("a", 1), ("b", 2)], { reading true [] with source := none },
        reading true [("b", 3), ("c", 4)]]).any (fun state => decide (state.outputs.length = 2)) =
      true := by decide +kernel
  obtain ⟨state, runs, two⟩ := Machine.exists_run_of_any passes
  refine ⟨state, runs, of_decide_eq_true two, (faithful_of_kept runs ?_).1⟩
  simp only [List.forall_mem_cons]
  refine ⟨?_, nofun, ?_, nofun⟩
  · rintro - snapshot same
    cases same
    exact ⟨fun _ => by decide +kernel, by decide +kernel⟩
  · rintro - snapshot same
    cases same
    exact ⟨fun _ => by decide +kernel, by decide +kernel⟩

/-- The grant is withdrawn while the source is read; or a snapshot repeats an item. -/
theorem not_every_run_faithful :
    (∃ state, Machine.run (meter.step fun _ : CollectedOutput (String × Nat) String Unit => [])
      Run.start [reading false [("a", 1)]] = some state ∧ ¬ meter.Faithful state) ∧
    ∃ state, Machine.run (meter.step fun _ : CollectedOutput (String × Nat) String Unit => [])
      Run.start [reading true [("a", 1), ("a", 2)]] = some state ∧ ¬ meter.Faithful state := by
  constructor
  · have passes : (Machine.run (meter.step fun _ : CollectedOutput (String × Nat) String Unit => [])
        Run.start [reading false [("a", 1)]]).any (fun state => state.outputs.any fun record =>
          !(meter.emitted record.2).isEmpty && !record.1 "read") = true := by decide +kernel
    obtain ⟨state, runs, withdrawn⟩ := Machine.exists_run_of_any passes
    refine ⟨state, runs, fun faithful => ?_⟩
    obtain ⟨record, member, withdrawn⟩ := List.any_eq_true.mp withdrawn
    simp only [Bool.and_eq_true, Bool.not_eq_true', List.isEmpty_eq_false_iff_exists_mem] at withdrawn
    obtain ⟨⟨identity, inside⟩, denied⟩ := withdrawn
    have granted := (faithful.consented record member identity inside).2.metadata
    rw [show meter.metadataPermission = "read" from rfl, denied] at granted
    cases granted
  · have passes : (Machine.run (meter.step fun _ : CollectedOutput (String × Nat) String Unit => [])
        Run.start [reading true [("a", 1), ("a", 2)]]).any (fun state => state.outputs.any fun record =>
          !decide (meter.emitted record.2).Nodup) = true := by decide +kernel
    obtain ⟨state, runs, repeated⟩ := Machine.exists_run_of_any passes
    refine ⟨state, runs, fun faithful => ?_⟩
    obtain ⟨record, member, repeated⟩ := List.any_eq_true.mp repeated
    rw [decide_eq_true (faithful.once record member)] at repeated
    cases repeated

end BoundedCollector

end Omnitensor
