/-
This file proves that the labels of a drive's observations are true, and that a split does not leak.

The examples of valid files are, in some order, those that the observations themselves call for: one for
each drive and day with features on which it did not fail, positive if the drive failed at most the horizon
later, else negative if it was seen again after the horizon. Either these are what is built, or a bound is
exceeded. The invariant is that the examples so far, those that the queues call for from the rows to come,
and those that these rows call for themselves, are what is built in the end.
-/

import Omnitensor.StorageDataset

namespace Omnitensor

namespace Storage

variable {Real : Type} {builder : BackblazeDatasetBuilder} {reading : NumberReading Real}

/-! ### Labels from later observations -/

/-- The label of an observation, from later observations. -/
def laterLabel (horizonDays : Nat) (serial : String) (observedOn : CalendarDate)
    (later : List (Observation Real)) : Option Nat :=
  if ∃ other ∈ later, other.serial = serial ∧ other.failed = true ∧
      ¬ Outlasted horizonDays other.observedOn observedOn then some 1
  else if ∃ other ∈ later, other.serial = serial ∧
      Outlasted horizonDays other.observedOn observedOn then some 0
  else none

/-- The examples that a queue calls for. -/
def queuedExamples (horizonDays : Nat) (serial : String) (later : List (Observation Real))
    (history : History Real) : List (StorageExample Real) :=
  history.filterMap fun waiting =>
    (laterLabel horizonDays serial waiting.1 later).map (StorageExample.mk waiting.1 waiting.2)

/-- The example that an observation calls for. -/
def exampleOf (label : Observation Real → Option Nat) (observation : Observation Real) :
    Option (StorageExample Real) :=
  if observation.failed then none
  else observation.features.bind fun features =>
    (label observation).map (StorageExample.mk observation.observedOn features)

/-- The examples that observations call for, each from those behind it. -/
def calledFor (horizonDays : Nat) : List (Observation Real) → List (StorageExample Real)
  | [] => []
  | observation :: later =>
    (exampleOf (fun observation => laterLabel horizonDays observation.serial observation.observedOn later)
      observation).toList ++ calledFor horizonDays later

/-- The examples that the queues call for. -/
def pendingExamples (horizonDays : Nat) (later : List (Observation Real))
    (pending : Dict String (History Real)) : List (StorageExample Real) :=
  pending.entries.flatMap fun entry => queuedExamples horizonDays entry.1 later entry.2

variable {later observations : List (Observation Real)} {current bound : Nat}
  {observedOn : CalendarDate} {history : History Real} {pending : Dict String (History Real)}
  {examples : List (StorageExample Real)} {file : DailyFile} {seenSerials : List String}
  {files : List DailyFile}

theorem exists_mem_cons_of_not {first : Observation Real} {holds : Observation Real → Prop}
    (fails : ¬ holds first) :
    (∃ other ∈ first :: later, holds other) ↔ ∃ other ∈ later, holds other := by
  rw [List.exists_mem_cons_iff, or_iff_right fails]

theorem laterLabel_cons_of_ne {horizonDays : Nat} {serial : String} {observation : Observation Real}
    (other : observation.serial ≠ serial) :
    laterLabel horizonDays serial observedOn (observation :: later) =
      laterLabel horizonDays serial observedOn later := by
  rw [laterLabel, laterLabel]
  exact if_congr (exists_mem_cons_of_not fun both => other both.1) rfl
    (if_congr (exists_mem_cons_of_not fun both => other both.1) rfl rfl)

variable {horizonDays : Nat} {observation : Observation Real} {later : List (Observation Real)}
  {waiting : CalendarDate × List Real}

/-- Rows come in the order of their days. -/
def InOrder (observations : List (Observation Real)) : Prop :=
  observations.Pairwise fun first second => first.observedOn.ordinal ≤ second.observedOn.ordinal

/-- What the next row of a drive finds too old is negative. -/
theorem laterLabel_outlasted (ordered : InOrder (observation :: later))
    (outlasted : Outlasted horizonDays observation.observedOn observedOn) :
    laterLabel horizonDays observation.serial observedOn (observation :: later) = some 0 := by
  have all : ∀ other ∈ observation :: later, Outlasted horizonDays other.observedOn observedOn :=
    List.forall_mem_cons.mpr ⟨outlasted, fun other member =>
      Nat.lt_of_lt_of_le outlasted ((List.pairwise_cons.mp ordered).1 other member)⟩
  rw [laterLabel, if_neg, if_pos]
  · exact ⟨observation, List.mem_cons_self, rfl, outlasted⟩
  · rintro ⟨other, member, _, _, young⟩
    exact young (all other member)

/-- What a failure finds young enough is positive. -/
theorem laterLabel_failed (failed : observation.failed = true)
    (young : ¬ Outlasted horizonDays observation.observedOn observedOn) :
    laterLabel horizonDays observation.serial observedOn (observation :: later) = some 1 := by
  rw [laterLabel, if_pos]
  exact ⟨observation, List.mem_cons_self, rfl, failed, young⟩

/-- What another row finds young enough has the label that the rows behind it give. -/
theorem laterLabel_young (failed : observation.failed = false)
    (young : ¬ Outlasted horizonDays observation.observedOn observedOn) :
    laterLabel horizonDays observation.serial observedOn (observation :: later) =
      laterLabel horizonDays observation.serial observedOn later := by
  rw [laterLabel, laterLabel]
  refine if_congr (exists_mem_cons_of_not fun both => ?_) rfl
    (if_congr (exists_mem_cons_of_not fun both => young both.2) rfl rfl)
  rw [failed] at both
  exact Bool.false_ne_true both.2.1

/-! ### Queues -/

/-- A queue of observations in the order of their days, none after a day. -/
def Aged (current : Nat) (history : History Real) : Prop :=
  (history.Pairwise fun first second => first.1.ordinal ≤ second.1.ordinal) ∧
    ∀ waiting ∈ history, waiting.1.ordinal ≤ current

/-- The observations of a queue that are too old, and the others. -/
def released (horizonDays : Nat) (current : CalendarDate) (history : History Real) : History Real :=
  history.takeWhile fun waiting => Outlasted horizonDays current waiting.1

def unreleased (horizonDays : Nat) (current : CalendarDate) (history : History Real) : History Real :=
  history.dropWhile fun waiting => Outlasted horizonDays current waiting.1

theorem released_append_unreleased (current : CalendarDate) (history : History Real) :
    released horizonDays current history ++ unreleased horizonDays current history = history :=
  List.takeWhile_append_dropWhile

theorem outlasted_of_mem_released {current : CalendarDate}
    (member : waiting ∈ released horizonDays current history) :
    Outlasted horizonDays current waiting.1 := by
  rw [released] at member
  have old := List.mem_takeWhile_imp member
  exact of_decide_eq_true old

theorem not_outlasted_of_mem_unreleased {current : CalendarDate} (aged : Aged bound history)
    (member : waiting ∈ unreleased horizonDays current history) :
    ¬ Outlasted horizonDays current waiting.1 := by
  induction history with
  | nil => cases member
  | cons first history inductionHypothesis =>
    obtain ⟨⟨below, ordered⟩, bounded⟩ := And.imp_left List.pairwise_cons.mp aged
    rw [unreleased, List.dropWhile_cons] at member
    split_ifs at member with old
    · exact inductionHypothesis ⟨ordered, (List.forall_mem_cons.mp bounded).2⟩ member
    · intro outlasted
      rcases List.mem_cons.mp member with rfl | behind
      · exact old (decide_eq_true outlasted)
      · exact old (decide_eq_true (Nat.lt_of_le_of_lt
          (Nat.add_le_add_right (below waiting behind) horizonDays) outlasted))

/-- A queue calls for what is released of it and for what it calls for behind the row. -/
theorem queuedExamples_split (ordered : InOrder (observation :: later)) (history : History Real) :
    queuedExamples horizonDays observation.serial (observation :: later) history =
      (released horizonDays observation.observedOn history).map (fun waiting => ⟨waiting.1, waiting.2, 0⟩) ++
        queuedExamples horizonDays observation.serial (observation :: later)
          (unreleased horizonDays observation.observedOn history) := by
  rw [queuedExamples, ← released_append_unreleased observation.observedOn history,
    List.filterMap_append, released_append_unreleased]
  refine congrArg₂ _ ?_ rfl
  rw [← List.filterMap_eq_map]
  refine List.filterMap_congr fun waiting member => ?_
  rw [laterLabel_outlasted ordered (outlasted_of_mem_released member)]
  rfl

/-- A drive that outlived the horizon. -/
def negative (waiting : CalendarDate × List Real) : StorageExample Real := ⟨waiting.1, waiting.2, 0⟩

/-- A drive that failed within the horizon. -/
def positive (waiting : CalendarDate × List Real) : StorageExample Real := ⟨waiting.1, waiting.2, 1⟩

/-- What waits of a drive behind a row that is no failure. -/
def extended (horizonDays : Nat) (observation : Observation Real) (history : History Real) :
    History Real :=
  unreleased horizonDays observation.observedOn history ++
    observation.features.toList.map fun features => (observation.observedOn, features)

/-- What a row labels in the queue of its drive. -/
def emitted (horizonDays : Nat) (observation : Observation Real) (history : History Real) :
    List (StorageExample Real) :=
  (released horizonDays observation.observedOn history).map negative ++
    if observation.failed then (unreleased horizonDays observation.observedOn history).map positive
    else []

theorem exampleOf_toList {label : Observation Real → Option Nat} (failed : observation.failed = false) :
    (exampleOf label observation).toList = (observation.features.toList.map fun features =>
      (observation.observedOn, features)).filterMap fun waiting =>
        (label observation).map (StorageExample.mk waiting.1 waiting.2) := by
  rw [exampleOf, failed, if_neg Bool.false_ne_true]
  cases observation.features with
  | none => rfl
  | some features => cases label observation <;> rfl

/-- A failure labels the whole queue, and is no example itself. -/
theorem queuedExamples_failed (ordered : InOrder (observation :: later)) (aged : Aged bound history)
    (failed : observation.failed = true) :
    queuedExamples horizonDays observation.serial (observation :: later) history =
      emitted horizonDays observation history := by
  rw [queuedExamples_split ordered, emitted, if_pos failed]
  refine congrArg₂ _ rfl ?_
  rw [queuedExamples, ← List.filterMap_eq_map]
  refine List.filterMap_congr fun waiting member => ?_
  rw [laterLabel_failed failed (not_outlasted_of_mem_unreleased aged member)]
  rfl

/-- Another row labels what is too old, and joins the queue. -/
theorem queuedExamples_observed (ordered : InOrder (observation :: later)) {history : History Real}
    {bound : Nat} (aged : Aged bound history) (failed : observation.failed = false) :
    queuedExamples horizonDays observation.serial (observation :: later) history ++
        (exampleOf (fun observation =>
          laterLabel horizonDays observation.serial observation.observedOn later) observation).toList =
      emitted horizonDays observation history ++
        queuedExamples horizonDays observation.serial later
          (extended horizonDays observation history) := by
  have young : queuedExamples horizonDays observation.serial (observation :: later)
      (unreleased horizonDays observation.observedOn history) =
        queuedExamples horizonDays observation.serial later
          (unreleased horizonDays observation.observedOn history) := by
    rw [queuedExamples, queuedExamples]
    refine List.filterMap_congr fun waiting member => ?_
    rw [laterLabel_young failed (not_outlasted_of_mem_unreleased aged member)]
  rw [queuedExamples_split ordered, young, emitted, failed, if_neg Bool.false_ne_true, List.append_nil,
    List.append_assoc, exampleOf_toList failed]
  refine congrArg₂ _ rfl ?_
  rw [extended, queuedExamples, queuedExamples, List.filterMap_append]
  refine congrArg₂ _ rfl (List.filterMap_congr fun waiting member => ?_)
  obtain ⟨features, _, rfl⟩ := List.mem_map.mp member
  rfl

theorem pendingExamples_perm {pending : Dict String (History Real)} (serial : String) :
    (pendingExamples horizonDays later pending).Perm
      (queuedExamples horizonDays serial later ((pending.get? serial).getD []) ++
        pendingExamples horizonDays later (pending.erase serial)) := by
  cases found : pending.get? serial with
  | none =>
    have absent : serial ∉ pending.keys := Dict.get?_eq_none_iff.mp found
    rw [Dict.erase_of_not_mem absent]
    exact List.Perm.refl _
  | some history => exact (Dict.entries_perm_of_get? found).flatMap_right _

theorem pendingExamples_erase_cons :
    pendingExamples horizonDays (observation :: later) (pending.erase observation.serial) =
      pendingExamples horizonDays later (pending.erase observation.serial) := by
  rw [pendingExamples, pendingExamples]
  refine List.flatMap_congr fun entry member => ?_
  have other : observation.serial ≠ entry.1 := fun same =>
    of_decide_eq_true (Dict.mem_filter.mp member).2 same.symm
  rw [queuedExamples, queuedExamples]
  exact List.filterMap_congr fun waiting _ => by rw [laterLabel_cons_of_ne other]

/-! ### Rows -/

def tooManySamples : StorageFailure :=
  .training "dataset-too-large" "labelled sample limit exceeded"

def tooManyDevices : StorageFailure :=
  .training "dataset-too-large" "active device limit exceeded"

def tooManyRows : StorageFailure := .training "dataset-too-large" "CSV row limit exceeded"

theorem appendExample_cases {maximum : Nat} {examples : List (StorageExample Real)}
    (labelled : StorageExample Real) :
    (examples.length + 1 ≤ maximum ∧
        appendExample maximum examples labelled = .ok (examples ++ [labelled])) ∨
      (maximum < examples.length + 1 ∧ appendExample maximum examples labelled = .error tooManySamples) := by
  rw [appendExample]
  by_cases full : maximum ≤ examples.length
  · exact .inr ⟨Nat.lt_succ_of_le full, if_pos full⟩
  · exact .inl ⟨Nat.lt_of_not_le full, if_neg full⟩

/-- Every negative is kept. -/
def KeepsAll (builder : BackblazeDatasetBuilder) : Prop := builder.negativeKeepModulus = 1

theorem keepNegative_eq_true (all : KeepsAll builder) (serial : String) (observedOn : CalendarDate) :
    keepNegative builder serial observedOn = true := by
  rw [keepNegative, all, Nat.mod_one]
  rfl

/-- The queue is released, unless there are too many examples. -/
theorem releaseNegatives_cases (all : KeepsAll builder) (serial : String) (current : CalendarDate)
    (history : History Real) (bounded : examples.length ≤ builder.maxSamples) :
    let old := released builder.horizonDays current history
    (examples.length + old.length ≤ builder.maxSamples ∧
        releaseNegatives builder serial current history examples =
          .ok (unreleased builder.horizonDays current history, examples ++ old.map negative)) ∨
      (builder.maxSamples < examples.length + old.length ∧
        releaseNegatives builder serial current history examples = .error tooManySamples) := by
  induction history generalizing examples with
  | nil => exact .inl ⟨bounded, by simp [releaseNegatives, unreleased, released]⟩
  | cons first history inductionHypothesis =>
    rw [releaseNegatives, released, unreleased, List.takeWhile_cons, List.dropWhile_cons]
    by_cases old : Outlasted builder.horizonDays current first.1
    · rw [if_pos old, keepNegative_eq_true all, if_pos rfl]
      simp only [decide_eq_true old, if_true, List.length_cons]
      rcases @appendExample_cases _ builder.maxSamples examples (negative first) with
        ⟨fits, appends⟩ | ⟨full, appends⟩
      · rw [negative] at appends
        rw [appends, ok_bind]
        rcases @inductionHypothesis (examples ++ [negative first]) (by simpa using fits) with
          ⟨room, releases⟩ | ⟨crowded, releases⟩
        · refine .inl ⟨?_, ?_⟩
          · rw [List.length_append, List.length_singleton] at room
            rw [released] at room
            omega
          · rw [negative] at releases
            rw [releases, List.map_cons, List.append_assoc, List.singleton_append]
            rfl
        · refine .inr ⟨?_, ?_⟩
          · rw [List.length_append, List.length_singleton] at crowded
            rw [released] at crowded
            omega
          · rw [negative] at releases
            exact releases
      · rw [negative] at appends
        rw [appends]
        exact .inr ⟨by omega, rfl⟩
    · rw [if_neg old]
      simp only [decide_eq_false old]
      exact .inl ⟨bounded, by simp⟩

theorem appendPositives_cases (history : History Real)
    (bounded : examples.length ≤ builder.maxSamples) :
    (examples.length + history.length ≤ builder.maxSamples ∧
        appendPositives builder history examples = .ok (examples ++ history.map positive)) ∨
      (builder.maxSamples < examples.length + history.length ∧
        appendPositives builder history examples = .error tooManySamples) := by
  induction history generalizing examples with
  | nil => exact .inl ⟨bounded, by simp [appendPositives]⟩
  | cons first history inductionHypothesis =>
    rw [appendPositives, List.length_cons]
    rcases @appendExample_cases _ builder.maxSamples examples (positive first) with
      ⟨fits, appends⟩ | ⟨full, appends⟩
    · rw [positive] at appends
      rw [appends, ok_bind]
      rcases @inductionHypothesis (examples ++ [positive first]) (by simpa using fits) with
        ⟨room, labels⟩ | ⟨crowded, labels⟩
      · rw [List.length_append, List.length_singleton] at room
        rw [positive] at labels
        refine .inl ⟨by omega, ?_⟩
        rw [labels, List.map_cons, List.append_assoc, List.singleton_append]
        rfl
      · rw [List.length_append, List.length_singleton] at crowded
        rw [positive] at labels
        exact .inr ⟨by omega, labels⟩
    · rw [positive] at appends
      rw [appends]
      exact .inr ⟨by omega, rfl⟩

/-- The queues behind a row. -/
def pendingAfter (horizonDays : Nat) (observation : Observation Real)
    (pending : Dict String (History Real)) : Dict String (History Real) :=
  if observation.failed then pending.erase observation.serial
  else pending.set observation.serial
    (extended horizonDays observation ((pending.get? observation.serial).getD []))

/-- What a row is labelled in the queue of its drive. -/
def emittedBy (horizonDays : Nat) (observation : Observation Real)
    (pending : Dict String (History Real)) : List (StorageExample Real) :=
  emitted horizonDays observation ((pending.get? observation.serial).getD [])

theorem length_emitted (history : History Real) : (emitted horizonDays observation history).length =
    (released horizonDays observation.observedOn history).length +
      if observation.failed then (unreleased horizonDays observation.observedOn history).length
      else 0 := by
  rw [emitted, List.length_append, List.length_map]
  split_ifs
  · rw [List.length_map]
  · rfl

/-- A row labels what it finds in the queue of its drive, unless there are too many drives or
examples. -/
theorem observe_cases (all : KeepsAll builder) {progress : Progress Real}
    (bounded : progress.examples.length ≤ builder.maxSamples) (observation : Observation Real) :
    (observe builder progress observation = .error tooManyDevices ∧
        observation.serial ∉ progress.pending.keys ∧ builder.maxDevices ≤ progress.pending.size) ∨
      (observe builder progress observation = .error tooManySamples ∧ builder.maxSamples <
        progress.examples.length +
          (emittedBy builder.horizonDays observation progress.pending).length) ∨
      (observe builder progress observation = .ok
          ⟨pendingAfter builder.horizonDays observation progress.pending,
            progress.examples ++ emittedBy builder.horizonDays observation progress.pending⟩ ∧
        progress.examples.length +
          (emittedBy builder.horizonDays observation progress.pending).length ≤ builder.maxSamples) := by
  obtain ⟨pending, examples⟩ := progress
  by_cases crowded : observation.serial ∉ pending.keys ∧ builder.maxDevices ≤ pending.size
  · refine .inl ⟨?_, crowded⟩
    rw [observe, historyOf, Dict.get?_eq_none_iff.mpr crowded.1]
    simp only [if_pos crowded.2]
    rfl
  have known : historyOf builder observation.serial pending =
      .ok ((pending.get? observation.serial).getD []) := by
    rw [historyOf]
    cases found : pending.get? observation.serial with
    | some history => rfl
    | none =>
      have absent := Dict.get?_eq_none_iff.mp found
      simp only [if_neg fun many => crowded ⟨absent, many⟩, Option.getD_none]
  refine .inr ?_
  rw [observe, known, ok_bind, emittedBy, length_emitted, emitted, pendingAfter]
  generalize (pending.get? observation.serial).getD [] = history
  rcases releaseNegatives_cases all observation.serial observation.observedOn history bounded with
    ⟨fits, releases⟩ | ⟨full, releases⟩
  · rw [releases, ok_bind]
    cases failed : observation.failed with
    | true =>
      have room : (examples ++ (released builder.horizonDays observation.observedOn history).map
          negative).length ≤ builder.maxSamples := by
        rwa [List.length_append, List.length_map]
      have labels := appendPositives_cases
        (unreleased builder.horizonDays observation.observedOn history) room
      rw [List.length_append, List.length_map] at labels
      simp only [if_true, ← List.append_assoc]
      rcases labels with ⟨fits, labels⟩ | ⟨full, labels⟩
      · refine .inr ⟨?_, by omega⟩
        rw [labels]
        rfl
      · refine .inl ⟨?_, by omega⟩
        rw [labels]
        rfl
    | false =>
      simp only [Bool.false_eq_true, if_false, List.append_nil, Nat.add_zero]
      refine .inr ⟨?_, fits⟩
      rw [extended]
      cases observation.features with
      | none =>
        simp only [Option.toList_none, List.map_nil, List.append_nil]
        rfl
      | some features => rfl
  · rw [releases]
    refine .inl ⟨rfl, full.trans_le ?_⟩
    omega

/-- Every queue is in order, and none of it is after a day. -/
def Waiting (current : Nat) (pending : Dict String (History Real)) : Prop :=
  ∀ serial history, pending.get? serial = some history → Aged current history

theorem Waiting.aged (waiting : Waiting current pending) (serial : String) :
    Aged current ((pending.get? serial).getD []) := by
  cases found : pending.get? serial with
  | none => exact ⟨List.Pairwise.nil, fun _ => nofun⟩
  | some history => exact waiting serial history found

theorem Aged.extended (aged : Aged current history)
    (after : current ≤ observation.observedOn.ordinal) :
    Aged observation.observedOn.ordinal (extended horizonDays observation history) := by
  have sublist : (unreleased horizonDays observation.observedOn history).Sublist history :=
    List.dropWhile_sublist _
  have before : ∀ waiting ∈ unreleased horizonDays observation.observedOn history,
      waiting.1.ordinal ≤ observation.observedOn.ordinal := fun waiting member =>
    (aged.2 waiting (sublist.subset member)).trans after
  have new : ∀ waiting ∈ observation.features.toList.map fun features =>
      (observation.observedOn, features), waiting.1 = observation.observedOn := by
    intro waiting member
    obtain ⟨features, _, rfl⟩ := List.mem_map.mp member
    rfl
  refine ⟨List.pairwise_append.mpr ⟨aged.1.sublist sublist, ?_, fun first old second fresh => ?_⟩,
    fun waiting member => ?_⟩
  · cases observation.features with
    | none => exact List.Pairwise.nil
    | some features => exact List.pairwise_singleton _ _
  · rw [new second fresh]
    exact before first old
  · rcases List.mem_append.mp member with old | fresh
    · exact before waiting old
    · rw [new waiting fresh]

theorem Waiting.after (waiting : Waiting current pending)
    (after : current ≤ observation.observedOn.ordinal) :
    Waiting observation.observedOn.ordinal (pendingAfter horizonDays observation pending) := by
  intro serial history found
  have stays (found : pending.get? serial = some history) :
      Aged observation.observedOn.ordinal history :=
    have aged := waiting serial history found
    ⟨aged.1, fun waiting member => (aged.2 waiting member).trans after⟩
  rw [pendingAfter] at found
  split_ifs at found
  · rw [Dict.get?_erase] at found
    split_ifs at found
    exact stays found
  · rw [Dict.get?_set] at found
    split_ifs at found with same
    · cases found
      exact (waiting.aged observation.serial).extended after
    · exact stays found

theorem perm_exchange {Value : Type} {first second third fourth fifth sixth : List Value}
    (same : first ++ second = third ++ fourth) :
    ((first ++ fifth) ++ (second ++ sixth)).Perm (third ++ ((fourth ++ fifth) ++ sixth)) := by
  have moved := (List.perm_append_comm_assoc fifth second sixth).append_left first
  have whole : first ++ (second ++ (fifth ++ sixth)) = third ++ ((fourth ++ fifth) ++ sixth) := by
    rw [← List.append_assoc, same]
    simp only [List.append_assoc]
  rwa [whole, ← List.append_assoc] at moved

/-- What is called for from a row on is what the row labels, and what is called for behind it. -/
theorem calledFor_step {current : Nat} {pending : Dict String (History Real)}
    (ordered : InOrder (observation :: later)) (waiting : Waiting current pending) :
    (pendingExamples horizonDays (observation :: later) pending ++
        calledFor horizonDays (observation :: later)).Perm
      (emittedBy horizonDays observation pending ++
        (pendingExamples horizonDays later (pendingAfter horizonDays observation pending) ++
          calledFor horizonDays later)) := by
  have aged := waiting.aged observation.serial
  have queues := @pendingExamples_perm _ horizonDays (observation :: later) pending observation.serial
  rw [pendingExamples_erase_cons] at queues
  rw [calledFor, emittedBy, pendingAfter]
  generalize (pending.get? observation.serial).getD [] = history at aged queues
  cases failed : observation.failed with
  | true =>
    rw [queuedExamples_failed ordered aged failed] at queues
    simp only [if_true, exampleOf, failed, Option.toList_none, List.nil_append, ← List.append_assoc]
    exact queues.append_right _
  | false =>
    have same := @queuedExamples_observed _ horizonDays observation later ordered history _ aged failed
    have grows : (pendingExamples horizonDays later (pending.set observation.serial
        (extended horizonDays observation history))).Perm
          (queuedExamples horizonDays observation.serial later (extended horizonDays observation history) ++
            pendingExamples horizonDays later (pending.erase observation.serial)) :=
      (Dict.entries_set_perm pending observation.serial _).flatMap_right _
    simp only [Bool.false_eq_true, if_false]
    refine ((queues.append_right _).trans ?_).trans ((grows.symm.append_right _).append_left _)
    generalize pendingExamples horizonDays later (pending.erase observation.serial) = others
    exact perm_exchange same

/-- The number of drives that wait or are to come. -/
def devices (pending : Dict String (History Real)) (observations : List (Observation Real)) : Finset String :=
  pending.keys.toFinset ∪ (observations.map Observation.serial).toFinset

theorem devices_after (pending : Dict String (History Real)) :
    devices (pendingAfter horizonDays observation pending) later ⊆
      devices pending (observation :: later) := by
  intro serial member
  rw [devices, Finset.mem_union, List.mem_toFinset, List.mem_toFinset] at member ⊢
  rw [List.map_cons, List.mem_cons]
  rcases member with waits | comes
  · rw [pendingAfter] at waits
    split_ifs at waits
    · exact .inl (Dict.mem_keys_erase.mp waits).2
    · exact (Dict.mem_keys_set.mp waits).elim (fun same => .inr (.inl same)) .inl
  · exact .inr (.inr comes)

/-- A row of a drive that does not wait is of one more drive than wait. -/
theorem size_lt_devices (absent : observation.serial ∉ pending.keys) :
    pending.size < (devices pending (observation :: later)).card := by
  have count : pending.keys.toFinset.card = pending.size := by
    rw [List.toFinset_card_of_nodup pending.nodup_keys, Dict.length_keys]
  have member : observation.serial ∈ devices pending (observation :: later) := by
    rw [devices, Finset.mem_union, List.mem_toFinset, List.mem_toFinset]
    exact .inr List.mem_cons_self
  rw [← count]
  refine Finset.card_lt_card ((Finset.ssubset_iff_of_subset Finset.subset_union_left).mpr
    ⟨observation.serial, member, ?_⟩)
  rwa [List.mem_toFinset]

/-- Observations are labelled as they call for it, unless there are too many drives or examples. -/
theorem foldlM_observe_cases (all : KeepsAll builder) {observations : List (Observation Real)}
    {progress : Progress Real} {current : Nat}
    (bounded : progress.examples.length ≤ builder.maxSamples) (ordered : InOrder observations)
    (waiting : Waiting current progress.pending)
    (after : ∀ observation ∈ observations, current ≤ observation.observedOn.ordinal) :
    (∃ final, observations.foldlM (observe builder) progress = .ok final ∧
        final.examples.Perm (progress.examples ++
          (pendingExamples builder.horizonDays observations progress.pending ++
            calledFor builder.horizonDays observations))) ∨
      (observations.foldlM (observe builder) progress = .error tooManyDevices ∧
        builder.maxDevices < (devices progress.pending observations).card) ∨
      (observations.foldlM (observe builder) progress = .error tooManySamples ∧
        builder.maxSamples < (progress.examples ++
          (pendingExamples builder.horizonDays observations progress.pending ++
            calledFor builder.horizonDays observations)).length) := by
  induction observations generalizing progress current with
  | nil =>
    refine .inl ⟨progress, rfl, ?_⟩
    have none : pendingExamples builder.horizonDays [] progress.pending = [] := by
      refine List.flatMap_eq_nil_iff.mpr fun entry _ => List.filterMap_eq_nil_iff.mpr fun waiting _ => ?_
      rfl
    rw [none, calledFor, List.append_nil, List.append_nil]
  | cons observation later inductionHypothesis =>
    obtain ⟨first, others⟩ := List.forall_mem_cons.mp after
    obtain ⟨below, rest⟩ := List.pairwise_cons.mp ordered
    have steps := @calledFor_step _ builder.horizonDays observation later current progress.pending ordered
      waiting
    have total := (steps.append_left progress.examples)
    rw [← List.append_assoc progress.examples (emittedBy _ _ _)] at total
    rw [List.foldlM_cons]
    rcases observe_cases all bounded observation with
      ⟨observes, absent, many⟩ | ⟨observes, many⟩ | ⟨observes, fits⟩
    · rw [observes]
      exact .inr (.inl ⟨rfl, Nat.lt_of_le_of_lt many (size_lt_devices absent)⟩)
    · rw [observes]
      refine .inr (.inr ⟨rfl, many.trans_le ?_⟩)
      rw [total.length_eq, List.length_append, List.length_append]
      omega
    · rw [observes, ok_bind]
      have room : (progress.examples ++ emittedBy builder.horizonDays observation
          progress.pending).length ≤ builder.maxSamples := by
        rwa [List.length_append]
      rcases @inductionHypothesis ⟨_, _⟩ _ room rest (waiting.after first) below with
        ⟨final, ends, labels⟩ | ⟨ends, many⟩ | ⟨ends, many⟩
      · exact .inl ⟨final, ends, labels.trans total.symm⟩
      · exact .inr (.inl ⟨ends, many.trans_le (Finset.card_le_card (devices_after _))⟩)
      · exact .inr (.inr ⟨ends, total.length_eq ▸ many⟩)

/-! ### Files -/

/-- What the rows of a file say, in which some drives were seen. -/
def readRowsOf (reading : NumberReading Real) (file : DailyFile) :
    List String → List CsvRow → Except StorageFailure (List (Observation Real))
  | _, [] => .ok []
  | seenSerials, row :: rows => do
    let observation ← readRow reading file seenSerials row
    let others ← readRowsOf reading file (observation.serial :: seenSerials) rows
    return observation :: others

/-- What valid files say. -/
def observationsOf (reading : NumberReading Real) :
    List DailyFile → Except StorageFailure (List (Observation Real))
  | [] => .ok []
  | file :: files => do
    let _ ← validatedHeader file.fieldnames
    let daily ← readRowsOf reading file [] file.rows
    let others ← observationsOf reading files
    return daily ++ others

/-- A result that is that of a fold over observations, unless a bound is exceeded. -/
def Follows {Value : Type} (bound : Prop) (result : Except StorageFailure Value) (view : Value → Progress Real)
    (folded : Except StorageFailure (Progress Real)) : Prop :=
  (result = .error tooManyRows ∧ bound) ∨ result.map view = folded

theorem consumeRows_follows {file : DailyFile} {rows : List CsvRow} {before : Nat}
    {daily : DailyProgress Real} {observations : List (Observation Real)}
    (reads : readRowsOf reading file daily.seenSerials rows = .ok observations) :
    Follows (builder.maxRows < before + rows.length) (consumeRows builder reading file before rows daily)
        DailyProgress.progress (observations.foldlM (observe builder) daily.progress) ∧
      ∀ consumed, consumeRows builder reading file before rows daily = .ok consumed →
        consumed.seenSerials.length = daily.seenSerials.length + rows.length := by
  induction rows generalizing before daily observations with
  | nil =>
    cases reads
    refine ⟨.inr rfl, fun consumed returns => ?_⟩
    cases returns
    rfl
  | cons row rows inductionHypothesis =>
    obtain ⟨observation, first, rest⟩ := bind_eq_ok.mp reads
    obtain ⟨others, more, last⟩ := bind_eq_ok.mp rest
    cases last
    rw [consumeRows]
    split_ifs with full
    · exact ⟨.inl ⟨rfl, by rw [List.length_cons]; omega⟩, fun _ => nofun⟩
    rw [consumeRow, first, ok_bind, List.foldlM_cons]
    cases observes : observe builder daily.progress observation with
    | error failure => exact ⟨.inr rfl, fun _ => nofun⟩
    | ok progress =>
      rw [ok_bind, ok_bind]
      obtain ⟨follows, counts⟩ := @inductionHypothesis (before + 1)
        ⟨observation.serial :: daily.seenSerials,
          daily.missing + (if countsMissing observation then 1 else 0), progress⟩ others more
      refine ⟨?_, fun consumed returns => ?_⟩
      · rw [List.length_cons]
        exact follows.imp_left fun ⟨raises, many⟩ => ⟨raises, by omega⟩
      · rw [counts consumed returns, List.length_cons, List.length_cons]
        omega

theorem length_readRowsOf {rows : List CsvRow}
    (reads : readRowsOf reading file seenSerials rows = .ok observations) :
    observations.length = rows.length := by
  induction rows generalizing seenSerials observations with
  | nil =>
    cases reads
    rfl
  | cons row rows inductionHypothesis =>
    obtain ⟨observation, _, rest⟩ := bind_eq_ok.mp reads
    obtain ⟨others, more, last⟩ := bind_eq_ok.mp rest
    cases last
    rw [List.length_cons, List.length_cons, inductionHypothesis more]

theorem readFiles_follows {files : List DailyFile} {totals : Totals Real}
    {observations : List (Observation Real)} (reads : observationsOf reading files = .ok observations) :
    Follows (builder.maxRows < totals.rowsRead + observations.length)
      (readFiles builder reading files totals) Totals.progress
      (observations.foldlM (observe builder) totals.progress) := by
  induction files generalizing totals observations with
  | nil =>
    cases reads
    exact .inr rfl
  | cons file files inductionHypothesis =>
    obtain ⟨header, valid, rest⟩ := bind_eq_ok.mp reads
    obtain ⟨daily, first, rest⟩ := bind_eq_ok.mp rest
    obtain ⟨others, more, last⟩ := bind_eq_ok.mp rest
    cases last
    rw [readFiles, readDaily, valid, ok_bind, List.foldlM_append, List.length_append]
    obtain ⟨follows, counts⟩ := @consumeRows_follows _ builder reading file file.rows totals.rowsRead
      ⟨[], 0, totals.progress⟩ daily first
    have rows := length_readRowsOf first
    rcases follows with ⟨raises, many⟩ | same
    · rw [raises]
      exact .inl ⟨rfl, by omega⟩
    · rw [← same]
      cases consumes : consumeRows builder reading file totals.rowsRead file.rows
          ⟨[], 0, totals.progress⟩ with
      | error failure => exact .inr rfl
      | ok consumed =>
        have count := counts consumed consumes
        refine (@inductionHypothesis ⟨_, _, consumed.progress⟩ others more).imp_left
          fun ⟨raises, many⟩ => ⟨raises, ?_⟩
        simp only [List.length_nil, Nat.zero_add] at count
        simp only [count] at many
        omega

/-! ### Drives and days -/

/-- The label of a drive on a day: positive if it failed at most the horizon later, else negative if it
was seen more than the horizon later. -/
def dayLabel (horizonDays : Nat) (observations : List (Observation Real))
    (observation : Observation Real) : Option Nat :=
  let day := observation.observedOn.ordinal
  if ∃ other ∈ observations, other.serial = observation.serial ∧ other.failed = true ∧
      day < other.observedOn.ordinal ∧ other.observedOn.ordinal ≤ day + horizonDays then some 1
  else if ∃ other ∈ observations, other.serial = observation.serial ∧
      day + horizonDays < other.observedOn.ordinal then some 0
  else none

/-- One example for each drive and day with features that has a label and is no failure. -/
def labelled (horizonDays : Nat) (observations : List (Observation Real)) :
    List (StorageExample Real) :=
  observations.filterMap (exampleOf (dayLabel horizonDays observations))

/-- Days come in order, and no drive twice on one. -/
def Separate (first second : Observation Real) : Prop :=
  first.observedOn.ordinal < second.observedOn.ordinal ∨
    first.observedOn.ordinal = second.observedOn.ordinal ∧ first.serial ≠ second.serial

/-- Among separate observations, those of the same drive on a later day are those behind. -/
theorem laterLabel_eq_dayLabel {before : List (Observation Real)}
    (separate : (before ++ observation :: later).Pairwise Separate) :
    laterLabel horizonDays observation.serial observation.observedOn later =
      dayLabel horizonDays (before ++ observation :: later) observation := by
  obtain ⟨_, behind, across⟩ := List.pairwise_append.mp separate
  obtain ⟨after, _⟩ := List.pairwise_cons.mp behind
  have beyond {other : Observation Real} (member : other ∈ later)
      (same : other.serial = observation.serial) :
      observation.observedOn.ordinal < other.observedOn.ordinal := by
    rcases after other member with less | ⟨_, different⟩
    · exact less
    · exact absurd same.symm different
  have behindOf {other : Observation Real} (member : other ∈ before ++ observation :: later)
      (less : observation.observedOn.ordinal < other.observedOn.ordinal) : other ∈ later := by
    rcases List.mem_append.mp member with earlier | behind
    · rcases across other earlier observation List.mem_cons_self with more | ⟨equal, _⟩
      · exact absurd more less.asymm
      · exact absurd equal less.ne'
    · rcases List.mem_cons.mp behind with rfl | member
      · exact absurd less (lt_irrefl _)
      · exact member
  have within {other : Observation Real} (member : other ∈ later) :
      other ∈ before ++ observation :: later :=
    List.mem_append_right _ (List.mem_cons_of_mem _ member)
  rw [laterLabel, dayLabel]
  refine if_congr ⟨?_, ?_⟩ rfl (if_congr ⟨?_, ?_⟩ rfl rfl)
  · rintro ⟨other, member, same, failed, young⟩
    exact ⟨other, within member, same, failed, beyond member same, not_lt.mp young⟩
  · rintro ⟨other, member, same, failed, less, most⟩
    exact ⟨other, behindOf member less, same, failed, not_lt.mpr most⟩
  · rintro ⟨other, member, same, old⟩
    exact ⟨other, within member, same, old⟩
  · rintro ⟨other, member, same, old⟩
    exact ⟨other, behindOf member (Nat.lt_of_le_of_lt (Nat.le_add_right _ _) old), same, old⟩

theorem calledFor_eq_labelled {before : List (Observation Real)}
    (separate : (before ++ later).Pairwise Separate) :
    calledFor horizonDays later =
      later.filterMap (exampleOf (dayLabel horizonDays (before ++ later))) := by
  induction later generalizing before with
  | nil => rfl
  | cons observation later inductionHypothesis =>
    have label := @laterLabel_eq_dayLabel _ horizonDays observation later before separate
    have rest := @inductionHypothesis (before ++ [observation]) (by
      rwa [List.append_assoc, List.singleton_append])
    rw [List.append_assoc, List.singleton_append] at rest
    have same : exampleOf (fun observation =>
        laterLabel horizonDays observation.serial observation.observedOn later) observation =
          exampleOf (dayLabel horizonDays (before ++ observation :: later)) observation := by
      rw [exampleOf, exampleOf, label]
    rw [calledFor, rest, same, List.filterMap_cons]
    cases exampleOf (dayLabel horizonDays (before ++ observation :: later)) observation with
    | none => rfl
    | some labelled => rfl

/-! ### Valid files -/

theorem readRow_cases {row : CsvRow}
    (reads : readRow reading file seenSerials row = .ok observation) :
    observation.observedOn = file.date ∧ observation.serial ∉ seenSerials := by
  obtain ⟨serial, new, rest⟩ := bind_eq_ok.mp reads
  obtain ⟨_, _, rest⟩ := bind_eq_ok.mp rest
  obtain ⟨features, _, rest⟩ := bind_eq_ok.mp rest
  obtain ⟨failed, _, last⟩ := bind_eq_ok.mp rest
  cases last
  refine ⟨rfl, ?_⟩
  obtain ⟨other, _, unseen⟩ := bind_eq_ok.mp new
  split_ifs at unseen with seen
  cases unseen
  exact seen

/-- The rows of a file are of its day, and of different drives. -/
theorem readRowsOf_cases {rows : List CsvRow}
    (reads : readRowsOf reading file seenSerials rows = .ok observations) :
    (∀ observation ∈ observations, observation.observedOn = file.date ∧
      observation.serial ∉ seenSerials) ∧ observations.Pairwise Separate := by
  induction rows generalizing seenSerials observations with
  | nil =>
    cases reads
    exact ⟨fun _ => nofun, List.Pairwise.nil⟩
  | cons row rows inductionHypothesis =>
    obtain ⟨observation, first, rest⟩ := bind_eq_ok.mp reads
    obtain ⟨others, more, last⟩ := bind_eq_ok.mp rest
    cases last
    obtain ⟨day, unseen⟩ := readRow_cases first
    obtain ⟨days, separate⟩ := inductionHypothesis more
    refine ⟨List.forall_mem_cons.mpr ⟨⟨day, unseen⟩, fun other member => ?_⟩,
      List.pairwise_cons.mpr ⟨fun other member => ?_, separate⟩⟩
    · obtain ⟨same, new⟩ := days other member
      exact ⟨same, fun seen => new (List.mem_cons_of_mem _ seen)⟩
    · obtain ⟨same, new⟩ := days other member
      exact .inr ⟨by rw [day, same], fun equal => new (equal ▸ List.mem_cons_self)⟩

/-- Files in the order of their dates. -/
def DateOrder (files : List DailyFile) : Prop :=
  files.Pairwise fun first second => first.date.ordinal < second.date.ordinal

theorem observationsOf_cases (reads : observationsOf reading files = .ok observations)
    (ordered : DateOrder files) :
    (∀ observation ∈ observations, ∃ file ∈ files, observation.observedOn = file.date) ∧
      observations.Pairwise Separate := by
  induction files generalizing observations with
  | nil =>
    cases reads
    exact ⟨fun _ => nofun, List.Pairwise.nil⟩
  | cons file files inductionHypothesis =>
    obtain ⟨header, _, rest⟩ := bind_eq_ok.mp reads
    obtain ⟨daily, first, rest⟩ := bind_eq_ok.mp rest
    obtain ⟨others, more, last⟩ := bind_eq_ok.mp rest
    cases last
    obtain ⟨after, ordered⟩ := List.pairwise_cons.mp ordered
    obtain ⟨days, separate⟩ := readRowsOf_cases first
    obtain ⟨later, others_separate⟩ := inductionHypothesis more ordered
    refine ⟨fun observation member => ?_, List.pairwise_append.mpr
      ⟨separate, others_separate, fun observation member other behind => ?_⟩⟩
    · rcases List.mem_append.mp member with member | member
      · exact ⟨file, List.mem_cons_self, (days observation member).1⟩
      · obtain ⟨among, inside, day⟩ := later observation member
        exact ⟨among, List.mem_cons_of_mem _ inside, day⟩
    · obtain ⟨among, inside, day⟩ := later other behind
      rw [Separate, (days observation member).1, day]
      exact .inl (after among inside)

/-! ### Labels are true -/

/-- Some bound of the builder is exceeded. -/
def Exceeds (builder : BackblazeDatasetBuilder) (files : List DailyFile)
    (observations : List (Observation Real)) : Prop :=
  maxCsvFiles < files.length ∨ builder.maxRows < observations.length ∨
    builder.maxDevices < (observations.map Observation.serial).toFinset.card ∨
    builder.maxSamples < (labelled builder.horizonDays observations).length

/-- Valid files in the order of their dates are built into one example for each drive and day that has a
label, unless a bound is exceeded. -/
theorem build_cases (all : KeepsAll builder) (ordered : DateOrder files)
    (reads : observationsOf reading files = .ok observations) :
    (∃ dataset, build builder reading files = .ok dataset ∧
        dataset.examples.Perm (labelled builder.horizonDays observations)) ∨
      (labelled builder.horizonDays observations = [] ∧
        ∃ code detail, build builder reading files = .error (.training code detail)) ∨
      (Exceeds builder files observations ∧
        ∃ detail, build builder reading files = .error (.training "dataset-too-large" detail)) := by
  obtain ⟨_, separate⟩ := observationsOf_cases reads ordered
  have days : InOrder observations := separate.imp fun apart =>
    apart.elim Nat.le_of_lt fun same => same.1.le
  have called : calledFor builder.horizonDays observations = labelled builder.horizonDays observations :=
    @calledFor_eq_labelled _ builder.horizonDays observations [] separate
  have folds := @foldlM_observe_cases _ builder all observations ⟨Dict.empty, []⟩ 0 (Nat.zero_le _) days
    (fun _ _ found => nomatch found) (fun _ _ => Nat.zero_le _)
  rw [called, devices, Dict.keys_empty, List.toFinset_nil, Finset.empty_union] at folds
  change (∃ final : Progress Real, _ = Except.ok final ∧
    final.examples.Perm (labelled builder.horizonDays observations)) ∨ (_ ∧ _) ∨
      (_ ∧ builder.maxSamples < (labelled builder.horizonDays observations).length) at folds
  have follows := @readFiles_follows _ builder reading files ⟨0, 0, ⟨Dict.empty, []⟩⟩ observations reads
  rw [Nat.zero_add] at follows
  cases files with
  | nil =>
    cases reads
    exact .inr (.inl ⟨rfl, _, _, rfl⟩)
  | cons first others =>
    rw [build, csvFiles, if_neg (List.cons_ne_nil first others)]
    split_ifs with many
    · exact .inr (.inr ⟨.inl many, _, rfl⟩)
    rw [ok_bind]
    rcases follows with ⟨raises, rows⟩ | same
    · simp only [raises]
      exact .inr (.inr ⟨.inr (.inl rows), _, rfl⟩)
    rw [← same] at folds
    cases returns : readFiles builder reading (first :: others) ⟨0, 0, ⟨Dict.empty, []⟩⟩ with
    | error failure =>
      rw [returns] at folds
      simp only [returns]
      rcases folds with ⟨final, ends, _⟩ | ⟨ends, bound⟩ | ⟨ends, bound⟩
      · cases ends
      · cases ends
        exact .inr (.inr ⟨.inr (.inr (.inl bound)), _, rfl⟩)
      · cases ends
        exact .inr (.inr ⟨.inr (.inr (.inr bound)), _, rfl⟩)
    | ok totals =>
      rw [returns] at folds
      simp only [returns, ok_bind]
      rcases folds with ⟨final, ends, labels⟩ | ⟨ends, _⟩ | ⟨ends, _⟩
      · cases ends
        split_ifs with none
        · rw [List.isEmpty_iff] at none
          rw [none] at labels
          exact .inr (.inl ⟨labels.nil_eq.symm, _, _, rfl⟩)
        · exact .inl ⟨_, rfl, labels⟩
      · cases ends
      · cases ends

/-! ### Splits -/

/-- A split whose training windows end before the first day that is held out, and whose parts are
disjoint and not empty. -/
structure Purged (horizonDays : Nat) (examples : List (StorageExample Real)) (split : TimeSplit Real) :
    Prop where
  train : split.train.Sublist examples
  holdout : split.holdout.Sublist examples
  window : ∀ trained ∈ split.train, ∀ held ∈ split.holdout,
    trained.observedOn.ordinal + horizonDays < held.observedOn.ordinal
  disjoint : split.train.Disjoint split.holdout
  trainSome : split.train ≠ []
  holdoutSome : split.holdout ≠ []

theorem timeSplit_purged {split : TimeSplit Real}
    (splits : timeSplit examples horizonDays = .ok split) : Purged horizonDays examples split := by
  rw [timeSplit] at splits
  dsimp only at splits
  generalize (labelledDates examples).getD (splitIndex (labelledDates examples)) 0 = splitDate at splits
  split_ifs at splits with few early empty
  cases splits
  rw [Bool.or_eq_true, not_or] at empty
  have window : ∀ trained ∈ examples.filter (fun labelled =>
      decide (labelled.observedOn.ordinal < splitDate - horizonDays)),
      ∀ held ∈ examples.filter (fun labelled => decide (splitDate ≤ labelled.observedOn.ordinal)),
        trained.observedOn.ordinal + horizonDays < held.observedOn.ordinal := by
    intro trained trains held holds
    have before := of_decide_eq_true (List.mem_filter.mp trains).2
    have after := of_decide_eq_true (List.mem_filter.mp holds).2
    omega
  refine ⟨List.filter_sublist, List.filter_sublist, window, fun labelled trains holds => ?_, ?_, ?_⟩
  · have less := window labelled trains labelled holds
    omega
  · exact fun none => empty.1 (List.isEmpty_iff.mpr none)
  · exact fun none => empty.2 (List.isEmpty_iff.mpr none)

/-- The labels of valid files are true, and no split leaks. Building gives the labelled examples, each as
often as it is due, or is refused because there are none or too many. What a split by time trains on is
decided before the time it tests on begins. -/
theorem storage_labels_true (builder : BackblazeDatasetBuilder) (all : builder.negativeKeepModulus = 1)
    (reading : NumberReading Real) (files : List DailyFile) (observations : List (Observation Real))
    (ordered : DateOrder files) (reads : observationsOf reading files = .ok observations) :
    ((∃ dataset, build builder reading files = .ok dataset ∧
        dataset.examples.Perm (labelled builder.horizonDays observations)) ∨
      (labelled builder.horizonDays observations = [] ∧
        ∃ code detail, build builder reading files = .error (.training code detail)) ∨
      (Exceeds builder files observations ∧
        ∃ detail, build builder reading files = .error (.training "dataset-too-large" detail))) ∧
    ∀ (examples : List (StorageExample Real)) (horizonDays : Nat) (split : TimeSplit Real),
      timeSplit examples horizonDays = .ok split → Purged horizonDays examples split :=
  ⟨build_cases all ordered reads, fun _ _ _ splits => timeSplit_purged splits⟩

/-- A drive with zeros in every column. -/
def zeroRow (date serial failure : String) : CsvRow :=
  ⟨[("date", some date), ("serial_number", some serial), ("failure", some failure),
    ("smart_5_raw", some "0"), ("smart_9_raw", some "0"), ("smart_187_raw", some "0"),
    ("smart_188_raw", some "0"), ("smart_197_raw", some "0"), ("smart_198_raw", some "0")], by simp⟩

def zeroReading : NumberReading ℚ := ⟨fun text => if text = "0" then some (some 0) else none, id⟩

/-- Three days of two drives, one of which fails and comes back. -/
def threeDays : List DailyFile :=
  [⟨⟨2024, 1, 1, by decide, by decide, by decide⟩, some requiredColumns,
      [zeroRow "2024-01-01" "A" "0", zeroRow "2024-01-01" "B" "0"]⟩,
    ⟨⟨2024, 1, 3, by decide, by decide, by decide⟩, some requiredColumns,
      [zeroRow "2024-01-03" "A" "1"]⟩,
    ⟨⟨2024, 1, 10, by decide, by decide, by decide⟩, some requiredColumns,
      [zeroRow "2024-01-10" "A" "0", zeroRow "2024-01-10" "B" "0"]⟩]

def weekBuilder : BackblazeDatasetBuilder :=
  ⟨7, 100, 100, 100, 1, fun _ => 0, by decide, by decide, by decide⟩

theorem storage_labels_true_threeDays :
    ∃ observations, observationsOf zeroReading threeDays = .ok observations ∧
    (labelled weekBuilder.horizonDays observations).map (·.failedWithinHorizon) = [1, 0] ∧
    (((∃ dataset, build weekBuilder zeroReading threeDays = .ok dataset ∧
        dataset.examples.Perm (labelled weekBuilder.horizonDays observations)) ∨
      (labelled weekBuilder.horizonDays observations = [] ∧
        ∃ code detail, build weekBuilder zeroReading threeDays = .error (.training code detail)) ∨
      (Exceeds weekBuilder threeDays observations ∧
        ∃ detail, build weekBuilder zeroReading threeDays =
          .error (.training "dataset-too-large" detail))) ∧
    ∀ (examples : List (StorageExample ℚ)) (horizonDays : Nat) (split : TimeSplit ℚ),
      timeSplit examples horizonDays = .ok split → Purged horizonDays examples split) := by
  refine ⟨_, rfl, by decide +kernel, ?_⟩
  exact storage_labels_true weekBuilder rfl zeroReading threeDays _ (by unfold DateOrder; decide) rfl

end Storage

end Omnitensor
