/-
This file models the area under the curve that a trainer scores a model with, and proves what it is.

The scored items are put in order, and the average rank of each group of tied scores is added up for the
positive items in it. Read over the rationals, the result is the share of the pairs of a positive and a
negative item in which the positive one scores higher, tied pairs counting one half.
-/

import Omnitensor.RankStatistics

namespace Omnitensor

namespace Tabular

open RankStatistics

/-- Why no metric is returned. -/
inductive FitFailure where
  /-- A `TrainingError`. -/
  | training (code detail : String)
  | zeroDivision
  deriving DecidableEq

/-- A score and a label. -/
abbrev Scored : Type := ℚ × ℤ

/-- Items in the order of tuples. -/
def sorted (scored : List Scored) : List Scored :=
  scored.insertionSort fun first second => toLex first ≤ toLex second

/-- The ranks of the positive items from an index on, each group of ties at its average rank. -/
def rankSum (index : Nat) : List Scored → ℚ
  | [] => 0
  | first :: rest =>
    let tied := first :: rest.takeWhile fun item => item.1 = first.1
    let finish := index + tied.length
    let averageRank : ℚ := ((index + 1) + finish) / 2
    averageRank * (tied.map Prod.snd).sum +
      rankSum finish (rest.dropWhile fun item => item.1 = first.1)
termination_by items => items.length
decreasing_by
  exact Nat.lt_succ_of_le (List.length_dropWhile_le _ rest)

/-- The tie-aware area under the curve, or a refusal of a missing class with the detail, if one is
given. -/
def rankedAuc (scored : List Scored) (emptyClassDetail : Option String) : Except FitFailure ℚ :=
  let ordered := sorted scored
  let positives := (ordered.map Prod.snd).sum
  let negatives := ordered.length - positives
  match emptyClassDetail.filter fun _ => decide (positives = 0 ∨ negatives = 0) with
  | some detail => .error (.training "class-imbalance" detail)
  | none =>
    if positives * negatives = 0 then .error .zeroDivision
    else .ok ((rankSum 0 ordered - positives * (positives + 1) / 2) / (positives * negatives))

/-- The metric of the build family. -/
def binaryAuc (scored : List Scored) : Except FitFailure ℚ :=
  rankedAuc scored (some "AUC requires both build outcomes")

/-- The metric of the storage family. -/
def storageAuc (scored : List Scored) : Except FitFailure ℚ := rankedAuc scored none

/-! ### Rank sums -/

/-- The scores of the items with a label. -/
def scoresOf (label : ℤ) (scored : List Scored) : List ℚ :=
  (scored.filter fun item => item.2 = label).map Prod.fst

/-- Ranks taken over a whole sample. -/
def labelledRanks (sample : List ℚ) (items : List Scored) : ℚ :=
  (items.map fun item => (item.2 : ℚ) * (winsOver item.1 sample + 1 / 2)).sum

theorem labelledRanks_append (sample : List ℚ) (first second : List Scored) :
    labelledRanks sample (first ++ second) = labelledRanks sample first + labelledRanks sample second := by
  rw [labelledRanks, List.map_append, List.sum_append]
  rfl

/-- Tied items share a rank. -/
theorem labelledRanks_tied {sample : List ℚ} {score : ℚ} {tied : List Scored}
    (equal : ∀ item ∈ tied, item.1 = score) :
    labelledRanks sample tied = (winsOver score sample + 1 / 2) * ((tied.map Prod.snd).sum : ℤ) := by
  induction tied with
  | nil => simp [labelledRanks]
  | cons item tied inductionHypothesis =>
    obtain ⟨rfl, others⟩ := List.forall_mem_cons.mp equal
    have rest := inductionHypothesis others
    rw [← List.singleton_append, labelledRanks_append, rest, List.map_append, List.sum_append]
    simp only [labelledRanks, List.map_cons, List.map_nil, List.sum_cons, List.sum_nil]
    push_cast
    ring

variable {items scored : List Scored}

/-- What is left of ordered items behind the ties of the least score is greater. -/
theorem lt_of_mem_dropWhile {score : ℚ} (least : ∀ item ∈ items, score ≤ item.1)
    (ordered : items.Pairwise fun first second => first.1 ≤ second.1) :
    ∀ item ∈ items.dropWhile fun item => item.1 = score, score < item.1 := by
  induction items with
  | nil => nofun
  | cons first items inductionHypothesis =>
    obtain ⟨atLeast, others⟩ := List.forall_mem_cons.mp least
    obtain ⟨below, ordered⟩ := List.pairwise_cons.mp ordered
    by_cases same : first.1 = score
    · rw [List.dropWhile_cons, if_pos (decide_eq_true same)]
      exact inductionHypothesis others ordered
    · rw [List.dropWhile_cons, if_neg (by simpa using same)]
      have less : score < first.1 := lt_of_le_of_ne atLeast (Ne.symm same)
      exact List.forall_mem_cons.mpr ⟨less, fun item member => less.trans_le (below item member)⟩

/-- The ranks from an index on are taken over the items before it and the others. -/
theorem rankSum_eq (before items : List Scored)
    (smaller : ∀ first ∈ before, ∀ item ∈ items, first.1 < item.1)
    (ordered : items.Pairwise fun first second => first.1 ≤ second.1) :
    rankSum before.length items = labelledRanks ((before ++ items).map Prod.fst) items := by
  induction size : items.length using Nat.strong_induction_on generalizing before items with
  | _ count inductionHypothesis =>
    cases items with
    | nil =>
      rw [rankSum]
      rfl
    | cons first rest =>
      obtain ⟨least, ordered⟩ := List.pairwise_cons.mp ordered
      rw [rankSum]
      generalize tiedIs : first :: rest.takeWhile (fun item => decide (item.1 = first.1)) = tied
      generalize afterIs : rest.dropWhile (fun item => decide (item.1 = first.1)) = after
      have parts : first :: rest = tied ++ after := by
        rw [← tiedIs, ← afterIs, List.cons_append, List.takeWhile_append_dropWhile]
      have equal : ∀ item ∈ tied, item.1 = first.1 := by
        rw [← tiedIs]
        refine List.forall_mem_cons.mpr ⟨rfl, fun item member => ?_⟩
        have tie := List.mem_takeWhile_imp member
        exact of_decide_eq_true tie
      have greater : ∀ item ∈ after, first.1 < item.1 :=
        afterIs ▸ lt_of_mem_dropWhile least ordered
      have shorter : after.length < count := by
        rw [← size, ← afterIs]
        exact Nat.lt_succ_of_le (List.length_dropWhile_le _ rest)
      have later : ∀ item ∈ after, item ∈ first :: rest := fun item member =>
        parts ▸ List.mem_append_right tied member
      have rest_eq := inductionHypothesis after.length shorter (before ++ tied) after
        (fun item member other inside => (List.mem_append.mp member).elim
          (fun member => smaller item member other (later other inside))
          fun member => (equal item member).trans_lt (greater other inside))
        (afterIs ▸ ordered.sublist (List.dropWhile_sublist _)) rfl
      rw [List.length_append] at rest_eq
      have rank := @average_rank ℚ _ first.1 (before.map Prod.fst) (tied.map Prod.fst)
        (after.map Prod.fst)
        (List.forall_mem_map.mpr fun item member => smaller item member first List.mem_cons_self)
        (List.forall_mem_map.mpr equal) (List.forall_mem_map.mpr greater)
      rw [List.length_map, List.length_map, ← List.map_append, ← List.map_append] at rank
      rw [parts, labelledRanks_append, labelledRanks_tied equal, ← rank, rest_eq, List.append_assoc]
      push_cast
      rfl

/-! ### Binary labels -/

/-- Every label is zero or one. -/
def Binary (scored : List Scored) : Prop := ∀ item ∈ scored, item.2 = 0 ∨ item.2 = 1

theorem scoresOf_cons (label : ℤ) (item : Scored) (scored : List Scored) :
    scoresOf label (item :: scored) =
      if item.2 = label then item.1 :: scoresOf label scored else scoresOf label scored := by
  rw [scoresOf, List.filter_cons]
  simp only [decide_eq_true_eq]
  split_ifs <;> rfl

theorem scoresOf_perm (label : ℤ) {first second : List Scored} (perm : first.Perm second) :
    (scoresOf label first).Perm (scoresOf label second) := (perm.filter _).map _

theorem labelledRanks_eq {sample : List ℚ} (binary : Binary items) :
    labelledRanks sample items =
      wins (scoresOf 1 items) sample + ((scoresOf 1 items).length : ℚ) / 2 := by
  induction items with
  | nil => simp [labelledRanks, scoresOf]
  | cons item items inductionHypothesis =>
    obtain ⟨label, others⟩ := List.forall_mem_cons.mp binary
    have rest := inductionHypothesis others
    rw [← List.singleton_append, labelledRanks_append, rest, List.singleton_append, scoresOf_cons]
    rcases label with zero | one
    · rw [if_neg (by omega)]
      simp [labelledRanks, zero]
    · rw [if_pos one, wins_cons_left, List.length_cons]
      simp only [labelledRanks, List.map_cons, List.map_nil, List.sum_cons, List.sum_nil, one]
      push_cast
      ring

theorem sum_labels (binary : Binary items) :
    (items.map Prod.snd).sum = ((scoresOf 1 items).length : ℤ) := by
  induction items with
  | nil => rfl
  | cons item items inductionHypothesis =>
    obtain ⟨label, others⟩ := List.forall_mem_cons.mp binary
    rw [List.map_cons, List.sum_cons, inductionHypothesis others, scoresOf_cons]
    rcases label with zero | one
    · rw [if_neg (by omega), zero, zero_add]
    · rw [if_pos one, one, List.length_cons]
      push_cast
      ring

/-- The scores are those of the positive and of the negative items. -/
theorem perm_scores (binary : Binary items) :
    (items.map Prod.fst).Perm (scoresOf 1 items ++ scoresOf 0 items) := by
  induction items with
  | nil => exact List.Perm.nil
  | cons item items inductionHypothesis =>
    obtain ⟨label, others⟩ := List.forall_mem_cons.mp binary
    have rest := inductionHypothesis others
    rw [List.map_cons, scoresOf_cons, scoresOf_cons]
    rcases label with zero | one
    · rw [if_neg (by omega), if_pos zero]
      exact (rest.cons item.1).trans List.perm_middle.symm
    · rw [if_pos one, if_neg (by omega)]
      exact rest.cons item.1

theorem length_eq (binary : Binary items) :
    items.length = (scoresOf 1 items).length + (scoresOf 0 items).length := by
  rw [← List.length_append, ← (perm_scores binary).length_eq, List.length_map]

theorem scoresOf_pos {label : ℤ} (some : ∃ item ∈ items, item.2 = label) :
    0 < (scoresOf label items).length := by
  obtain ⟨item, member, labelled⟩ := some
  refine List.length_pos_of_mem (a := item.1) (List.mem_map_of_mem ?_)
  exact List.mem_filter.mpr ⟨member, decide_eq_true labelled⟩

/-- The share of the pairs of a positive and a negative item in which the positive one scores higher,
tied pairs counting one half. -/
def pairShare (scored : List Scored) : ℚ :=
  wins (scoresOf 1 scored) (scoresOf 0 scored) /
    ((scoresOf 1 scored).length * (scoresOf 0 scored).length)

theorem rankedAuc_eq_pairShare (binary : Binary scored) (positive : ∃ item ∈ scored, item.2 = 1)
    (negative : ∃ item ∈ scored, item.2 = 0) (emptyClassDetail : Option String) :
    rankedAuc scored emptyClassDetail = .ok (pairShare scored) := by
  have perm : (sorted scored).Perm scored := List.perm_insertionSort _ _
  have ordered : (sorted scored).Pairwise fun first second => first.1 ≤ second.1 := by
    refine (List.pairwise_insertionSort _ scored).imp fun below => ?_
    exact (Prod.Lex.le_iff.mp below).elim le_of_lt fun tie => tie.1.le
  have binarySorted : Binary (sorted scored) := fun item member => binary item (perm.subset member)
  have ones := (scoresOf_perm 1 perm).length_eq
  have zeros := (scoresOf_perm 0 perm).length_eq
  have onesPos := scoresOf_pos positive
  have zerosPos := scoresOf_pos negative
  have positives := sum_labels binarySorted
  have total := length_eq binarySorted
  rw [ones] at positives
  rw [ones, zeros] at total
  have negatives : ((sorted scored).length : ℤ) - (scoresOf 1 scored).length =
      (scoresOf 0 scored).length := by
    rw [total]
    push_cast
    ring
  have ranks := rankSum_eq [] (sorted scored) nofun ordered
  rw [List.nil_append, labelledRanks_eq binarySorted, List.length_nil,
    wins_perm (scoresOf_perm 1 perm) (((perm.map Prod.fst)).trans (perm_scores binary)),
    wins_append_right, wins_self, ones] at ranks
  rw [rankedAuc, positives, negatives]
  have some : ¬ (((scoresOf 1 scored).length : ℤ) = 0 ∨ ((scoresOf 0 scored).length : ℤ) = 0) := by
    omega
  have kept : (emptyClassDetail.filter fun _ => decide (((scoresOf 1 scored).length : ℤ) = 0 ∨
      ((scoresOf 0 scored).length : ℤ) = 0)) = none := by
    rw [decide_eq_false some]
    cases emptyClassDetail <;> rfl
  rw [kept]
  dsimp only
  rw [if_neg fun product => some (mul_eq_zero.mp product), ranks, pairShare]
  congr 2
  push_cast
  ring

theorem scoresOf_map (change : ℚ → ℚ) (label : ℤ) (scored : List Scored) :
    scoresOf label (scored.map fun item => (change item.1, item.2)) =
      (scoresOf label scored).map change := by
  induction scored with
  | nil => rfl
  | cons item scored inductionHypothesis =>
    rw [List.map_cons, scoresOf_cons, scoresOf_cons, inductionHypothesis]
    split_ifs <;> rfl

theorem mem_of_mem_scoresOf {label : ℤ} {score : ℚ} (member : score ∈ scoresOf label scored) :
    score ∈ scored.map Prod.fst :=
  (List.filter_sublist.map Prod.fst).subset member

/-- The metric of items whose scores are changed. -/
theorem rankedAuc_map (binary : Binary scored) (positive : ∃ item ∈ scored, item.2 = 1)
    (negative : ∃ item ∈ scored, item.2 = 0) (emptyClassDetail : Option String) (change : ℚ → ℚ) :
    rankedAuc (scored.map fun item => (change item.1, item.2)) emptyClassDetail =
      .ok (wins ((scoresOf 1 scored).map change) ((scoresOf 0 scored).map change) /
        ((scoresOf 1 scored).length * (scoresOf 0 scored).length)) := by
  have labelled : ∀ label, (∃ item ∈ scored, item.2 = label) →
      ∃ item ∈ scored.map fun item => (change item.1, item.2), item.2 = label :=
    fun label ⟨item, member, same⟩ => ⟨_, List.mem_map_of_mem member, same⟩
  have still : Binary (scored.map fun item => (change item.1, item.2)) :=
    List.forall_mem_map.mpr binary
  rw [rankedAuc_eq_pairShare still (labelled 1 positive) (labelled 0 negative), pairShare, scoresOf_map, scoresOf_map, List.length_map, List.length_map]

/-- Over the rationals, for items of both labels, the metric is the share of the pairs in which the
positive item scores higher, tied pairs counting one half. So it is between zero and one, and no matter
is made of the order of the items or of how far scores are apart; turning all scores round turns it
into one minus itself. -/
theorem rankedAuc_is_pairShare (scored : List Scored) (emptyClassDetail : Option String)
    (binary : Binary scored) (positive : ∃ item ∈ scored, item.2 = 1)
    (negative : ∃ item ∈ scored, item.2 = 0) :
    ∃ auc, rankedAuc scored emptyClassDetail = .ok auc ∧
      auc = (((scoresOf 1 scored).map fun first => ((scoresOf 0 scored).map fun second =>
          if second < first then 1 else if second = first then 1 / 2 else 0).sum).sum : ℚ) /
        ((scoresOf 1 scored).length * (scoresOf 0 scored).length) ∧
      0 ≤ auc ∧ auc ≤ 1 ∧
      (∀ others : List Scored, others.Perm scored → rankedAuc others emptyClassDetail = .ok auc) ∧
      (∀ change : ℚ → ℚ, StrictMonoOn change {score | score ∈ scored.map Prod.fst} →
        rankedAuc (scored.map fun item => (change item.1, item.2)) emptyClassDetail = .ok auc) ∧
      rankedAuc (scored.map fun item => (-item.1, item.2)) emptyClassDetail = .ok (1 - auc) := by
  have onesPos : (0 : ℚ) < (scoresOf 1 scored).length := Nat.cast_pos.mpr (scoresOf_pos positive)
  have zerosPos : (0 : ℚ) < (scoresOf 0 scored).length := Nat.cast_pos.mpr (scoresOf_pos negative)
  have pairs := mul_pos onesPos zerosPos
  refine ⟨pairShare scored, rankedAuc_eq_pairShare binary positive negative _, rfl, ?_, ?_, ?_, ?_, ?_⟩
  · exact div_nonneg (wins_nonneg _ _) pairs.le
  · exact (div_le_one pairs).mpr (wins_le _ _)
  · intro others perm
    have labelled : ∀ label, (∃ item ∈ scored, item.2 = label) → ∃ item ∈ others, item.2 = label :=
      fun label ⟨item, member, same⟩ => ⟨item, perm.mem_iff.mpr member, same⟩
    rw [rankedAuc_eq_pairShare (fun item member => binary item (perm.subset member))
      (labelled 1 positive) (labelled 0 negative), pairShare, pairShare,
      wins_perm (scoresOf_perm 1 perm) (scoresOf_perm 0 perm), (scoresOf_perm 1 perm).length_eq,
      (scoresOf_perm 0 perm).length_eq]
  · intro change increasing
    rw [rankedAuc_map binary positive negative, wins_map (increasing.mono ?_)]
    · rfl
    · rintro score (member | member) <;> exact mem_of_mem_scoresOf member
  · rw [rankedAuc_map binary positive negative _ fun score => -score,
      wins_map_anti (fun first second less => neg_lt_neg less), sub_div, div_self pairs.ne']
    rfl

/-- Two positive items and two negative ones, of which one pair is tied. -/
theorem rankedAuc_is_pairShare_tied : ∃ auc,
    rankedAuc [(1 / 2, 1), (1 / 2, 0), (3 / 4, 1), (1 / 4, 0)] none = .ok auc ∧ auc = 7 / 8 := by
  obtain ⟨auc, same, share, _⟩ := rankedAuc_is_pairShare
    [(1 / 2, 1), (1 / 2, 0), (3 / 4, 1), (1 / 4, 0)] none
    (by unfold Binary; decide +kernel) (by decide +kernel) (by decide +kernel)
  refine ⟨auc, same, share.trans ?_⟩
  decide +kernel

end Tabular

end Omnitensor
