/-
This file develops the comparison of two samples by their pairs.

A value wins against a smaller one and half wins against an equal one. The wins of one sample against
another and back add up to the number of pairs. In an ordered sample, the average rank of the places a
value is tied over is what it wins against the whole sample, and a half; so the ranks of a part of a
sample add up to its wins against the rest, next to what its own number determines.
-/

import Mathlib

namespace Omnitensor

namespace RankStatistics

variable {Score : Type} [LinearOrder Score]

/-- What a value wins against another. -/
def win (first second : Score) : ℚ :=
  if second < first then 1 else if second = first then 1 / 2 else 0

theorem win_self (score : Score) : win score score = 1 / 2 := by
  rw [win, if_neg (lt_irrefl score), if_pos rfl]

theorem win_add_win (first second : Score) : win first second + win second first = 1 := by
  rcases lt_trichotomy first second with less | rfl | greater
  · rw [win, win, if_neg (not_lt_of_gt less), if_neg less.ne', if_pos less, zero_add]
  · rw [win_self]
    norm_num
  · rw [win, win, if_pos greater, if_neg (not_lt_of_gt greater), if_neg greater.ne', add_zero]

theorem win_nonneg (first second : Score) : 0 ≤ win first second := by
  rw [win]
  split_ifs <;> norm_num

/-- A change of scores that keeps their order keeps what is won. -/
theorem win_map {Other : Type} [LinearOrder Other] {change : Score → Other} {scores : Set Score}
    (increasing : StrictMonoOn change scores) {first second : Score} (inside : first ∈ scores)
    (other : second ∈ scores) : win (change first) (change second) = win first second := by
  rw [win, win]
  simp only [increasing.lt_iff_lt other inside, increasing.eq_iff_eq other inside]

/-- What a value wins against a sample. -/
def winsOver (score : Score) (sample : List Score) : ℚ := (sample.map (win score)).sum

/-- What a sample wins against another. -/
def wins (firsts seconds : List Score) : ℚ := (firsts.map fun first => winsOver first seconds).sum

@[simp] theorem wins_nil_left (seconds : List Score) : wins [] seconds = 0 := rfl

@[simp] theorem wins_cons_left (first : Score) (firsts seconds : List Score) :
    wins (first :: firsts) seconds = winsOver first seconds + wins firsts seconds :=
  List.sum_cons

@[simp] theorem winsOver_nil (score : Score) : winsOver score [] = 0 := rfl

@[simp] theorem winsOver_cons (score first : Score) (sample : List Score) :
    winsOver score (first :: sample) = win score first + winsOver score sample :=
  List.sum_cons

theorem winsOver_append (score : Score) (first second : List Score) :
    winsOver score (first ++ second) = winsOver score first + winsOver score second := by
  rw [winsOver, List.map_append, List.sum_append]
  rfl

theorem winsOver_perm (score : Score) {first second : List Score} (perm : first.Perm second) :
    winsOver score first = winsOver score second := (perm.map _).sum_eq

theorem wins_append_right (firsts first second : List Score) :
    wins firsts (first ++ second) = wins firsts first + wins firsts second := by
  induction firsts with
  | nil => exact (add_zero 0).symm
  | cons score firsts inductionHypothesis =>
    rw [wins_cons_left, wins_cons_left, wins_cons_left, winsOver_append, inductionHypothesis]
    ring

variable {firsts seconds sample : List Score} {score : Score}

theorem wins_perm {others rest : List Score} (perm : firsts.Perm others) (same : seconds.Perm rest) :
    wins firsts seconds = wins others rest := by
  refine ((perm.map _).sum_eq).trans (congrArg List.sum (List.map_congr_left fun score _ => ?_))
  exact winsOver_perm score same

theorem winsOver_add_wins (score : Score) (sample : List Score) :
    winsOver score sample + wins sample [score] = sample.length := by
  induction sample with
  | nil => exact add_zero 0
  | cons first sample inductionHypothesis =>
    have pair := win_add_win score first
    rw [winsOver_cons, wins_cons_left, winsOver_cons, winsOver_nil, List.length_cons, Nat.cast_succ]
    linarith

/-- The wins of two samples against each other add up to the number of pairs. -/
theorem wins_add_wins (firsts seconds : List Score) :
    wins firsts seconds + wins seconds firsts = firsts.length * seconds.length := by
  induction firsts with
  | nil =>
    have none : wins seconds [] = 0 := by
      induction seconds with
      | nil => rfl
      | cons score seconds inductionHypothesis =>
        rw [wins_cons_left, winsOver_nil, zero_add, inductionHypothesis]
    rw [none, wins_nil_left, List.length_nil, Nat.cast_zero, zero_mul, add_zero]
  | cons score firsts inductionHypothesis =>
    have one := winsOver_add_wins score seconds
    have split := wins_append_right seconds [score] firsts
    rw [List.singleton_append] at split
    rw [wins_cons_left, split, List.length_cons, Nat.cast_succ]
    linarith

/-- A sample wins half the pairs against itself. -/
theorem wins_self (sample : List Score) : wins sample sample = sample.length * sample.length / 2 := by
  have both := wins_add_wins sample sample
  linarith

theorem winsOver_nonneg (score : Score) (sample : List Score) : 0 ≤ winsOver score sample := by
  refine List.sum_nonneg fun won member => ?_
  obtain ⟨other, _, rfl⟩ := List.mem_map.mp member
  exact win_nonneg score other

theorem wins_nonneg (firsts seconds : List Score) : 0 ≤ wins firsts seconds := by
  refine List.sum_nonneg fun won member => ?_
  obtain ⟨score, _, rfl⟩ := List.mem_map.mp member
  exact winsOver_nonneg score seconds

theorem wins_le (firsts seconds : List Score) :
    wins firsts seconds ≤ firsts.length * seconds.length := by
  have both := wins_add_wins firsts seconds
  have back := wins_nonneg seconds firsts
  linarith

theorem wins_map {Other : Type} [LinearOrder Other] {change : Score → Other}
    (increasing : StrictMonoOn change {score | score ∈ firsts ∨ score ∈ seconds}) :
    wins (firsts.map change) (seconds.map change) = wins firsts seconds := by
  rw [wins, wins, List.map_map]
  refine congrArg List.sum (List.map_congr_left fun first inside => ?_)
  rw [Function.comp_apply, winsOver, winsOver, List.map_map]
  refine congrArg List.sum (List.map_congr_left fun second member => ?_)
  exact win_map increasing (Or.inl inside) (Or.inr member)

/-- Turning the order round exchanges who wins. -/
theorem wins_map_anti {Other : Type} [LinearOrder Other] {change : Score → Other}
    (decreasing : StrictAnti change) (firsts seconds : List Score) :
    wins (firsts.map change) (seconds.map change) = firsts.length * seconds.length - wins firsts seconds := by
  have turned : ∀ first second, win (change first) (change second) = 1 - win first second := by
    intro first second
    have pair := win_add_win first second
    have back : win (change first) (change second) = win second first := by
      rw [win, win]
      simp only [decreasing.lt_iff_gt, decreasing.injective.eq_iff, eq_comm]
    linarith
  have single : ∀ first, winsOver (change first) (seconds.map change) =
      seconds.length - winsOver first seconds := by
    intro first
    induction seconds with
    | nil => exact (sub_zero 0).symm
    | cons second seconds inductionHypothesis =>
      rw [List.map_cons, winsOver_cons, winsOver_cons, inductionHypothesis, turned, List.length_cons,
        Nat.cast_succ]
      ring
  induction firsts with
  | nil => simp
  | cons first firsts inductionHypothesis =>
    rw [List.map_cons, wins_cons_left, wins_cons_left, single, inductionHypothesis, List.length_cons,
      Nat.cast_succ]
    ring

/-! ### Ranks -/

/-- Values that are all smaller are won against. -/
theorem winsOver_of_lt (smaller : ∀ other ∈ sample, other < score) :
    winsOver score sample = sample.length := by
  induction sample with
  | nil => rfl
  | cons other sample inductionHypothesis =>
    obtain ⟨first, others⟩ := List.forall_mem_cons.mp smaller
    rw [winsOver_cons, inductionHypothesis others, win, if_pos first, List.length_cons, Nat.cast_succ]
    ring

theorem winsOver_of_eq (equal : ∀ other ∈ sample, other = score) :
    winsOver score sample = sample.length / 2 := by
  induction sample with
  | nil => exact (zero_div 2).symm
  | cons other sample inductionHypothesis =>
    obtain ⟨rfl, others⟩ := List.forall_mem_cons.mp equal
    rw [winsOver_cons, inductionHypothesis others, win_self, List.length_cons, Nat.cast_succ]
    ring

theorem winsOver_of_gt (greater : ∀ other ∈ sample, score < other) : winsOver score sample = 0 := by
  induction sample with
  | nil => rfl
  | cons other sample inductionHypothesis =>
    obtain ⟨first, others⟩ := List.forall_mem_cons.mp greater
    rw [winsOver_cons, inductionHypothesis others, win, if_neg (not_lt_of_gt first), if_neg first.ne',
      add_zero]

/-- The average rank of tied places is what the value wins against the whole sample, and a half. -/
theorem average_rank {score : Score} {before tied after : List Score}
    (smaller : ∀ other ∈ before, other < score) (equal : ∀ other ∈ tied, other = score)
    (greater : ∀ other ∈ after, score < other) :
    (((before.length : ℚ) + 1) + (before.length + tied.length)) / 2 =
      winsOver score (before ++ (tied ++ after)) + 1 / 2 := by
  rw [winsOver_append, winsOver_append, winsOver_of_lt smaller, winsOver_of_eq equal,
    winsOver_of_gt greater]
  ring

end RankStatistics

end Omnitensor
