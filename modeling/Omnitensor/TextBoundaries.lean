/-
This file models how a text is cut where a pattern matches it.

Three patterns say where a document may be cut: blank lines, the white space after the end of a
sentence, and any white space. Matches are found from left to right, and none begins inside another.
Every part of the text keeps the match after it, so that the parts are the text.
-/

import Omnitensor.DocumentExtraction

namespace Omnitensor

namespace Spans

/-- A pattern: how long its match is between what is before and what is after, if it matches there. -/
structure Boundary where
  matchAt : PyString → PyString → Option Nat
  bounded : ∀ before after length, matchAt before after = some length →
    0 < length ∧ length ≤ after.length

/-- Where a run of white space that begins a text ends. -/
def run (text : PyString) : PyString := text.takeWhile PyString.space

/-- `\s+`. -/
def whitespaceAt (after : PyString) : Option Nat :=
  if run after = [] then none else some (run after).length

/-- `[.!?;:]`. -/
def endsSentence (point : CodePoint) : Bool :=
  decide (point ∈ [.scalar '.', .scalar '!', .scalar '?', .scalar ';', .scalar ':'])

/-- `(?<=[.!?;:])\s+`. -/
def sentenceAt (before after : PyString) : Option Nat :=
  if before.getLast?.any endsSentence then whitespaceAt after else none

/-- A text up to its last line feed. -/
def upToLineFeed (text : PyString) : PyString :=
  (text.reverse.dropWhile fun point => decide (point ≠ .scalar '\n')).reverse

/-- `\n\s*\n`: from a line feed to the last one in the white space after it. -/
def paragraphAt : PyString → Option Nat
  | .scalar '\n' :: after =>
    if upToLineFeed (run after) = [] then none else some ((upToLineFeed (run after)).length + 1)
  | _ => none

theorem length_run_le (text : PyString) : (run text).length ≤ text.length :=
  (List.takeWhile_sublist _).length_le

theorem length_upToLineFeed_le (text : PyString) : (upToLineFeed text).length ≤ text.length := by
  rw [upToLineFeed, List.length_reverse, ← @List.length_reverse _ text]
  exact (List.dropWhile_sublist _).length_le

variable {length start stop position attempts : Nat}

theorem bounded_whitespaceAt {after : PyString} (found : whitespaceAt after = some length) :
    0 < length ∧ length ≤ after.length := by
  rw [whitespaceAt] at found
  split at found
  · cases found
  · rename_i filled
    cases found
    exact ⟨List.length_pos_iff.mpr filled, length_run_le after⟩

theorem bounded_paragraphAt {after : PyString} (found : paragraphAt after = some length) :
    0 < length ∧ length ≤ after.length := by
  unfold paragraphAt at found
  split at found
  · rename_i rest
    split at found
    · cases found
    · cases found
      refine ⟨Nat.succ_pos _, Nat.succ_le_succ ?_⟩
      exact (length_upToLineFeed_le _).trans (length_run_le rest)
  · cases found

def paragraph : Boundary := ⟨fun _ after => paragraphAt after, fun _ _ _ => bounded_paragraphAt⟩

def sentence : Boundary where
  matchAt := sentenceAt
  bounded before after length found := by
    rw [sentenceAt] at found
    split at found
    · exact bounded_whitespaceAt found
    · cases found

def whitespace : Boundary := ⟨fun _ after => whitespaceAt after, fun _ _ _ => bounded_whitespaceAt⟩

/-- The patterns, from the coarsest to the finest. -/
def boundaries : List Boundary := [paragraph, sentence, whitespace]

variable (boundary : Boundary) (text : PyString)

/-- Where the matches begin and end from a position on. Every attempt moves on, so there are no more of
them than positions. -/
def finditer : Nat → Nat → List (Nat × Nat)
  | 0, _ => []
  | attempts + 1, position =>
    match boundary.matchAt (text.take position) (text.drop position) with
    | some length => (position, position + length) :: finditer attempts (position + length)
    | none => finditer attempts (position + 1)

/-- `text[start:stop]`. -/
def slice (start stop : Nat) : PyString := (text.take stop).drop start

/-- A text from a position on, cut after each of its matches. -/
def partsFrom (start : Nat) : List (Nat × Nat) → List PyString
  | [] => if start < text.length then [text.drop start] else []
  | (_, stop) :: found => slice text start stop :: partsFrom stop found

/-- A text cut at every match, with each separator kept on its left part. -/
def parts : List PyString := partsFrom text 0 (finditer boundary text text.length 0)

variable {boundary text}

theorem slice_append_drop {start stop : Nat} (ordered : start ≤ stop) :
    slice text start stop ++ text.drop stop = text.drop start := by
  calc slice text start stop ++ text.drop stop
      = (text.take stop).drop start ++ (text.drop start).drop (stop - start) := by
        rw [List.drop_drop, Nat.add_sub_cancel' ordered, slice]
    _ = (text.drop start).take (stop - start) ++ (text.drop start).drop (stop - start) := by
        rw [List.drop_take]
    _ = text.drop start := List.take_append_drop _ _

theorem take_append_slice (ordered : start ≤ stop) :
    text.take start ++ slice text start stop = text.take stop := by
  have same := List.take_append_drop start (text.take stop)
  rwa [List.take_take, Nat.min_eq_left ordered] at same

theorem slice_append_slice {middle : Nat} (first : start ≤ middle) (second : middle ≤ stop)
    (within : middle ≤ text.length) :
    slice text start middle ++ slice text middle stop = slice text start stop := by
  have reached : start ≤ (text.take middle).length := by
    rwa [List.length_take, Nat.min_eq_left within]
  have whole : slice text start stop = (text.take stop).drop start := rfl
  rw [whole, ← take_append_slice second, List.drop_append_of_le_length reached, slice]

theorem slice_ne_nil (ordered : start < stop) (within : stop ≤ text.length) :
    slice text start stop ≠ [] := by
  refine List.length_pos_iff.mp ?_
  rw [slice, List.length_drop, List.length_take, Nat.min_eq_left within]
  exact Nat.sub_pos_of_lt ordered

/-- What follows of a match: it is not empty, and ends inside the text. -/
theorem bounded_matchAt
    (found : boundary.matchAt (text.take position) (text.drop position) = some length) :
    0 < length ∧ position + length ≤ text.length := by
  obtain ⟨positive, within⟩ := boundary.bounded _ _ _ found
  rw [List.length_drop] at within
  omega

theorem flatten_partsFrom (reached : start ≤ position) :
    (partsFrom text start (finditer boundary text attempts position)).flatten = text.drop start := by
  induction attempts generalizing start position with
  | zero =>
    rw [finditer, partsFrom]
    split
    · exact List.flatten_singleton
    · rename_i ends
      exact (List.drop_eq_nil_of_le (not_lt.mp ends)).symm
  | succ attempts inductionHypothesis =>
    rw [finditer]
    split
    · rename_i length found
      rw [partsFrom, List.flatten_cons, inductionHypothesis (Nat.le_refl _)]
      exact slice_append_drop (reached.trans (Nat.le_add_right _ _))
    · exact inductionHypothesis (reached.trans (Nat.le_succ _))

/-- The parts of a text are the text. -/
theorem flatten_parts : (parts boundary text).flatten = text := flatten_partsFrom (Nat.le_refl 0)

theorem filled_partsFrom (reached : start ≤ position) :
    ∀ part ∈ partsFrom text start (finditer boundary text attempts position), part ≠ [] := by
  induction attempts generalizing start position with
  | zero =>
    rw [finditer, partsFrom]
    split
    · rename_i more
      exact List.forall_mem_singleton.mpr fun none =>
        absurd (List.drop_eq_nil_iff.mp none) (Nat.not_le_of_lt more)
    · exact fun _ member => absurd member List.not_mem_nil
  | succ attempts inductionHypothesis =>
    rw [finditer]
    split
    · rename_i length found
      obtain ⟨positive, within⟩ := bounded_matchAt found
      exact List.forall_mem_cons.mpr
        ⟨slice_ne_nil (by omega) within, inductionHypothesis (Nat.le_refl _)⟩
    · exact inductionHypothesis (reached.trans (Nat.le_succ _))

theorem filled_parts : ∀ part ∈ parts boundary text, part ≠ [] := filled_partsFrom (Nat.le_refl 0)

end Spans

end Omnitensor
