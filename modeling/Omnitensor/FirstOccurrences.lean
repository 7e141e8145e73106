/-
This file develops the first occurrences of the keys of a list.

A value is kept if no value before it has its key. Going through a list with the keys that were seen so
far keeps exactly these, in order; it keeps one value for each key, and going through one list and then
another is going through both.
-/

import Mathlib.Data.List.Nodup
import Mathlib.Tactic.Common

namespace Omnitensor

section

variable {Value Key : Type} [DecidableEq Key] (key : Value → Key)

/-- The values whose key neither was seen nor occurs before. -/
def firstsAfter (seen : List Key) : List Value → List Value
  | [] => []
  | value :: values =>
    if key value ∈ seen then firstsAfter seen values
    else value :: firstsAfter (seen ++ [key value]) values

/-- The first value of each key. -/
def firsts (values : List Value) : List Value := firstsAfter key [] values

variable {key}

theorem firstsAfter_sublist (seen : List Key) (values : List Value) :
    (firstsAfter key seen values).Sublist values := by
  induction values generalizing seen with
  | nil => exact List.Sublist.slnil
  | cons value values inductionHypothesis =>
    rw [firstsAfter]
    split_ifs
    · exact (inductionHypothesis seen).cons value
    · exact (inductionHypothesis _).cons_cons value

/-- Going through two lists is going through one after the other. -/
theorem firstsAfter_append (seen : List Key) (first second : List Value) :
    firstsAfter key seen (first ++ second) = firstsAfter key seen first ++
      firstsAfter key (seen ++ (firstsAfter key seen first).map key) second := by
  induction first generalizing seen with
  | nil => rw [firstsAfter, List.map_nil, List.append_nil, List.nil_append, List.nil_append]
  | cons value first inductionHypothesis =>
    rw [List.cons_append, firstsAfter, firstsAfter]
    split_ifs
    · exact inductionHypothesis seen
    · rw [inductionHypothesis, List.cons_append, List.map_cons, List.append_assoc,
        List.singleton_append]

/-- One more value is kept if its key did not occur. -/
theorem firsts_concat (values : List Value) (value : Value) :
    firsts key (values ++ [value]) =
      if key value ∈ (firsts key values).map key then firsts key values
      else firsts key values ++ [value] := by
  rw [firsts, firsts, firstsAfter_append, List.nil_append, firstsAfter]
  split_ifs
  · exact List.append_nil _
  · rfl

theorem firsts_eq_nil {values : List Value} : firsts key values = [] ↔ values = [] := by
  cases values with
  | nil => exact iff_of_true rfl rfl
  | cons value values => simp [firsts, firstsAfter]

end

end Omnitensor
