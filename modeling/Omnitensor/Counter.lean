/-
This file develops counters: how many of each key there are.

A counter is a dictionary of positive numbers, so a key that counts nothing is absent.
Adding one makes the key present; taking one away removes the key at zero. A key's
count and the total move by one, and no other key's count moves.
-/

import Omnitensor.Dict
import Mathlib

namespace Omnitensor

/-- Positive counts by key. -/
structure Counter (Key : Type) [DecidableEq Key] where
  /-- The counts. -/
  counts : Dict Key Nat
  /-- A key that counts nothing is absent. -/
  positive : ∀ key count, counts.get? key = some count → 0 < count

namespace Counter

variable {Key : Type} [DecidableEq Key]

/-- Nothing is counted. -/
def empty : Counter Key := ⟨Dict.empty, fun key count found => by cases found⟩

/-- The count of a key, zero when it is absent. -/
def count (counter : Counter Key) (key : Key) : Nat := (counter.counts.get? key).getD 0

/-- The sum of all counts. -/
def total (counter : Counter Key) : Nat := counter.counts.values.sum

/-- Count one more of a key. -/
def add (counter : Counter Key) (key : Key) : Counter Key where
  counts := counter.counts.set key (counter.count key + 1)
  positive other value found := by
    rw [Dict.get?_set] at found
    split at found
    · cases found
      exact Nat.succ_pos _
    · exact counter.positive other value found

/-- Count one less of a key, forgetting it at zero. -/
def remove (counter : Counter Key) (key : Key) : Counter Key where
  counts :=
    if counter.count key ≤ 1 then counter.counts.erase key
    else counter.counts.set key (counter.count key - 1)
  positive other value found := by
    split at found
    · rw [Dict.get?_erase] at found
      split at found
      · cases found
      · exact counter.positive other value found
    · rename_i many
      rw [Dict.get?_set] at found
      split at found
      · cases found
        omega
      · exact counter.positive other value found

theorem count_add (counter : Counter Key) (key other : Key) :
    (counter.add key).count other = counter.count other + if other = key then 1 else 0 := by
  by_cases same : other = key <;> simp [count, add, same]

theorem counts_remove_of_le {counter : Counter Key} {key : Key} (last : counter.count key ≤ 1) :
    (counter.remove key).counts = counter.counts.erase key := if_pos last

theorem counts_remove_of_lt {counter : Counter Key} {key : Key} (many : 1 < counter.count key) :
    (counter.remove key).counts = counter.counts.set key (counter.count key - 1) :=
  if_neg (Nat.not_le.mpr many)

theorem count_remove (counter : Counter Key) (key other : Key) :
    (counter.remove key).count other = counter.count other - if other = key then 1 else 0 := by
  rcases Nat.lt_or_ge 1 (counter.count key) with many | last
  · rw [count, counts_remove_of_lt many, Dict.get?_set]
    by_cases same : other = key
    · rw [if_pos same, if_pos same, same, Option.getD_some]
    · rw [if_neg same, if_neg same, count, Nat.sub_zero]
  · rw [count, counts_remove_of_le last, Dict.get?_erase]
    by_cases same : other = key
    · rw [if_pos same, if_pos same, same, Option.getD_none]
      omega
    · rw [if_neg same, if_neg same, count, Nat.sub_zero]

/-- A key's count and the rest make up the total. -/
theorem total_eq (counter : Counter Key) (key : Key) :
    counter.total = counter.count key + (counter.counts.erase key).values.sum := by
  cases found : counter.counts.get? key with
  | none =>
    rw [count, found, Dict.erase_of_not_mem (Dict.get?_eq_none_iff.mp found), Option.getD_none,
      Nat.zero_add]
    rfl
  | some value =>
    rw [count, found, total, (Dict.values_perm_of_get? found).sum_nat, List.sum_cons]
    rfl

theorem total_add (counter : Counter Key) (key : Key) :
    (counter.add key).total = counter.total + 1 := by
  have rest : (counter.add key).counts.erase key = counter.counts.erase key :=
    Dict.erase_set_self _ _ _
  rw [total_eq (counter.add key) key, total_eq counter key, rest, count_add, if_pos rfl]
  omega

theorem total_remove (counter : Counter Key) {key : Key} (counted : 0 < counter.count key) :
    (counter.remove key).total + 1 = counter.total := by
  have rest : (counter.remove key).counts.erase key = counter.counts.erase key := by
    rcases Nat.lt_or_ge 1 (counter.count key) with many | last
    · rw [counts_remove_of_lt many, Dict.erase_set_self]
    · rw [counts_remove_of_le last, Dict.erase_erase_self]
  rw [total_eq (counter.remove key) key, total_eq counter key, rest, count_remove, if_pos rfl]
  omega

end Counter

end Omnitensor
