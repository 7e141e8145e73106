/-
This file develops tables of numbered rows that are appended and overwritten in place.

A row keeps its number for ever, so it can stand for an object that others refer to.
Overwriting one row moves a count over the table by that row's share alone, and a
collection gathered from all rows by that row's contribution alone.
-/

import Mathlib.Data.List.Perm.Basic
import Mathlib.Data.List.Perm.Lattice

namespace Omnitensor

namespace Table

variable {Row Value : Type}

variable {rows : List Row} {index : Nat} {old new row : Row} {gather : Row → List Value}

/-- Overwriting a row moves a count by the two rows' shares. -/
theorem countP_set (stored : rows[index]? = some old) (new : Row) (accept : Row → Bool) :
    (rows.set index new).countP accept + (if accept old then 1 else 0) =
      rows.countP accept + if accept new then 1 else 0 := by
  obtain ⟨inside, rfl⟩ := List.getElem?_eq_some_iff.mp stored
  obtain ⟨before, after, whole, -, overwritten⟩ := @List.exists_of_set _ _ new _ inside
  rw [overwritten, List.countP_append, List.countP_cons]
  have counted := congrArg (List.countP accept) whole
  rw [List.countP_append, List.countP_cons] at counted
  omega

/-- Overwriting a row exchanges its contribution to what is gathered from all rows. -/
theorem flatMap_set (stored : rows[index]? = some old) (new : Row) (gather : Row → List Value) :
    ((rows.set index new).flatMap gather ++ gather old).Perm
      (rows.flatMap gather ++ gather new) := by
  obtain ⟨inside, rfl⟩ := List.getElem?_eq_some_iff.mp stored
  obtain ⟨before, after, whole, -, overwritten⟩ := @List.exists_of_set _ _ new _ inside
  have gathered := congrArg (List.flatMap gather) whole
  rw [List.flatMap_append, List.flatMap_cons] at gathered
  rw [overwritten, gathered, List.flatMap_append, List.flatMap_cons, List.append_assoc,
    List.append_assoc, List.append_assoc, List.append_assoc]
  have rotated : (gather new ++ (after.flatMap gather ++ gather rows[index])).Perm _ :=
    List.perm_append_comm.trans (List.perm_append_comm.append_right (gather new))
  exact List.Perm.append_left _ (rotated.trans (List.Perm.of_eq (List.append_assoc _ _ _)))

/-- Overwriting a row with one that contributes the same gathers the same. -/
theorem flatMap_set_of_eq (stored : rows[index]? = some old) (same : gather new = gather old) :
    (rows.set index new).flatMap gather = rows.flatMap gather := by
  obtain ⟨inside, rfl⟩ := List.getElem?_eq_some_iff.mp stored
  obtain ⟨before, after, whole, -, overwritten⟩ := @List.exists_of_set _ _ new _ inside
  have gathered := congrArg (List.flatMap gather) whole
  rw [List.flatMap_append, List.flatMap_cons] at gathered
  rw [overwritten, gathered, List.flatMap_append, List.flatMap_cons, same]

/-- At most one row counts after a row is overwritten, when the new row counts only in the place of
one that did, or where none did. -/
theorem countP_set_le_one {counts : Row → Bool} (few : rows.countP counts ≤ 1)
    (stored : rows[index]? = some old)
    (may : counts new = true → counts old = true ∨ ∀ row ∈ rows, counts row = false) :
    (rows.set index new).countP counts ≤ 1 := by
  have count := countP_set stored new counts
  by_cases holds : counts new = true
  · rcases may holds with held | free
    · simp only [holds, held, if_true] at count
      omega
    · have none : rows.countP counts = 0 := by
        rw [List.countP_eq_zero]
        intro row member
        rw [free row member]
        exact Bool.false_ne_true
      simp only [holds, none, if_true] at count
      omega
  · simp only [holds, Bool.false_eq_true, if_false] at count
    omega

/-- At most one place holds a row that counts, when at most one row counts. -/
theorem place_eq_of_countP_le_one {counts : Row → Bool} (few : rows.countP counts ≤ 1)
    {first second : Nat} {one other : Row} (firstHolds : rows[first]? = some one)
    (secondHolds : rows[second]? = some other) (oneCounts : counts one = true)
    (otherCounts : counts other = true) : first = second := by
  by_contra different
  wlog earlier : first < second generalizing first second one other
  · exact this secondHolds firstHolds otherCounts oneCounts (Ne.symm different) (by omega)
  obtain ⟨after, rfl⟩ := Nat.exists_eq_add_of_lt earlier
  have before : 0 < (rows.take (first + 1)).countP counts := List.countP_pos_iff.mpr
    ⟨one, List.mem_of_getElem? ((List.getElem?_take_of_succ).trans firstHolds), oneCounts⟩
  have behind : 0 < (rows.drop (first + 1)).countP counts := List.countP_pos_iff.mpr
    ⟨other, List.mem_of_getElem? (i := after) (List.getElem?_drop.trans
      (by rwa [Nat.add_right_comm])), otherCounts⟩
  rw [← List.take_append_drop (first + 1) rows, List.countP_append] at few
  omega

/-- What a row of an overwritten table is: the new row, or an untouched one. -/
theorem getElem?_set (stored : rows[index]? = some old) (new : Row) (other : Nat) :
    (rows.set index new)[other]? = if other = index then some new else rows[other]? := by
  have bound : index < rows.length := (List.getElem?_eq_some_iff.mp stored).1
  by_cases same : other = index
  · rw [if_pos same, same, List.getElem?_set_self bound]
  · rw [if_neg same, List.getElem?_set_ne (Ne.symm same)]

/-- Two rows never clash after one is overwritten, when the new row clashes with no row elsewhere. -/
theorem alone_set (clash : Row → Row → Prop) (symmetric : ∀ one other, clash one other → clash other one)
    (alone : ∀ (first second : Nat) (one other : Row), rows[first]? = some one →
      rows[second]? = some other → clash one other → first = second)
    (stored : rows[index]? = some old)
    (fresh : ∀ (other : Nat) (row : Row), rows[other]? = some row → clash row new → other = index)
    {first second : Nat} {one other : Row} (firstStored : (rows.set index new)[first]? = some one)
    (secondStored : (rows.set index new)[second]? = some other) (clashes : clash one other) :
    first = second := by
  rw [getElem?_set stored] at firstStored secondStored
  split at firstStored <;> split at secondStored
  · rename_i firstSame secondSame
    rw [firstSame, secondSame]
  · rename_i firstSame _
    obtain rfl := Option.some.inj firstStored
    rw [firstSame, fresh second other secondStored (symmetric _ _ clashes)]
  · rename_i _ secondSame
    obtain rfl := Option.some.inj secondStored
    rw [secondSame, fresh first one firstStored clashes]
  · exact alone _ _ _ _ firstStored secondStored clashes

/-- Overwriting a row with itself changes nothing. -/
theorem set_self (stored : rows[index]? = some row) : rows.set index row = rows := by
  obtain ⟨bound, rfl⟩ := List.getElem?_eq_some_iff.mp stored
  exact List.set_getElem_self bound

/-- What a row of an extended table is: the new row, or an old one. -/
theorem getElem?_concat (rows : List Row) (new : Row) (index : Nat) :
    (rows ++ [new])[index]? = if index = rows.length then some new else rows[index]? := by
  rcases Nat.lt_trichotomy index rows.length with inside | same | beyond
  · rw [List.getElem?_append_left inside, if_neg (Nat.ne_of_lt inside)]
  · rw [if_pos same, same, List.getElem?_concat_length]
  · rw [if_neg (Nat.ne_of_gt beyond), List.getElem?_eq_none (Nat.le_of_lt beyond),
      List.getElem?_eq_none (by rw [List.length_append, List.length_singleton]; omega)]

/-- Changing one row changes nothing that is read alike of the changed row. -/
theorem map_modify (rows : List Row) (index : Nat) {change : Row → Row} {read : Row → Value}
    (same : ∀ row, read (change row) = read row) :
    (rows.modify index change).map read = rows.map read := by
  induction rows generalizing index with
  | nil => rw [List.modify_nil]
  | cons row rows inductionHypothesis =>
    cases index with
    | zero => rw [List.modify_zero_cons, List.map_cons, List.map_cons, same]
    | succ index =>
      rw [List.modify_succ_cons, List.map_cons, List.map_cons, inductionHypothesis index]

theorem mem_modify {change : Row → Row} (member : row ∈ rows.modify index change) :
    row ∈ rows ∨ ∃ old ∈ rows, row = change old := by
  obtain ⟨place, found⟩ := List.mem_iff_getElem?.mp member
  rw [List.getElem?_modify, Option.map_eq_map] at found
  obtain ⟨old, stored, rfl⟩ := Option.map_eq_some_iff.mp found
  have known := List.mem_iff_getElem?.mpr ⟨place, stored⟩
  split
  · exact Or.inr ⟨old, known, rfl⟩
  · exact Or.inl known

/-- Gathering from distinct rows gathers everything when no other row contributes. -/
theorem flatMap_select {blank : Row} (nothing : gather blank = []) {indices : List Nat}
    (distinct : indices.Nodup)
    (others : ∀ index row, rows[index]? = some row → index ∉ indices → gather row = []) :
    (indices.flatMap fun index => gather ((rows[index]?).getD blank)).Perm
      (rows.flatMap gather) := by
  induction indices generalizing rows with
  | nil =>
    have silent : rows.flatMap gather = [] := by
      rw [List.flatMap_eq_nil_iff]
      intro row member
      obtain ⟨index, stored⟩ := List.mem_iff_getElem?.mp member
      exact others index row stored List.not_mem_nil
    rw [silent]
    exact List.Perm.refl _
  | cons index indices inductionHypothesis =>
    obtain ⟨fresh, distinctRest⟩ := List.nodup_cons.mp distinct
    rw [List.flatMap_cons]
    cases stored : rows[index]? with
    | none =>
      rw [Option.getD_none, nothing, List.nil_append]
      refine inductionHypothesis distinctRest fun other row found absent => ?_
      refine others other row found fun member => ?_
      rcases List.mem_cons.mp member with rfl | inside
      · rw [stored] at found
        cases found
      · exact absent inside
    | some row =>
      have taken := flatMap_set stored blank gather
      rw [nothing, List.append_nil] at taken
      have rest : (indices.flatMap fun other => gather ((rows[other]?).getD blank)) =
          indices.flatMap fun other => gather (((rows.set index blank)[other]?).getD blank) := by
        refine List.flatMap_congr fun other member => ?_
        have different : other ≠ index := fun same => fresh (same ▸ member)
        rw [getElem?_set stored, if_neg different]
      rw [Option.getD_some, rest]
      refine List.Perm.trans ?_ (List.perm_append_comm.trans taken)
      refine (inductionHypothesis distinctRest fun other current found absent => ?_).append_left _
      rw [getElem?_set stored] at found
      split at found
      · cases found
        exact nothing
      · rename_i different
        refine others other current found fun member => ?_
        exact (List.mem_cons.mp member).elim different absent

end Table

end Omnitensor
