/-
This file develops clocks that are kept within a bound of one another.

A set of active parties each carries a clock. Serving a party advances its clock;
a party joins at another's clock, leaves at any time, and one that is held out is
raised to a level the served clock has reached. As long as the least admitted
clock is served and no advance exceeds the bound, no two active clocks ever differ
by more than the bound, so two parties active over a whole stretch of time advance
by amounts that differ by at most twice the bound.
-/

import Mathlib.Algebra.BigOperators.Field
import Mathlib.Algebra.Order.BigOperators.Ring.Finset
import Mathlib.Algebra.Order.Field.Basic
import Mathlib.Algebra.Order.Group.Abs
import Mathlib.Data.Set.Insert
import Mathlib.Tactic.Abel

namespace Omnitensor

namespace VirtualTime

variable {Party Time : Type} [AddCommGroup Time] [LinearOrder Time] [IsOrderedAddMonoid Time]

/-- No active clock is ahead of another by more than the bound. -/
def Within (bound : Time) (active : Set Party) (clock : Party → Time) : Prop :=
  ∀ first ∈ active, ∀ second ∈ active, clock first ≤ clock second + bound

variable {bound : Time} {active later : Set Party} {clock next : Party → Time}

/-- Clocks inside one band of the bound's width are within the bound. -/
theorem within_of_band (low : Time)
    (band : ∀ party ∈ active, low ≤ clock party ∧ clock party ≤ low + bound) :
    Within bound active clock := by
  intro first firstActive second secondActive
  calc clock first
      _ ≤ low + bound := (band first firstActive).2
      _ ≤ clock second + bound := add_le_add_left (band second secondActive).1 bound

omit [IsOrderedAddMonoid Time] in
/-- Parties may leave, and inactive clocks are free. -/
theorem Within.mono (within : Within bound active clock) (fewer : later ⊆ active)
    (same : ∀ party ∈ later, next party = clock party) : Within bound later next := by
  intro first firstLater second secondLater
  rw [same first firstLater, same second secondLater]
  exact within first (fewer firstLater) second (fewer secondLater)

/-- A party that joins at an active party's clock keeps every clock within the bound. -/
theorem Within.join (within : Within bound active clock) (nonneg : 0 ≤ bound) {party : Party}
    (same : ∀ other ∈ active, next other = clock other)
    (level : ∀ other ∈ active, ∃ member ∈ active, next party = clock member) :
    Within bound (insert party active) next := by
  rintro first (rfl | firstActive) second (rfl | secondActive)
  · exact le_add_of_nonneg_right nonneg
  · obtain ⟨member, memberActive, joined⟩ := level second secondActive
    rw [joined, same second secondActive]
    exact within member memberActive second secondActive
  · obtain ⟨member, memberActive, joined⟩ := level first firstActive
    rw [joined, same first firstActive]
    exact within first firstActive member memberActive
  · rw [same first firstActive, same second secondActive]
    exact within first firstActive second secondActive

/-- Serving the least admitted clock keeps every clock within the bound, when the held-out
clocks are raised to a level between the served clock before and after. -/
theorem Within.serve (within : Within bound active clock) (admits : Party → Prop) {party : Party}
    {advance : Time} (member : party ∈ active)
    (least : ∀ other ∈ active, admits other → clock party ≤ clock other)
    (nonneg : 0 ≤ advance) (bounded : advance ≤ bound) (fewer : later ⊆ active)
    (served : party ∈ later → next party = clock party + advance)
    (others : ∀ other ∈ later, other ≠ party → admits other → next other = clock other)
    (held : ∀ other ∈ later, ¬ admits other →
      ∃ level, clock party ≤ level ∧ level ≤ clock party + advance ∧
        next other = max (clock other) level)
    (accepted : admits party) : Within bound later next := by
  refine within_of_band (clock party) fun other otherLater => ?_
  have near : clock other ≤ clock party + bound := within other (fewer otherLater) party member
  by_cases admitted : admits other
  · by_cases same : other = party
    · subst same
      rw [served otherLater]
      exact ⟨le_add_of_nonneg_right nonneg, add_le_add_right bounded _⟩
    · rw [others other otherLater same admitted]
      exact ⟨least other (fewer otherLater) admitted, near⟩
  · obtain ⟨level, low, high, raised⟩ := held other otherLater admitted
    rw [raised]
    exact ⟨le_max_of_le_right low,
      max_le near (high.trans (add_le_add_right bounded _))⟩

/-- Two parties active at both ends of a stretch advance by amounts that differ by at most
twice the bound. -/
theorem Within.drift_le (before : Within bound active clock) (after : Within bound later next)
    {first second : Party} (firstActive : first ∈ active) (secondActive : second ∈ active)
    (firstLater : first ∈ later) (secondLater : second ∈ later) :
    |(next first - clock first) - (next second - clock second)| ≤ bound + bound := by
  have rearranged : (next first - clock first) - (next second - clock second) =
      (next first - next second) + (clock second - clock first) := by abel
  rw [rearranged, abs_le]
  constructor
  · rw [neg_add]
    refine add_le_add ?_ ?_
    · rw [neg_le, neg_sub, sub_le_iff_le_add']
      exact after second secondLater first firstLater
    · rw [neg_le, neg_sub, sub_le_iff_le_add']
      exact before first firstActive second secondActive
  · refine add_le_add ?_ ?_
    · rw [sub_le_iff_le_add']
      exact after first firstLater second secondLater
    · rw [sub_le_iff_le_add']
      exact before second secondActive first firstActive

/-- An active clock is within the bound of the weighted mean of active ones. -/
theorem Within.abs_sub_mean_le {Party Time : Type} [Field Time] [LinearOrder Time]
    [IsStrictOrderedRing Time] {bound : Time} {active : Set Party} {clock weight : Party → Time}
    (within : Within bound active clock) {parties : Finset Party}
    (inside : ∀ party ∈ parties, party ∈ active) (positive : ∀ party ∈ parties, 0 < weight party)
    {party : Party} (member : party ∈ parties) :
    |clock party - (∑ other ∈ parties, weight other * clock other) / ∑ other ∈ parties, weight other|
      ≤ bound := by
  have total : 0 < ∑ other ∈ parties, weight other := Finset.sum_pos positive ⟨party, member⟩
  rw [sub_div' total.ne', abs_div, abs_of_pos total, div_le_iff₀ total, Finset.mul_sum,
    ← Finset.sum_sub_distrib, Finset.mul_sum]
  refine (Finset.abs_sum_le_sum_abs _ _).trans (Finset.sum_le_sum fun other among => ?_)
  rw [mul_comm, ← mul_sub, abs_mul, abs_of_pos (positive other among), mul_comm]
  refine mul_le_mul_of_nonneg_right (abs_sub_le_iff.mpr ⟨?_, ?_⟩) (positive other among).le
  · exact sub_le_iff_le_add'.mpr (within party (inside party member) other (inside other among))
  · exact sub_le_iff_le_add'.mpr (within other (inside other among) party (inside party member))

end VirtualTime

end Omnitensor
