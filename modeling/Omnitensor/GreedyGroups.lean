/-
This file develops the grouping of a sequence by a greedy loop.

The loop adds each element to the group at hand as long as it fits there, and otherwise begins the next
group with it; so an element that fits nowhere is a group of its own. If a part of what fits fits as
well, no other grouping has fewer groups. The loop gives the one grouping in which no group has room
for the element after it.
-/

import Mathlib.Data.List.Chain
import Mathlib.Tactic.Common

namespace Omnitensor

namespace Grouping

variable {Item : Type} (fits : List Item → Bool)

/-- Add elements to the group at hand as long as they fit. -/
def gather : List Item → List Item → List (List Item)
  | group, [] => if group = [] then [] else [group]
  | group, item :: items =>
    if group ≠ [] ∧ fits (group ++ [item]) = false then group :: gather [item] items
    else gather (group ++ [item]) items

/-- A sequence in groups, one after another, each of which fits or is one element. -/
structure Groups (items : List Item) (groups : List (List Item)) : Prop where
  whole : groups.flatten = items
  filled : ∀ group ∈ groups, group ≠ []
  admitted : ∀ group ∈ groups, fits group = true ∨ ∃ item, group = [item]

/-- No group has room for the element after it. -/
def Full : List (List Item) → Prop :=
  List.IsChain fun group next => ∀ item ∈ next.head?, fits (group ++ [item]) = false

variable {fits} {items group : List Item} {groups : List (List Item)}

theorem groups_gather (admitted : fits group = true ∨ group.length ≤ 1) :
    Groups fits (group ++ items) (gather fits group items) := by
  induction items generalizing group with
  | nil =>
    rw [gather, List.append_nil]
    split
    · rename_i empty
      rw [empty]
      exact ⟨rfl, fun _ member => absurd member List.not_mem_nil,
        fun _ member => absurd member List.not_mem_nil⟩
    · rename_i filled
      refine ⟨List.flatten_singleton, List.forall_mem_singleton.mpr filled,
        List.forall_mem_singleton.mpr (admitted.imp_right fun short => ?_)⟩
      exact List.length_eq_one_iff.mp (Nat.le_antisymm short (List.length_pos_iff.mpr filled))
  | cons item items inductionHypothesis =>
    rw [gather]
    split
    · rename_i full
      have rest := @inductionHypothesis [item] (Or.inr (Nat.le_refl 1))
      refine ⟨by rw [List.flatten_cons, rest.whole, List.singleton_append],
        List.forall_mem_cons.mpr ⟨full.1, rest.filled⟩,
        List.forall_mem_cons.mpr ⟨admitted.imp_right fun short => ?_, rest.admitted⟩⟩
      exact List.length_eq_one_iff.mp (Nat.le_antisymm short (List.length_pos_iff.mpr full.1))
    · rename_i room
      rw [List.append_cons]
      refine inductionHypothesis ?_
      rcases eq_or_ne group [] with rfl | filled
      · exact Or.inr (Nat.le_refl 1)
      · left
        by_contra refused
        exact room ⟨filled, Bool.eq_false_iff.mpr refused⟩

/-- What the loop makes of a sequence is a grouping. -/
theorem groups_gather_nil : Groups fits items (gather fits [] items) :=
  @groups_gather _ fits items [] (Or.inr (Nat.zero_le 1))

/-! ### The fewest groups -/

/-- A part of what fits fits. -/
def Hereditary (fits : List Item → Bool) : Prop :=
  ∀ before part after, part ≠ [] → fits (before ++ part ++ after) = true → fits part = true

/-- A grouping whose first group began no later than the group at hand has no fewer groups. -/
theorem length_gather_le_of_earlier (hereditary : Hereditary fits) {before : List Item}
    (filled : group ≠ []) (grouping : Groups fits (before ++ group ++ items) groups) :
    (gather fits group items).length ≤ groups.length := by
  induction items generalizing before group groups with
  | nil =>
    rw [gather, if_neg filled]
    refine List.length_pos_iff.mpr fun empty => filled ?_
    have whole := grouping.whole
    rw [empty, List.append_nil] at whole
    exact (List.append_eq_nil_iff.mp whole.symm).2
  | cons item items inductionHypothesis =>
    rw [gather]
    split
    · rename_i full
      cases groups with
      | nil =>
        have whole := grouping.whole
        exact absurd (congrArg List.length whole) (by
          rw [List.flatten_nil, List.length_append, List.length_cons, List.length_nil]
          exact (Nat.succ_ne_zero _).symm)
      | cons first others =>
        obtain ⟨firstFilled, othersFilled⟩ := List.forall_mem_cons.mp grouping.filled
        obtain ⟨firstAdmitted, othersAdmitted⟩ := List.forall_mem_cons.mp grouping.admitted
        have whole := grouping.whole
        rw [List.flatten_cons] at whole
        -- the first group ends before the element that the group at hand has no room for
        obtain ⟨begun, rest, joined⟩ : ∃ begun, first ++ begun = before ++ group ∧
            others.flatten = begun ++ item :: items := by
          rcases List.append_eq_append_iff.mp whole with ⟨begun, ends, rest⟩ | ⟨more, ends, rest⟩
          · exact ⟨begun, ends.symm, rest⟩
          · cases more with
            | nil => exact ⟨[], by rw [List.append_nil, ends, List.append_nil], rest.symm⟩
            | cons next more =>
              obtain ⟨rfl, _⟩ := List.cons.inj (rest.trans rfl)
              rcases firstAdmitted with fit | ⟨single, alone⟩
              · rw [ends, List.append_cons, List.append_assoc before] at fit
                exact absurd (hereditary before _ more (by simp) fit) (Bool.eq_false_iff.mp full.2)
              · have length := congrArg List.length (ends.symm.trans alone)
                have size := List.length_pos_iff.mpr full.1
                simp only [List.length_append, List.length_cons, List.length_nil] at length
                omega
        rw [List.length_cons, List.length_cons]
        refine Nat.succ_le_succ (@inductionHypothesis _ _ begun (List.cons_ne_nil _ _)
          ⟨?_, othersFilled, othersAdmitted⟩)
        rw [joined, List.append_assoc, List.singleton_append]
    · rw [List.append_cons, List.append_assoc before] at grouping
      exact inductionHypothesis (List.append_ne_nil_of_right_ne_nil _ (List.cons_ne_nil _ _)) grouping

/-- No other grouping has fewer groups. -/
theorem length_gather_le (hereditary : Hereditary fits) (grouping : Groups fits items groups) :
    (gather fits [] items).length ≤ groups.length := by
  cases items with
  | nil => exact Nat.zero_le _
  | cons item items =>
    rw [gather, if_neg (fun full => full.1 rfl)]
    exact @length_gather_le_of_earlier _ _ _ _ _ hereditary [] (List.cons_ne_nil _ _) grouping

/-- A grouping that has no more groups than any other. -/
structure Fewest (fits : List Item → Bool) (items : List Item) (groups : List (List Item)) : Prop
    extends Groups fits items groups where
  fewest : ∀ other, Groups fits items other → groups.length ≤ other.length

theorem fewest_gather (hereditary : Hereditary fits) : Fewest fits items (gather fits [] items) :=
  ⟨groups_gather_nil, fun _ => length_gather_le hereditary⟩

/-! ### The only full grouping -/

theorem head?_gather (filled : group ≠ []) :
    ∃ more others, gather fits group items = (group ++ more) :: others := by
  induction items generalizing group with
  | nil => exact ⟨[], [], by rw [gather, if_neg filled, List.append_nil]⟩
  | cons item items inductionHypothesis =>
    rw [gather]
    split
    · exact ⟨[], _, by rw [List.append_nil]⟩
    · obtain ⟨more, others, same⟩ := @inductionHypothesis (group ++ [item])
        (List.append_ne_nil_of_right_ne_nil _ (List.cons_ne_nil _ _))
      exact ⟨item :: more, others, by rw [same, List.append_assoc, List.singleton_append]⟩

theorem full_gather : Full fits (gather fits group items) := by
  induction items generalizing group with
  | nil =>
    rw [gather]
    split
    · exact List.isChain_nil
    · exact List.isChain_singleton _
  | cons item items inductionHypothesis =>
    rw [gather]
    split
    · rename_i full
      obtain ⟨more, others, same⟩ := @head?_gather _ fits items [item] (List.cons_ne_nil _ _)
      have rest := @inductionHypothesis [item]
      rw [same] at rest ⊢
      exact List.isChain_cons_cons.mpr ⟨fun next head => by cases head; exact full.2, rest⟩
    · exact inductionHypothesis

theorem Groups.tail {first : List Item} {others : List (List Item)}
    (grouping : Groups fits items (first :: others)) : Groups fits others.flatten others :=
  ⟨rfl, (List.forall_mem_cons.mp grouping.filled).2, (List.forall_mem_cons.mp grouping.admitted).2⟩

theorem Groups.eq_nil (grouping : Groups fits [] groups) : groups = [] :=
  List.eq_nil_iff_forall_not_mem.mpr fun group member =>
    grouping.filled group member (List.flatten_eq_nil_iff.mp grouping.whole group member)

/-- A full grouping whose first group begins with the group at hand is what the loop makes of the rest. -/
theorem eq_gather_of_full_of_begun (hereditary : Hereditary fits) {more : List Item}
    {others : List (List Item)} (filled : group ≠ [])
    (grouping : Groups fits (group ++ items) ((group ++ more) :: others))
    (full : Full fits ((group ++ more) :: others)) :
    (group ++ more) :: others = gather fits group items := by
  have rest : more ++ others.flatten = items := by
    have whole := grouping.whole
    rwa [List.flatten_cons, List.append_assoc, List.append_right_inj] at whole
  induction items generalizing group more others with
  | nil =>
    obtain ⟨rfl, none⟩ := List.append_eq_nil_iff.mp rest
    have empty := Groups.eq_nil (none ▸ grouping.tail)
    rw [gather, if_neg filled, empty, List.append_nil]
  | cons item items inductionHypothesis =>
    rw [gather]
    cases more with
    | nil =>
      have following := grouping.tail
      rw [List.nil_append] at rest
      rw [rest] at following
      cases others with
      | nil => cases rest
      | cons next others =>
        obtain ⟨chain, fullRest⟩ := List.isChain_cons_cons.mp full
        cases next with
        | nil => exact absurd rfl (following.filled [] List.mem_cons_self)
        | cons first more =>
          rw [List.flatten_cons, List.cons_append] at rest
          obtain ⟨rfl, tail⟩ := List.cons.inj rest
          rw [List.append_nil] at chain ⊢
          rw [if_pos ⟨filled, chain first rfl⟩]
          exact congrArg (group :: ·)
            (@inductionHypothesis [first] _ _ (List.cons_ne_nil _ _) following fullRest tail)
    | cons first more =>
      rw [List.cons_append] at rest
      obtain ⟨rfl, tail⟩ := List.cons.inj rest
      have room : fits (group ++ [first]) = true := by
        rcases grouping.admitted _ List.mem_cons_self with fit | ⟨single, alone⟩
        · rw [List.append_cons] at fit
          exact hereditary [] (group ++ [first]) more (by simp) fit
        · have length := congrArg List.length alone
          have size := List.length_pos_iff.mpr filled
          simp only [List.length_append, List.length_cons, List.length_nil] at length
          omega
      rw [if_neg (fun refused => Bool.false_ne_true (refused.2.symm.trans room))]
      rw [List.append_cons group first more] at grouping full ⊢
      rw [List.append_cons group first items] at grouping
      exact inductionHypothesis (List.append_ne_nil_of_right_ne_nil _ (List.cons_ne_nil _ _))
        grouping full tail

/-- A full grouping is what the loop gives. -/
theorem eq_gather_of_full (hereditary : Hereditary fits) (grouping : Groups fits items groups)
    (full : Full fits groups) : groups = gather fits [] items := by
  cases items with
  | nil => exact grouping.eq_nil
  | cons item items =>
    rw [gather, if_neg (fun refused => refused.1 rfl)]
    have rest := grouping.whole
    cases groups with
    | nil => cases rest
    | cons first others =>
      cases first with
      | nil => exact absurd rfl (grouping.filled [] List.mem_cons_self)
      | cons head more =>
        rw [List.flatten_cons, List.cons_append] at rest
        obtain ⟨rfl, _⟩ := List.cons.inj rest
        exact @eq_gather_of_full_of_begun _ _ _ [head] hereditary _ _ (List.cons_ne_nil _ _) grouping full

end Grouping

end Omnitensor
