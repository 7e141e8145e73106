/-
This file develops the replacement of every occurrence of a word in a sequence.

Occurrences are replaced from the left and do not overlap. What is put in their place stands between two
brackets; so a word without brackets occurs afterwards only between them, or where it occurred before and no
occurrence of the replaced word was beside it. Words that are replaced one after another all are gone in the
end.
-/

import Mathlib.Data.List.Infix
import Mathlib.Tactic.Common

namespace Omnitensor

namespace Replacement

variable {Item : Type}

section

variable [DecidableEq Item] (old new : List Item)

/-- Replace the occurrences of a word after some items that are left out. -/
def replaceAfter : Nat → List Item → List Item
  | _, [] => []
  | skip + 1, _ :: text => replaceAfter skip text
  | 0, item :: text =>
    if old.isPrefixOf (item :: text) then new ++ replaceAfter (old.length - 1) text
    else item :: replaceAfter 0 text

/-- Replace the occurrences of a word that is not empty. -/
def replace (text : List Item) : List Item := replaceAfter old new 0 text

variable {old new} {text : List Item}

theorem replaceAfter_eq (skip : Nat) (text : List Item) :
    replaceAfter old new skip text = replace old new (text.drop skip) := by
  induction text generalizing skip with
  | nil => rw [List.drop_nil]; cases skip <;> rfl
  | cons item text inductionHypothesis =>
    cases skip with
    | zero => rfl
    | succ skip =>
      rw [replaceAfter, List.drop_succ_cons]
      exact inductionHypothesis skip

theorem replace_nil : replace old new [] = [] := rfl

theorem replace_append (filled : old ≠ []) (text : List Item) :
    replace old new (old ++ text) = new ++ replace old new text := by
  cases old with
  | nil => exact absurd rfl filled
  | cons item old =>
    rw [replace, List.cons_append, replaceAfter, if_pos, replaceAfter_eq, List.length_cons, Nat.add_sub_cancel,
      List.drop_left]
    rw [List.isPrefixOf_iff_prefix]
    exact List.prefix_append (item :: old) text

theorem replace_cons {item : Item} (begins : ¬ old <+: item :: text) :
    replace old new (item :: text) = item :: replace old new text := by
  rw [replace, replaceAfter, if_neg (mt List.isPrefixOf_iff_prefix.mp begins)]
  rfl

end

/-! ### Occurrences -/

variable {old word inside text before after : List Item} {opening closing mark : Item}

/-- A word without a mark occurs on one side of it. -/
theorem infix_append_cons (unmarked : mark ∉ word) :
    word <:+: before ++ mark :: after ↔ word <:+: before ∨ word <:+: after := by
  constructor
  · intro found
    rcases List.infix_append_iff.mp found with first | second | ⟨ends, begins, rfl, ending, beginning⟩
    · exact Or.inl first
    · rcases List.infix_cons_iff.mp second with starts | later
      · cases word with
        | nil => exact Or.inl List.nil_infix
        | cons item word =>
          obtain ⟨rfl, _⟩ := List.cons_prefix_cons.mp starts
          exact absurd List.mem_cons_self unmarked
      · exact Or.inr later
    · cases begins with
      | nil =>
        rw [List.append_nil]
        exact Or.inl ending.isInfix
      | cons item begins =>
        obtain ⟨rfl, _⟩ := List.cons_prefix_cons.mp beginning
        exact absurd (List.mem_append_right ends List.mem_cons_self) unmarked
  · rintro (first | second)
    · exact List.infix_append_of_infix_left first
    · exact List.infix_append_of_infix_right (List.infix_cons second)

variable [DecidableEq Item]

/-- Where a word without brackets occurs after a replacement, when no occurrence began yet. -/
theorem infix_of_infix_append_replace (unopened : opening ∉ word) (unclosed : closing ∉ word)
    (filled : old ≠ [])
    (unmet : ∀ first last, before ++ text = first ++ (old ++ last) → before.length ≤ first.length)
    (found : word <:+: before ++ replace old (opening :: (inside ++ [closing])) text) :
    word <:+: inside ∨ ∃ piece, piece <:+: before ++ text ∧ ¬ old <:+: piece ∧ word <:+: piece := by
  -- what precedes the first occurrence holds none
  have piece : ¬ old <:+: before := by
    rintro ⟨first, last, rfl⟩
    have later := unmet first (last ++ text) (by simp only [List.append_assoc])
    have size := List.length_pos_iff.mpr filled
    simp only [List.length_append] at later
    omega
  induction length : text.length using Nat.strong_induction_on generalizing before text with
  | _ total inductionHypothesis =>
    cases text with
    | nil =>
      rw [replace_nil] at found
      exact Or.inr ⟨before ++ [], List.infix_rfl, by rwa [List.append_nil], found⟩
    | cons item text =>
      by_cases begins : old <+: item :: text
      · obtain ⟨rest, same⟩ := begins
        rw [← same, replace_append filled, List.cons_append, List.append_assoc, List.singleton_append,
          infix_append_cons unopened, infix_append_cons unclosed] at found
        rcases found with first | middle | last
        · exact Or.inr ⟨before, List.infix_append_left, piece, first⟩
        · exact Or.inl middle
        · have size := List.length_pos_iff.mpr filled
          have shorter : rest.length < total := by
            have lengths := congrArg List.length same
            rw [List.length_append, length] at lengths
            omega
          have none : ¬ old <:+: [] := fun empty => filled (List.infix_nil.mp empty)
          rcases inductionHypothesis rest.length shorter (fun _ _ _ => Nat.zero_le _) last none rfl with
            middle | ⟨part, among, free, holds⟩
          · exact Or.inl middle
          · refine Or.inr ⟨part, among.trans ?_, free, holds⟩
            rw [← same]
            exact ⟨before ++ old, [], by simp only [List.append_assoc, List.nil_append, List.append_nil]⟩
      · rw [replace_cons begins, List.append_cons] at found
        rw [List.append_cons]
        have unmet' : ∀ first last, before ++ [item] ++ text = first ++ (old ++ last) →
            (before ++ [item]).length ≤ first.length := by
          intro first last same
          rw [← List.append_cons] at same
          have early := unmet first last same
          rw [List.length_append, List.length_singleton]
          refine Nat.succ_le_of_lt (lt_of_le_of_ne early fun equal => begins ?_)
          exact ⟨last, ((List.append_inj same equal).2).symm⟩
        refine inductionHypothesis text.length (by rw [← length]; exact Nat.lt_succ_self _) unmet' found ?_ rfl
        rintro ⟨first, last, same⟩
        have late := unmet' first (last ++ text) (by rw [← same]; simp only [List.append_assoc])
        have lengths := congrArg List.length same
        have size := List.length_pos_iff.mpr filled
        simp only [List.length_append] at late lengths
        omega

/-- A word without brackets occurs after a replacement between them, or where it occurred before beside no
occurrence of what was replaced. -/
theorem infix_of_infix_replace (unopened : opening ∉ word) (unclosed : closing ∉ word) (filled : old ≠ [])
    (found : word <:+: replace old (opening :: (inside ++ [closing])) text) :
    word <:+: inside ∨ ∃ piece, piece <:+: text ∧ ¬ old <:+: piece ∧ word <:+: piece :=
  @infix_of_infix_append_replace _ old word inside text [] opening closing _ unopened unclosed filled
    (fun _ _ _ => Nat.zero_le _) found

/-- Replace words, one after another. -/
def replaceAll (new : List Item) (words : List (List Item)) (text : List Item) : List Item :=
  words.foldl (fun text word => replace word new text) text

/-- A word that can be replaced for good: it is not empty, has no brackets and is not put in by a
replacement. -/
structure Replaceable (opening closing : Item) (inside word : List Item) : Prop where
  filled : word ≠ []
  unopened : opening ∉ word
  unclosed : closing ∉ word
  fresh : ¬ word <:+: inside

/-- Words that were replaced, one after another, occur no more. -/
theorem not_infix_replaceAll {words : List (List Item)}
    (replaceable : ∀ word ∈ words, Replaceable opening closing inside word) (text : List Item) :
    ∀ word ∈ words, ¬ word <:+: replaceAll (opening :: (inside ++ [closing])) words text := by
  -- a word that does not occur does not come back
  have kept : ∀ (words : List (List Item)) (text word : List Item),
      (∀ other ∈ words, Replaceable opening closing inside other) →
      Replaceable opening closing inside word → ¬ word <:+: text →
      ¬ word <:+: replaceAll (opening :: (inside ++ [closing])) words text := by
    intro words
    induction words with
    | nil => exact fun _ _ _ _ absent => absent
    | cons other words inductionHypothesis =>
      intro text word all own absent
      obtain ⟨first, rest⟩ := List.forall_mem_cons.mp all
      refine inductionHypothesis _ word rest own fun found => ?_
      rcases infix_of_infix_replace own.unopened own.unclosed first.filled found with
        middle | ⟨piece, among, _, holds⟩
      · exact own.fresh middle
      · exact absent (holds.trans among)
  induction words generalizing text with
  | nil => exact fun _ member => absurd member List.not_mem_nil
  | cons word words inductionHypothesis =>
    obtain ⟨own, rest⟩ := List.forall_mem_cons.mp replaceable
    refine List.forall_mem_cons.mpr ⟨kept words _ word rest own fun found => ?_, inductionHypothesis rest _⟩
    rcases infix_of_infix_replace own.unopened own.unclosed own.filled found with
      middle | ⟨piece, _, free, holds⟩
    · exact own.fresh middle
    · exact free holds

end Replacement

end Omnitensor
