/-
This file develops the first items that a test accepts, up to a limit.

They repeat nothing exactly when an accepted item comes again only after as many accepted ones as the limit. An
accepted item is not among them exactly when it comes after the last of them and is none of those before.
-/

import Mathlib.Data.List.Induction
import Mathlib.Data.List.Nodup
import Mathlib.Order.Nat

namespace Omnitensor

namespace AcceptedPrefix

variable {Item : Type}

/-! ### Places in a list -/

variable {items before after : List Item} {item : Item}

/-- An item of a list with one more item at its end is the last one or comes before. -/
theorem concat_eq_append_cons_iff {last : Item} :
    items ++ [last] = before ++ item :: after ↔
      (∃ rest, after = rest ++ [last] ∧ items = before ++ item :: rest) ∨
        after = [] ∧ item = last ∧ before = items := by
  constructor
  · intro same
    rcases List.eq_nil_or_concat after with rfl | ⟨rest, other, rfl⟩
    · obtain ⟨first, second⟩ := List.append_inj' same rfl
      exact .inr ⟨rfl, (List.head_eq_of_cons_eq second).symm, first.symm⟩
    · rw [List.concat_eq_append, ← List.cons_append, ← List.append_assoc] at same
      obtain ⟨first, second⟩ := List.append_inj' same rfl
      refine .inl ⟨rest, ?_, first⟩
      rw [List.concat_eq_append, List.head_eq_of_cons_eq second]
  · rintro (⟨rest, rfl, rfl⟩ | ⟨rfl, rfl, rfl⟩)
    · rw [← List.cons_append, List.append_assoc]
    · rfl

/-- An item of one list after another is an item of one of them. -/
theorem flatMap_eq_append_cons_iff {Source : Type} {sources : List Source}
    {produce : Source → List Item} :
    sources.flatMap produce = before ++ item :: after ↔
      ∃ earlier source later first rest, sources = earlier ++ source :: later ∧
        produce source = first ++ item :: rest ∧ before = earlier.flatMap produce ++ first ∧
          after = rest ++ later.flatMap produce := by
  constructor
  · intro same
    induction sources generalizing before with
    | nil => exact absurd same.symm (List.append_ne_nil_of_right_ne_nil _ (List.cons_ne_nil _ _))
    | cons source sources inductionHypothesis =>
      rw [List.flatMap_cons, List.append_eq_append_iff] at same
      rcases same with ⟨between, rfl, others⟩ | ⟨between, produced, following⟩
      · obtain ⟨earlier, other, later, first, rest, rfl, produced, rfl, rfl⟩ := inductionHypothesis others
        refine ⟨source :: earlier, other, later, first, rest, rfl, produced, ?_, rfl⟩
        rw [List.flatMap_cons, List.append_assoc]
      · cases between with
        | nil =>
          rw [List.nil_append] at following
          obtain ⟨earlier, other, later, first, rest, rfl, inside, none, rfl⟩ :=
            @inductionHypothesis [] following.symm
          refine ⟨source :: earlier, other, later, first, rest, rfl, inside, ?_, rfl⟩
          rw [List.flatMap_cons, List.append_assoc, ← none, produced, List.append_nil, List.append_nil]
        | cons head between =>
          rw [List.cons_append, List.cons_eq_cons] at following
          obtain ⟨rfl, rfl⟩ := following
          exact ⟨[], source, sources, before, between, rfl, produced, rfl, rfl⟩
  · rintro ⟨earlier, source, later, first, rest, rfl, produced, rfl, rfl⟩
    rw [List.flatMap_append, List.flatMap_cons, produced, List.append_assoc, List.append_assoc,
      List.cons_append]

/-! ### The first accepted items -/

variable {accept : Item → Bool} {limit : Nat}

/-- Where the limit is reached, the first accepted items are those before. -/
theorem take_filter_append (full : (before.filter accept).length = limit) (after : List Item) :
    ((before ++ after).filter accept).take limit = before.filter accept := by
  rw [List.filter_append, List.take_append_of_le_length full.ge, ← full, List.take_length]

/-- A list with as many accepted items as the limit has a beginning with exactly as many. -/
theorem exists_full (enough : limit ≤ (items.filter accept).length) :
    ∃ before after : List Item, items = before ++ after ∧ (before.filter accept).length = limit := by
  induction items generalizing limit with
  | nil => exact ⟨[], [], rfl, (Nat.le_zero.mp enough).symm⟩
  | cons item items inductionHypothesis =>
    cases limit with
    | zero => exact ⟨[], item :: items, rfl, rfl⟩
    | succ limit =>
      by_cases accepted : accept item
      · rw [List.filter_cons_of_pos accepted, List.length_cons, Nat.add_le_add_iff_right] at enough
        obtain ⟨before, after, rfl, full⟩ := inductionHypothesis enough
        refine ⟨item :: before, after, rfl, ?_⟩
        rw [List.filter_cons_of_pos accepted, List.length_cons, full]
      · rw [List.filter_cons_of_neg accepted] at enough
        obtain ⟨before, after, rfl, full⟩ := inductionHypothesis enough
        refine ⟨item :: before, after, rfl, ?_⟩
        rw [List.filter_cons_of_neg accepted, full]

/-- An item follows as many accepted ones as the limit. -/
def Exceeds (accept : Item → Bool) (limit : Nat) (items : List Item) : Prop :=
  ∃ before item after, items = before ++ item :: after ∧ limit ≤ (before.filter accept).length

theorem not_exceeds_nil : ¬Exceeds accept limit ([] : List Item) :=
  fun ⟨_, _, _, same, _⟩ => absurd same.symm (List.append_ne_nil_of_right_ne_nil _ (List.cons_ne_nil _ _))

theorem exceeds_zero (item : Item) (items : List Item) : Exceeds accept 0 (item :: items) :=
  ⟨[], item, items, rfl, Nat.zero_le _⟩

theorem exceeds_cons : Exceeds accept (limit + 1) (item :: items) ↔
    Exceeds accept (if accept item then limit else limit + 1) items := by
  constructor
  · rintro ⟨before, other, after, same, enough⟩
    cases before with
    | nil => exact absurd enough (Nat.not_succ_le_zero limit)
    | cons head before =>
      obtain ⟨rfl, rfl⟩ := List.cons_eq_cons.mp same
      refine ⟨before, other, after, rfl, ?_⟩
      rw [List.filter_cons] at enough
      split at enough
      · rwa [if_pos ‹_›, ← Nat.add_le_add_iff_right]
      · rwa [if_neg ‹_›]
  · rintro ⟨before, other, after, rfl, enough⟩
    refine ⟨item :: before, other, after, rfl, ?_⟩
    rw [List.filter_cons]
    split at enough
    · rw [if_pos ‹_›]
      exact Nat.succ_le_succ enough
    · rwa [if_neg ‹_›]

/-- The limit is exceeded if and only if something comes after a beginning that reaches it exactly. -/
theorem exceeds_iff :
    Exceeds accept limit items ↔
      ∃ before after : List Item, items = before ++ after ∧ (before.filter accept).length = limit ∧ after ≠ [] := by
  constructor
  · rintro ⟨before, item, after, rfl, enough⟩
    obtain ⟨first, rest, rfl, full⟩ := exists_full enough
    refine ⟨first, rest ++ item :: after, List.append_assoc _ _ _, full, ?_⟩
    exact List.append_ne_nil_of_right_ne_nil _ (List.cons_ne_nil _ _)
  · rintro ⟨before, after, rfl, full, filled⟩
    obtain ⟨item, rest, rfl⟩ := List.exists_cons_of_ne_nil filled
    exact ⟨before, item, rest, rfl, full.ge⟩

/-- An accepted item is left out if and only if it comes after the limit is reached, and not before as well. -/
theorem leftOut_iff :
    (item ∈ items ∧ accept item ∧ item ∉ (items.filter accept).take limit) ↔
      ∃ before after : List Item, items = before ++ after ∧ (before.filter accept).length = limit ∧ item ∈ after ∧
        accept item ∧ item ∉ before := by
  constructor
  · rintro ⟨member, accepted, leftOut⟩
    have among : item ∈ items.filter accept := List.mem_filter.mpr ⟨member, accepted⟩
    have enough : limit ≤ (items.filter accept).length := by
      by_contra few
      rw [List.take_of_length_le (Nat.le_of_not_le few)] at leftOut
      exact leftOut among
    obtain ⟨before, after, rfl, full⟩ := exists_full enough
    rw [take_filter_append full] at leftOut
    have notBefore : item ∉ before := fun earlier => leftOut (List.mem_filter.mpr ⟨earlier, accepted⟩)
    exact ⟨before, after, rfl, full, (List.mem_append.mp member).resolve_left notBefore, accepted, notBefore⟩
  · rintro ⟨before, after, rfl, full, later, accepted, notBefore⟩
    refine ⟨List.mem_append_right _ later, accepted, ?_⟩
    rw [take_filter_append full]
    exact fun earlier => notBefore (List.mem_filter.mp earlier).1

/-- The first accepted items repeat nothing if and only if an accepted item that came before comes again only
after as many accepted ones as the limit. -/
theorem nodup_take_filter_iff :
    ((items.filter accept).take limit).Nodup ↔
      ∀ before item after, items = before ++ item :: after → accept item → item ∈ before →
        limit ≤ (before.filter accept).length := by
  induction items using List.reverseRecOn with
  | nil =>
    refine ⟨fun _ before item after same => ?_, fun _ => List.nodup_nil.sublist (List.take_sublist _ _)⟩
    exact absurd same.symm (List.append_ne_nil_of_right_ne_nil _ (List.cons_ne_nil _ _))
  | append_singleton items last inductionHypothesis =>
    have places : (∀ before item after, items ++ [last] = before ++ item :: after → accept item →
        item ∈ before → limit ≤ (before.filter accept).length) ↔
        (∀ before item after, items = before ++ item :: after → accept item → item ∈ before →
          limit ≤ (before.filter accept).length) ∧
          (accept last → last ∈ items → limit ≤ (items.filter accept).length) := by
      simp only [concat_eq_append_cons_iff]
      constructor
      · intro every
        refine ⟨fun before item after same => every before item _ (.inl ⟨after, rfl, same⟩), ?_⟩
        exact every items last [] (.inr ⟨rfl, rfl, rfl⟩)
      · rintro ⟨every, final⟩ before item after (⟨rest, rfl, same⟩ | ⟨rfl, rfl, rfl⟩)
        · exact every before item rest same
        · exact final
    rw [places, ← inductionHypothesis, List.filter_append]
    by_cases accepted : accept last
    · rw [List.filter_cons_of_pos accepted, List.filter_nil]
      rcases Nat.lt_or_ge (items.filter accept).length limit with space | full
      · have all : (items.filter accept ++ [last]).length ≤ limit := by
          rw [List.length_append, List.length_singleton]
          exact space
        rw [List.take_of_length_le all, List.take_of_length_le space.le, List.nodup_append_comm,
          List.singleton_append, List.nodup_cons, List.mem_filter, and_comm]
        refine and_congr_right fun _ => ⟨fun new _ old => absurd ⟨old, accepted⟩ new, fun fresh old => ?_⟩
        exact absurd (fresh accepted old.1) (Nat.not_le_of_lt space)
      · rw [List.take_append_of_le_length full]
        exact ⟨fun once => ⟨once, fun _ _ => full⟩, And.left⟩
    · rw [List.filter_cons_of_neg accepted, List.filter_nil, List.append_nil]
      exact ⟨fun once => ⟨once, fun holds => absurd holds accepted⟩, And.left⟩

end AcceptedPrefix

end Omnitensor
