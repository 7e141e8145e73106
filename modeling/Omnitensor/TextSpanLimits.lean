/-
This file says what the spans of a document are.

They divide the document: nothing is lost, and none is empty. A span over the limit is the whole
document, which no pattern cuts into parts that all fit; it may well hold parts that do. A span under
the limit is estimated within the budget unless the budget is a multiple of five tokens, the limit has no
rounding then, and the span is exactly as long as it.
-/

import Omnitensor.TextSpans

namespace Omnitensor

namespace Spans

variable {ratios : TokenRatios} {text : PyString} {limit budget : Nat}

/-- The pieces of a text, of which an empty one has none. -/
def piecesOf (text : PyString) (limit : Nat) : List PyString :=
  if text = [] then [] else splitToLimit text limit

theorem split_eq (positive : 1 ≤ budget) :
    split ratios text budget = .ok (placed 0 0 (piecesOf text (ratios.characters budget))) := by
  rw [split, if_neg (Nat.not_lt_of_le positive), piecesOf]
  split
  · rfl
  · rename_i filled
    exact spansFrom_eq (by rw [List.drop_zero, (pieces_splitToLimit filled).whole])

theorem split_eq_ok {spans : List Span} :
    split ratios text budget = .ok spans ↔
      1 ≤ budget ∧ placed 0 0 (piecesOf text (ratios.characters budget)) = spans := by
  constructor
  · intro ran
    have positive : 1 ≤ budget := by
      by_contra none
      rw [split, if_pos (not_le.mp none)] at ran
      cases ran
    rw [split_eq positive] at ran
    exact ⟨positive, Except.ok.inj ran⟩
  · rintro ⟨positive, rfl⟩
    exact split_eq positive

/-- What holds of the texts of all spans holds of all pieces. -/
theorem forall_spans_iff {holds : PyString → Prop} :
    (∀ spans, split ratios text budget = .ok spans → ∀ span ∈ spans, holds span.text) ↔
      (1 ≤ budget → ∀ piece ∈ piecesOf text (ratios.characters budget), holds piece) := by
  have same : ∀ pieces : List PyString,
      (∀ span ∈ placed 0 0 pieces, holds span.text) ↔ ∀ piece ∈ pieces, holds piece := by
    intro pieces
    rw [← List.forall_mem_map, map_text_placed]
  constructor
  · exact fun every positive => (same _).mp (every _ (split_eq positive))
  · intro every spans ran
    obtain ⟨positive, rfl⟩ := split_eq_ok.mp ran
    exact (same _).mpr (every positive)

/-! ### Nothing is lost -/

/-- Splitting divides the text into spans, whatever the budget, so long as it is a token: they are
numbered from zero, follow one another without a gap, none of them is empty, and joined they are the text.
-/
theorem split_divides (positive : 1 ≤ budget) :
    ∃ spans, split ratios text budget = .ok spans ∧ Divided text spans := by
  refine ⟨_, split_eq positive, divided_placed ?_⟩
  rw [piecesOf]
  split
  · rename_i empty
    exact ⟨empty.symm, fun _ member => absurd member List.not_mem_nil⟩
  · rename_i filled
    exact pieces_splitToLimit filled

theorem split_divides_repeated :
    ∃ spans, split .exact (.ofString "a a a.\n\na a a.\n\n") 4 = .ok spans ∧
      Divided (.ofString "a a a.\n\na a a.\n\n") spans :=
  split_divides (by decide)

/-! ### Over the limit -/

/-- No white space of a text has anything else after it. -/
def Unbreakable (text : PyString) : Prop :=
  ∀ before point after, text = before ++ point :: after → PyString.space point = true →
    ∀ later ∈ after, PyString.space later = true

/-- The pieces are under the limit, unless the text is over it and no pattern fits. -/
theorem forall_pieces_iff {holds : PyString → Prop} :
    (∀ piece ∈ piecesOf text limit, limit < piece.length → holds piece) ↔
      text.length ≤ limit ∨ holds text ∨ ∃ boundary ∈ boundaries, Fitting text limit boundary := by
  by_cases short : text.length ≤ limit
  · refine iff_of_true (fun piece member exceeds => ?_) (Or.inl short)
    rw [piecesOf] at member
    split at member
    · cases member
    · rw [splitToLimit_eq, if_pos short, List.mem_singleton] at member
      exact absurd exceeds (not_lt.mpr (member ▸ short))
  have filled : text ≠ [] := by
    rintro rfl
    exact short (Nat.zero_le _)
  rw [piecesOf, if_neg filled, splitToLimit_eq, if_neg short]
  cases found : coarsest text limit with
  | none =>
    have none : ¬ ∃ boundary ∈ boundaries, Fitting text limit boundary := by
      rintro ⟨boundary, member, fitting⟩
      exact List.find?_eq_none.mp found boundary member (decide_eq_true fitting)
    rw [Option.map_none, Option.getD_none, List.forall_mem_singleton]
    simp only [short, none, false_or, or_false, not_le.mp short, forall_const]
  | some boundary =>
    have fitting := fitting_of_coarsest found
    refine iff_of_true (fun piece member exceeds => ?_)
      (Or.inr (Or.inr ⟨boundary, List.mem_of_find?_eq_some found, fitting⟩))
    obtain ⟨group, isGroup, rfl⟩ := List.mem_map.mp member
    exact absurd (length_le_of_fitting fitting group isGroup) (not_le.mpr exceeds)

/-- A span over the limit cannot be cut at white space, exactly if the text fits, cannot be cut itself,
or is cut by one of the patterns into parts that all fit. -/
theorem unbreakable_iff (ratios : TokenRatios) (text : PyString) (budget : Nat) :
    (∀ spans, split ratios text budget = .ok spans → ∀ span ∈ spans,
      ratios.characters budget < span.text.length → Unbreakable span.text) ↔
      (1 ≤ budget → text.length ≤ ratios.characters budget ∨ Unbreakable text ∨
        ∃ boundary ∈ boundaries, Fitting text (ratios.characters budget) boundary) := by
  refine Iff.trans (@forall_spans_iff ratios text budget fun piece =>
    ratios.characters budget < piece.length → Unbreakable piece) ?_
  exact imp_congr_right fun _ => forall_pieces_iff

/-- Two words, of which the second is over the limit, are one span. -/
theorem not_unbreakable : ∃ spans, split .exact (.ofString "a bcde") 1 = .ok spans ∧
    ∃ span ∈ spans, TokenRatios.exact.characters 1 < span.text.length ∧ ¬ Unbreakable span.text := by
  refine ⟨[⟨0, 0, 6, .ofString "a bcde"⟩], by decide +kernel, _, List.mem_singleton_self _, by decide, ?_⟩
  intro unbreakable
  exact absurd (unbreakable [.scalar 'a'] (.scalar ' ') (PyString.ofString "bcde") rfl (by decide)
    (.scalar 'b') (by decide)) (by decide)

/-! ### Within the budget -/

/-- The parts of a text by the coarsest pattern that fits, put together as long as they are under a
limit. -/
structure Filling (text : PyString) (limit : Nat) (filled : List (List PyString)) : Prop where
  cut : ∃ boundary, coarsest text limit = some boundary ∧
    Grouping.Groups (under limit) (parts boundary text) filled
  full : Grouping.Full (under limit) filled

theorem filling_iff {filled : List (List PyString)} :
    Filling text limit filled ↔
      ∃ boundary, coarsest text limit = some boundary ∧ filled = groups text limit boundary := by
  constructor
  · rintro ⟨⟨boundary, found, grouping⟩, full⟩
    exact ⟨boundary, found, Grouping.eq_gather_of_full hereditary_under grouping full⟩
  · rintro ⟨boundary, found, rfl⟩
    exact ⟨⟨boundary, found, Grouping.groups_gather_nil⟩, Grouping.full_gather⟩

/-- Parts of a text, filled up to a limit, make a piece that is exactly as long as it. -/
def Fills (text : PyString) (limit : Nat) : Prop :=
  text.length = limit ∨
    limit < text.length ∧ ∃ filled, Filling text limit filled ∧ ∃ group ∈ filled, group.flatten.length = limit

theorem fills_iff (positive : 0 < limit) :
    Fills text limit ↔ ∃ piece ∈ piecesOf text limit, piece.length = limit := by
  rw [Fills, piecesOf]
  by_cases empty : text = []
  · subst empty
    rw [if_pos rfl]
    simp only [List.length_nil, List.not_mem_nil, false_and, exists_false, Nat.not_lt_zero, or_false,
      iff_false]
    exact positive.ne
  rw [if_neg empty, splitToLimit_eq]
  by_cases short : text.length ≤ limit
  · simp only [if_pos short, List.mem_singleton, exists_eq_left, not_lt.mpr short, false_and, or_false]
  rw [if_neg short, or_iff_right (fun same => short (Nat.le_of_eq same)), and_iff_right (not_le.mp short)]
  simp only [filling_iff]
  cases coarsest text limit with
  | none =>
    simp only [reduceCtorEq, false_and, exists_false, Option.map_none, Option.getD_none,
      List.mem_singleton, exists_eq_left, false_iff]
    exact fun same => short (Nat.le_of_eq same)
  | some boundary =>
    simp only [Option.some.injEq, Option.map_some, Option.getD_some, List.mem_map]
    constructor
    · rintro ⟨_, ⟨_, rfl, rfl⟩, group, member, same⟩
      exact ⟨_, ⟨group, member, rfl⟩, same⟩
    · rintro ⟨_, ⟨group, member, rfl⟩, same⟩
      exact ⟨_, ⟨boundary, rfl, rfl⟩, group, member, same⟩

/-- A text under the limit of a budget is estimated within it, unless the limit is not rounded and the
text is as long as it. -/
theorem tokens_le_iff (short : text.length ≤ TokenRatios.exact.characters budget) :
    estimateTokens .exact text ≤ budget ↔
      ¬ (5 ∣ budget ∧ text.length = TokenRatios.exact.characters budget) := by
  change text.length * 5 / 13 + 1 ≤ budget ↔ ¬ (5 ∣ budget ∧ text.length = budget * 13 / 5)
  change text.length ≤ budget * 13 / 5 at short
  by_cases multiple : 5 ∣ budget
  · obtain ⟨fives, rfl⟩ := multiple
    omega
  · have rounded : budget * 13 / 5 * 5 < budget * 13 := by omega
    refine iff_of_true ?_ fun both => multiple both.1
    omega

/-- Spans under the limit are estimated within the budget, exactly unless the budget is a multiple of
five tokens and the text makes a piece that is as long as the limit. -/
theorem within_budget_iff (text : PyString) (budget : Nat) :
    (∀ spans, split .exact text budget = .ok spans → ∀ span ∈ spans,
      span.text.length ≤ TokenRatios.exact.characters budget → span.tokens .exact ≤ budget) ↔
      ¬ (1 ≤ budget ∧ 5 ∣ budget ∧ Fills text (TokenRatios.exact.characters budget)) := by
  refine Iff.trans (@forall_spans_iff .exact text budget fun piece =>
    piece.length ≤ TokenRatios.exact.characters budget → estimateTokens .exact piece ≤ budget) ?_
  rw [not_and, not_and]
  refine imp_congr_right fun positive => ?_
  have room : 0 < TokenRatios.exact.characters budget := by
    change 0 < budget * 13 / 5
    omega
  rw [fills_iff room]
  constructor
  · rintro every multiple ⟨piece, member, full⟩
    exact (tokens_le_iff full.le).mp (every piece member full.le) ⟨multiple, full⟩
  · intro none piece member short
    exact (tokens_le_iff short).mpr fun both => none both.1 ⟨piece, member, both.2⟩

/-- Thirteen characters are the limit of five tokens, and are estimated at six. -/
theorem not_within_budget : ∃ spans, split .exact (.ofString "translate now") 5 = .ok spans ∧
    ∃ span ∈ spans, span.text.length ≤ TokenRatios.exact.characters 5 ∧ ¬ span.tokens .exact ≤ 5 :=
  ⟨[⟨0, 0, 13, .ofString "translate now"⟩], by decide +kernel, _, List.mem_singleton_self _, by decide,
    by decide⟩

end Spans

end Omnitensor
