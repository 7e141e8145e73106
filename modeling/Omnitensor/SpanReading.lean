/-
This file says that every span of a selection is read, in the fewest passes.

The spans of a page are the blocks of its text that are not blank. Both loops that plan passes add to a
pass what fits in it, so they are the greedy grouping for a cost and a number of references; what is
part of a pass that fits fits as well, and no other passes are fewer.
-/

import Omnitensor.SpanPasses

namespace Omnitensor

namespace DocumentSpans

open Spans (TokenRatios estimateTokens slice Blank)

variable {sha256 : PyString → PyString} {source : SpanSource}

/-! ### Spans -/

/-- A block of a text from a position on. -/
def block (text : PyString) (start : Nat) : PyString :=
  slice text start (min (start + maxSpanCharacters) text.length)

/-- The blocks of a page that are not blank, as spans. -/
def spansOf (sha256 : PyString → PyString) (source : SpanSource) (page : ExtractedPage) :
    List IndexedSpan :=
  match page.pageNumber, page.text with
  | some number, some text =>
    ((blockStarts text.length).filter fun start => decide (¬ Blank (block text start))).map
      (indexedSpan sha256 source number text)
  | _, _ => []

/-- A page with a number and a text, of which every block that is not blank has a reference and an
encoding. -/
def Readable (source : SpanSource) (page : ExtractedPage) : Prop :=
  ∃ number text, page = ⟨some number, some text⟩ ∧ 1 ≤ number ∧
    ∀ start ∈ blockStarts text.length, ¬ Blank (block text start) →
      privateReference (spanReference source number start
        (min (start + maxSpanCharacters) text.length)) = true ∧ (block text start).Encodable

theorem indexBlocks_eq_ok {number : Int} {text : PyString} {starts : List Nat}
    {indexed later : List IndexedSpan} {stopped : Bool} :
    indexBlocks sha256 source none number text starts indexed = .ok (later, stopped) ↔
      (∀ start ∈ starts, ¬ Blank (block text start) →
        privateReference (spanReference source number start
          (min (start + maxSpanCharacters) text.length)) = true ∧ (block text start).Encodable) ∧
      later = indexed ++ (starts.filter fun start => decide (¬ Blank (block text start))).map
        (indexedSpan sha256 source number text) ∧ stopped = false := by
  induction starts generalizing indexed with
  | nil =>
    rw [indexBlocks, Except.ok.injEq, Prod.mk.injEq, List.filter_nil, List.map_nil, List.append_nil]
    constructor
    · rintro ⟨rfl, rfl⟩
      exact ⟨fun _ member => absurd member List.not_mem_nil, rfl, rfl⟩
    · rintro ⟨_, rfl, rfl⟩
      exact ⟨rfl, rfl⟩
  | cons start starts inductionHypothesis =>
    have text_eq : (indexedSpan sha256 source number text start).text = block text start := rfl
    have reference_eq : (indexedSpan sha256 source number text start).reference =
        spanReference source number start (min (start + maxSpanCharacters) text.length) := rfl
    rw [indexBlocks, Option.any_none, if_neg Bool.false_ne_true]
    dsimp only
    rw [text_eq, reference_eq, List.forall_mem_cons]
    by_cases blank : Blank (block text start)
    · rw [if_pos (Spans.strip_eq_nil_iff.mpr blank), inductionHypothesis,
        List.filter_cons_of_neg (by simpa using blank)]
      simp only [blank, not_true_eq_false, false_imp_iff, true_and]
    · rw [if_neg (mt Spans.strip_eq_nil_iff.mp blank), List.filter_cons_of_pos (by simpa using blank),
        List.map_cons]
      by_cases named : privateReference (spanReference source number start
          (min (start + maxSpanCharacters) text.length)) = true
      · rw [if_neg (not_not.mpr named)]
        by_cases encodable : (block text start).Encodable
        · rw [if_neg (not_not.mpr encodable), inductionHypothesis]
          simp only [named, encodable, blank, not_false_eq_true, and_self, forall_const, true_and,
            List.append_assoc, List.singleton_append]
        · rw [if_pos encodable]
          simp only [reduceCtorEq, encodable, blank, not_false_eq_true, and_false, forall_const, false_and]
      · rw [if_pos named]
        simp only [reduceCtorEq, named, blank, not_false_eq_true, Bool.false_eq_true, forall_const,
          false_and]

theorem indexPages_eq_ok {pages : List ExtractedPage} {indexed spans : List IndexedSpan} :
    indexPages sha256 source none pages indexed = .ok spans ↔
      (∀ page ∈ pages, Readable source page) ∧
        spans = indexed ++ pages.flatMap (spansOf sha256 source) := by
  induction pages generalizing indexed with
  | nil =>
    rw [indexPages, Except.ok.injEq, List.flatMap_nil, List.append_nil]
    exact ⟨fun same => ⟨fun _ member => absurd member List.not_mem_nil, same.symm⟩,
      fun same => same.2.symm⟩
  | cons page pages inductionHypothesis =>
    rw [List.forall_mem_cons, List.flatMap_cons]
    unfold indexPages
    split
    · rename_i number text numbered texted
      have same : page = ⟨some number, some text⟩ := by rw [← numbered, ← texted]
      subst same
      have readable : Readable source ⟨some number, some text⟩ ↔ 1 ≤ number ∧
          ∀ start ∈ blockStarts text.length, ¬ Blank (block text start) →
            privateReference (spanReference source number start
              (min (start + maxSpanCharacters) text.length)) = true ∧
              (block text start).Encodable := by
        constructor
        · rintro ⟨_, _, same, valid⟩
          cases same
          exact valid
        · exact fun valid => ⟨number, text, rfl, valid⟩
      rw [readable]
      split
      · rename_i low
        simp only [reduceCtorEq, not_le.mpr low, false_and]
      · rename_i low
        rw [and_iff_right (not_lt.mp low), bind_eq_ok]
        constructor
        · rintro ⟨⟨later, stopped⟩, ran, rest⟩
          obtain ⟨valid, rfl, rfl⟩ := indexBlocks_eq_ok.mp ran
          obtain ⟨others, rfl⟩ := inductionHypothesis.mp rest
          exact ⟨⟨valid, others⟩, List.append_assoc _ _ _⟩
        · rintro ⟨⟨valid, others⟩, rfl⟩
          exact ⟨_, indexBlocks_eq_ok.mpr ⟨valid, rfl, rfl⟩,
            inductionHypothesis.mpr ⟨others, (List.append_assoc _ _ _).symm⟩⟩
    · rename_i absent
      refine iff_of_false (fun ran => by cases ran) ?_
      rintro ⟨⟨⟨number, text, rfl, _⟩, _⟩, _⟩
      exact absent number text rfl rfl

/-- Spans are indexed exactly if their source and its pages are valid, and they are the blocks that are
not blank. -/
theorem pageSpans_eq_ok {pages : List ExtractedPage} {spans : List IndexedSpan} :
    pageSpans sha256 source pages none = .ok spans ↔
      source.valid none = true ∧ (∀ page ∈ pages, Readable source page) ∧
        spans = pages.flatMap (spansOf sha256 source) := by
  rw [pageSpans]
  split
  · rename_i valid
    rw [indexPages_eq_ok, List.nil_append, and_iff_right valid]
  · rename_i invalid
    exact iff_of_false (fun ran => by cases ran) fun all => invalid all.1

theorem flatten_blocks_range {text : PyString} {count : Nat}
    (within : ∀ number < count, number * maxSpanCharacters < text.length) :
    (((List.range count).map (· * maxSpanCharacters)).map (block text)).flatten =
      text.take (count * maxSpanCharacters) := by
  induction count with
  | zero => rw [Nat.zero_mul, List.take_zero]; rfl
  | succ count inductionHypothesis =>
    have inside := within count (Nat.lt_succ_self count)
    have following : count * maxSpanCharacters + maxSpanCharacters = (count + 1) * maxSpanCharacters :=
      (Nat.succ_mul _ _).symm
    rw [List.range_succ, List.map_append, List.map_append, List.flatten_append,
      inductionHypothesis fun number less => within number (less.trans (Nat.lt_succ_self count))]
    rw [List.map_singleton, List.map_singleton, List.flatten_singleton, block,
      Spans.take_append_slice (le_min (Nat.le_add_right _ _) inside.le), following]
    rcases Nat.le_total ((count + 1) * maxSpanCharacters) text.length with short | long
    · rw [Nat.min_eq_left short]
    · rw [Nat.min_eq_right long, List.take_of_length_le (Nat.le_refl _), List.take_of_length_le long]

/-- The blocks of a text are the text. -/
theorem flatten_blocks (text : PyString) : ((blockStarts text.length).map (block text)).flatten = text := by
  have size : 0 < maxSpanCharacters := by decide
  rw [blockStarts, flatten_blocks_range]
  · refine List.take_of_length_le ?_
    rw [maxSpanCharacters]
    omega
  · intro number less
    rw [maxSpanCharacters] at less ⊢
    omega

/-! ### Passes -/

/-- What costs no more than a budget, and is no more than a number of things. -/
def within {Item : Type} (cost : Item → Nat) (budget most : Int) (pass : List Item) : Bool :=
  decide (((pass.map cost).sum : Int) ≤ budget ∧ (pass.length : Int) ≤ most)

theorem hereditary_within {Item : Type} {cost : Item → Nat} {budget most : Int} :
    Grouping.Hereditary (within cost budget most) := by
  intro before part after _ fit
  rw [within, decide_eq_true_eq] at fit ⊢
  simp only [List.map_append, List.sum_append, List.length_append, Nat.cast_add] at fit
  omega

theorem within_concat_eq_false {Item : Type} {cost : Item → Nat} {budget most : Int} {pass : List Item}
    {item : Item} : within cost budget most (pass ++ [item]) = false ↔
      budget < ((pass.map cost).sum : Int) + cost item ∨ most ≤ pass.length := by
  rw [within, decide_eq_false_iff_not, not_and_or, not_le, not_le, List.map_append, List.sum_append,
    List.map_singleton, List.sum_singleton, List.length_append, List.length_singleton, Nat.cast_add,
    Nat.cast_add, Nat.cast_one, Int.lt_add_one_iff]

/-- What a pass of an answer holds beside the reserved references: its text, and one reference a span. -/
def answerFits (contextTokens reservedReferences : Int) : List IndexedSpan → Bool :=
  within (fun span => span.text.length) (answerBudget contextTokens)
    (maxContentReferences - max 0 reservedReferences)

theorem answerPassesFrom_eq {contextTokens reservedReferences : Int} {spans current : List IndexedSpan} :
    answerPassesFrom (answerBudget contextTokens) (spansPerPass reservedReferences) spans current
        (current.map fun span => span.text.length).sum =
      Grouping.gather (answerFits contextTokens reservedReferences) current spans := by
  induction spans generalizing current with
  | nil => rfl
  | cons span spans inductionHypothesis =>
    -- a pass that is begun holds one span at least
    have same : (current ≠ [] ∧ (answerBudget contextTokens <
          (((current.map fun span => span.text.length).sum : Nat) : Int) + span.text.length ∨
          spansPerPass reservedReferences ≤ current.length)) ↔
        current ≠ [] ∧ answerFits contextTokens reservedReferences (current ++ [span]) = false := by
      refine and_congr_right fun filled => ?_
      rw [answerFits, within_concat_eq_false, spansPerPass, max_le_iff]
      have one : (1 : Int) ≤ current.length := by
        have := List.length_pos_iff.mpr filled
        omega
      rw [and_iff_right one]
    have alone := @inductionHypothesis [span]
    have joined := @inductionHypothesis (current ++ [span])
    rw [List.map_singleton, List.sum_singleton] at alone
    rw [List.map_append, List.sum_append, List.map_singleton, List.sum_singleton] at joined
    rw [answerPassesFrom, Grouping.gather, alone, joined]
    exact if_congr same rfl rfl

/-- No pass of an answer could be spared. -/
theorem fewest_answerPasses (spans : List IndexedSpan) (contextTokens reservedReferences : Int) :
    Grouping.Fewest (answerFits contextTokens reservedReferences) spans
      (answerPasses spans contextTokens reservedReferences) := by
  have same := @answerPassesFrom_eq contextTokens reservedReferences spans []
  rw [List.map_nil, List.sum_nil] at same
  rw [answerPasses, same]
  exact Grouping.fewest_gather hereditary_within

/-- What a pass over sources holds: the tokens of its texts, and one reference a fragment. -/
def planFits (ratios : TokenRatios) (share : SourceShare) (contextTokens promptTokens : Int) :
    List (PyString × PyString) → Bool :=
  within (fun fragment => estimateTokens ratios fragment.2) (planBudget share contextTokens promptTokens)
    maxContentReferences

theorem planPassesFrom_eq {ratios : TokenRatios} {share : SourceShare} {contextTokens promptTokens : Int}
    {fragments current : List (PyString × PyString)} :
    planPassesFrom ratios (planBudget share contextTokens promptTokens) fragments (current.map Prod.fst)
        (current.map fun fragment => estimateTokens ratios fragment.2).sum =
      (Grouping.gather (planFits ratios share contextTokens promptTokens) current fragments).map
        (List.map Prod.fst) := by
  induction fragments generalizing current with
  | nil =>
    rw [planPassesFrom, Grouping.gather]
    simp only [List.map_eq_nil_iff]
    split <;> rfl
  | cons fragment fragments inductionHypothesis =>
    obtain ⟨reference, text⟩ := fragment
    have same : (current.map Prod.fst ≠ [] ∧ (planBudget share contextTokens promptTokens <
          (((current.map fun fragment => estimateTokens ratios fragment.2).sum : Nat) : Int) +
            estimateTokens ratios text ∨ maxContentReferences ≤ (current.map Prod.fst).length)) ↔
        current ≠ [] ∧ planFits ratios share contextTokens promptTokens
          (current ++ [(reference, text)]) = false := by
      rw [planFits, within_concat_eq_false, List.length_map, ne_eq, List.map_eq_nil_iff, Nat.cast_le]
    have alone := @inductionHypothesis [(reference, text)]
    have joined := @inductionHypothesis (current ++ [(reference, text)])
    rw [List.map_singleton, List.map_singleton, List.sum_singleton] at alone
    rw [List.map_append, List.map_append, List.sum_append, List.map_singleton, List.map_singleton,
      List.sum_singleton] at joined
    rw [planPassesFrom, Grouping.gather, alone, joined, if_congr same rfl rfl]
    split
    · rw [List.map_cons]
    · rfl

/-- No pass over sources could be spared. -/
theorem fewest_planPasses (ratios : TokenRatios) (share : SourceShare)
    (fragments : List (PyString × PyString)) (contextTokens promptTokens : Int) :
    ∃ groups, Grouping.Fewest (planFits ratios share contextTokens promptTokens) fragments groups ∧
      planPasses ratios share fragments contextTokens promptTokens = groups.map (List.map Prod.fst) :=
  ⟨_, Grouping.fewest_gather hereditary_within, @planPassesFrom_eq _ _ _ _ _ []⟩

/-- Every span is read, in the fewest passes: the spans of pages are the blocks of their texts that are not
blank, and both plans are the fewest passes within their limits. -/
theorem read_in_fewest_passes (sha256 : PyString → PyString) (ratios : TokenRatios) (share : SourceShare) :
    (∀ source pages spans, pageSpans sha256 source pages none = .ok spans ↔
      source.valid none = true ∧ (∀ page ∈ pages, Readable source page) ∧
        spans = pages.flatMap (spansOf sha256 source)) ∧
    (∀ text : PyString, ((blockStarts text.length).map (block text)).flatten = text) ∧
    (∀ spans contextTokens reservedReferences,
      Grouping.Fewest (answerFits contextTokens reservedReferences) spans
        (answerPasses spans contextTokens reservedReferences)) ∧
    ∀ fragments contextTokens promptTokens, ∃ groups,
      Grouping.Fewest (planFits ratios share contextTokens promptTokens) fragments groups ∧
        planPasses ratios share fragments contextTokens promptTokens = groups.map (List.map Prod.fst) :=
  ⟨fun _ _ _ => pageSpans_eq_ok, flatten_blocks, fewest_answerPasses, fewest_planPasses ratios share⟩

end DocumentSpans

end Omnitensor
