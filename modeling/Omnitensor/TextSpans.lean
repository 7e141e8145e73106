/-
This file models how a document is split into spans that a generation can hold.

A text that fits is one span. Otherwise it is cut by the coarsest pattern whose parts all fit, and parts
are put together as long as they fit; a text that no pattern cuts so is one span as a whole. A span says
where it begins and ends, which is looked up in the text.

How many characters a number of tokens has, and how many tokens a number of characters, is computed with
ratios that are not whole; what comes of them is a parameter, and the exact ratios are one such. A budget
beyond the range of a float, whose product is refused as an overflow, is outside the model.
-/

import Omnitensor.Fallible
import Omnitensor.GreedyGroups
import Omnitensor.TextBoundaries

namespace Omnitensor

namespace Spans

/-! ### Tokens -/

/-- What is computed with ratios, each time without the part that is not whole. -/
structure TokenRatios where
  /-- Tokens times `CHARACTERS_PER_TOKEN`. -/
  characters : Nat → Nat
  /-- Characters divided by `CHARACTERS_PER_TOKEN`. -/
  tokens : Nat → Nat
  /-- Output tokens divided by `OUTPUT_HEADROOM` times `SPAN_SAFETY`. -/
  spanTokens : Nat → Nat

/-- The ratios 2.6, and 1.9 times 1.25, without rounding. -/
def TokenRatios.exact : TokenRatios where
  characters tokens := tokens * 13 / 5
  tokens characters := characters * 5 / 13
  spanTokens tokens := tokens * 8 / 19

variable (ratios : TokenRatios)

/-- About how many tokens a text will become. -/
def estimateTokens (text : PyString) : Nat := ratios.tokens text.length + 1

/-! ### Splitting -/

/-- One piece of a document, and where it came from. -/
structure Span where
  index : Nat
  start : Nat
  stop : Nat
  text : PyString
  deriving DecidableEq

/-- The tokens that a span is estimated to have. -/
def Span.tokens (span : Span) : Nat := estimateTokens ratios span.text

/-- Put parts together as long as they are under a limit. -/
def gatherParts (limit : Nat) : PyString → List PyString → List PyString
  | current, [] => if current = [] then [] else [current]
  | current, part :: rest =>
    if current ≠ [] ∧ limit < current.length + part.length then current :: gatherParts limit part rest
    else gatherParts limit (current ++ part) rest

/-- Greedily group the parts of a text into pieces under a limit, if that can be. -/
def gather (text : PyString) (limit : Nat) (boundary : Boundary) : Option (List PyString) :=
  let parts := parts boundary text
  if parts.length < 2 then none
  else
    let pieces := gatherParts limit [] parts
    if pieces.any fun piece => decide (limit < piece.length) then none else some pieces

def splitToLimit (text : PyString) (limit : Nat) : List PyString :=
  if text.length ≤ limit then [text] else (boundaries.findSome? (gather text limit)).getD [text]

/-- `text.index(piece, start)`, if there is one. -/
def indexFrom (text piece : PyString) (start : Nat) : Option Nat :=
  ((text.drop start).tails.findIdx? fun rest => piece.isPrefixOf rest).map (start + ·)

/-- Pieces as spans, from an index and a position on. -/
def spansFrom (text : PyString) : Nat → Nat → List PyString → Except String (List Span)
  | _, _, [] => .ok []
  | index, position, piece :: pieces =>
    match indexFrom text piece position with
    | none => .error "substring not found"
    | some start => do
      return ⟨index, start, start + piece.length, piece⟩ ::
        (← spansFrom text (index + 1) (start + piece.length) pieces)

/-- A text as spans of at most a budget of tokens, if it can be split so. -/
def split (text : PyString) (budgetTokens : Nat) : Except String (List Span) :=
  if budgetTokens < 1 then .error "a span budget of no tokens cannot hold anything"
  else if text = [] then .ok []
  else spansFrom text 0 0 (splitToLimit text (ratios.characters budgetTokens))

/-- Put pieces back together in the order they were split. -/
def reassemble (pieces : List PyString) : PyString := pieces.flatten

/-- Whether spans account for every character of a text. -/
def covers (text : PyString) (spans : List Span) : Bool :=
  if spans = [] then decide (text = []) else decide (reassemble (spans.map Span.text) = text)

/-! ### Grouping -/

/-- Parts that are no longer than a limit together. -/
def under (limit : Nat) (group : List PyString) : Bool := decide (group.flatten.length ≤ limit)

variable {limit position index : Nat} {pieces : List PyString}

theorem hereditary_under : Grouping.Hereditary (under limit) := by
  intro before part after _ fit
  rw [under, decide_eq_true_eq] at fit ⊢
  rw [List.flatten_append, List.flatten_append, List.length_append, List.length_append] at fit
  omega

/-- The pieces are the groups of the parts. -/
theorem gatherParts_eq {group parts : List PyString} (begun : ∀ part ∈ group, part ≠ [])
    (filled : ∀ part ∈ parts, part ≠ []) :
    gatherParts limit group.flatten parts =
      (Grouping.gather (under limit) group parts).map List.flatten := by
  have empty : ∀ {group : List PyString}, (∀ part ∈ group, part ≠ []) →
      (group.flatten = [] ↔ group = []) := by
    intro group begun
    constructor
    · intro none
      exact List.eq_nil_iff_forall_not_mem.mpr fun part member =>
        begun part member (List.flatten_eq_nil_iff.mp none part member)
    · rintro rfl
      rfl
  induction parts generalizing group with
  | nil =>
    rw [gatherParts, Grouping.gather]
    simp only [empty begun]
    split <;> rfl
  | cons part parts inductionHypothesis =>
    obtain ⟨first, others⟩ := List.forall_mem_cons.mp filled
    have same : (group.flatten ≠ [] ∧ limit < group.flatten.length + part.length) ↔
        group ≠ [] ∧ under limit (group ++ [part]) = false := by
      rw [ne_eq, empty begun, under, decide_eq_false_iff_not, List.flatten_append,
        List.flatten_singleton, List.length_append, not_le]
    have grown : ∀ other ∈ group ++ [part], other ≠ [] :=
      List.forall_mem_append.mpr ⟨begun, List.forall_mem_singleton.mpr first⟩
    rw [gatherParts, Grouping.gather]
    simp only [same]
    split
    · have rest := @inductionHypothesis [part] (List.forall_mem_singleton.mpr first) others
      rw [List.flatten_singleton] at rest
      rw [List.map_cons, rest]
    · have rest := inductionHypothesis grown others
      rwa [List.flatten_append, List.flatten_singleton] at rest

variable {text : PyString} {limit : Nat} {boundary : Boundary}

/-- The groups that the parts of a text make under a limit. -/
def groups (text : PyString) (limit : Nat) (boundary : Boundary) : List (List PyString) :=
  Grouping.gather (under limit) [] (parts boundary text)

theorem gatherParts_parts :
    gatherParts limit [] (parts boundary text) = (groups text limit boundary).map List.flatten :=
  gatherParts_eq (List.forall_mem_nil _) filled_parts

/-- All parts of a text are under a limit. -/
def Fitting (text : PyString) (limit : Nat) (boundary : Boundary) : Prop :=
  ∀ part ∈ parts boundary text, part.length ≤ limit

instance : Decidable (Fitting text limit boundary) := inferInstanceAs (Decidable (∀ _ ∈ _, _))

theorem length_le_of_fitting (fitting : Fitting text limit boundary) :
    ∀ group ∈ groups text limit boundary, group.flatten.length ≤ limit := by
  intro group member
  have grouping := @Grouping.groups_gather_nil _ (under limit) (parts boundary text)
  rcases grouping.admitted group member with fit | ⟨part, rfl⟩
  · exact of_decide_eq_true fit
  · rw [List.flatten_singleton]
    refine fitting part ?_
    rw [← grouping.whole]
    exact List.mem_flatten_of_mem member List.mem_cons_self

theorem fitting_of_length_le (short : ∀ group ∈ groups text limit boundary, group.flatten.length ≤ limit) :
    Fitting text limit boundary := by
  intro part member
  have grouping := @Grouping.groups_gather_nil _ (under limit) (parts boundary text)
  rw [← grouping.whole] at member
  obtain ⟨group, isGroup, inside⟩ := List.mem_flatten.mp member
  exact (List.sublist_flatten_of_mem inside).length_le.trans (short group isGroup)

/-- A pattern cuts a text that is over a limit if all parts are under it. -/
theorem gather_eq (long : limit < text.length) :
    gather text limit boundary =
      if Fitting text limit boundary then some ((groups text limit boundary).map List.flatten) else none := by
  have several : Fitting text limit boundary → ¬ (parts boundary text).length < 2 := by
    intro fitting few
    have whole := @flatten_parts boundary text
    match same : parts boundary text with
    | [] =>
      rw [same] at whole
      rw [← whole] at long
      exact absurd long (Nat.not_lt_zero _)
    | [part] =>
      rw [same, List.flatten_singleton] at whole
      have short := fitting part (by rw [same]; exact List.mem_cons_self)
      rw [whole] at short
      exact absurd short (Nat.not_le_of_lt long)
    | _ :: _ :: _ =>
      rw [same] at few
      simp only [List.length_cons] at few
      omega
  rw [gather]
  dsimp only
  rw [gatherParts_parts, List.any_map]
  by_cases fitting : Fitting text limit boundary
  · rw [if_neg (several fitting), if_pos fitting, if_neg]
    rw [List.any_eq_true]
    rintro ⟨group, member, exceeds⟩
    exact absurd (of_decide_eq_true exceeds) (Nat.not_lt_of_le (length_le_of_fitting fitting group member))
  · rw [if_neg fitting]
    split
    · rfl
    rw [if_pos]
    by_contra short
    rw [List.any_eq_true] at short
    refine fitting (fitting_of_length_le fun group member => not_lt.mp fun exceeds => short ?_)
    exact ⟨group, member, decide_eq_true exceeds⟩

theorem findSome?_ite {Item Value : Type} (accept : Item → Prop) [DecidablePred accept]
    (value : Item → Value) (items : List Item) :
    (items.findSome? fun item => if accept item then some (value item) else none) =
      (items.find? fun item => decide (accept item)).map value := by
  induction items with
  | nil => rfl
  | cons item items inductionHypothesis =>
    rw [List.findSome?_cons, List.find?_cons, inductionHypothesis]
    by_cases accepted : accept item
    · rw [if_pos accepted, decide_eq_true accepted]
      rfl
    · rw [if_neg accepted, decide_eq_false accepted]

/-- The coarsest pattern whose parts are all under a limit. -/
def coarsest (text : PyString) (limit : Nat) : Option Boundary :=
  boundaries.find? fun boundary => decide (Fitting text limit boundary)

/-- The pieces of a text: itself, or the groups of its parts by the coarsest pattern that fits. -/
theorem splitToLimit_eq (text : PyString) (limit : Nat) :
    splitToLimit text limit =
      if text.length ≤ limit then [text]
      else ((coarsest text limit).map fun boundary =>
        (groups text limit boundary).map List.flatten).getD [text] := by
  rw [splitToLimit]
  split
  · rfl
  · rename_i long
    rw [coarsest, ← findSome?_ite (Fitting text limit)]
    refine congrArg (Option.getD · [text]) (congrArg (boundaries.findSome? ·) (funext fun boundary => ?_))
    exact gather_eq (not_le.mp long)

theorem fitting_of_coarsest (found : coarsest text limit = some boundary) :
    Fitting text limit boundary := by
  have accepted := List.find?_some found
  exact of_decide_eq_true accepted

/-- Pieces of a text, all of which hold something. -/
structure Pieces (text : PyString) (pieces : List PyString) : Prop where
  whole : pieces.flatten = text
  filled : ∀ piece ∈ pieces, piece ≠ []

theorem pieces_splitToLimit (filled : text ≠ []) : Pieces text (splitToLimit text limit) := by
  have alone : Pieces text [text] :=
    ⟨List.flatten_singleton, List.forall_mem_singleton.mpr filled⟩
  rw [splitToLimit_eq]
  split
  · exact alone
  cases coarsest text limit with
  | none => exact alone
  | some boundary =>
    rw [Option.map_some, Option.getD_some]
    have grouping := @Grouping.groups_gather_nil _ (under limit) (parts boundary text)
    refine ⟨?_, List.forall_mem_map.mpr fun group member none => ?_⟩
    · rw [← List.flatten_flatten, groups, grouping.whole, flatten_parts]
    · obtain ⟨part, inside⟩ := List.exists_mem_of_ne_nil group (grouping.filled group member)
      refine @filled_parts boundary text part ?_
        (List.flatten_eq_nil_iff.mp none part inside)
      rw [← grouping.whole]
      exact List.mem_flatten_of_mem member inside

/-! ### Spans -/

/-- Spans from a position to another, each of which begins where the one before it ends. -/
def Contiguous : Nat → Nat → List Span → Prop
  | start, stop, [] => start = stop
  | start, stop, span :: spans => span.start = start ∧ Contiguous span.stop stop spans

/-- A text divided into spans: numbered from 0, without gaps, and none of them empty. -/
structure Divided (text : PyString) (spans : List Span) : Prop where
  numbered : spans.map Span.index = List.range spans.length
  contiguous : Contiguous 0 text.length spans
  sliced : ∀ span ∈ spans, span.text = slice text span.start span.stop
  whole : (spans.map Span.text).flatten = text
  filled : ∀ span ∈ spans, span.text ≠ []

/-- What comes next is found where it is. -/
theorem indexFrom_of_drop {piece rest : PyString} (here : text.drop position = piece ++ rest) :
    indexFrom text piece position = some position := by
  have found : (text.drop position).tails.findIdx? (fun rest => piece.isPrefixOf rest) = some 0 := by
    have prefixes : piece.isPrefixOf (text.drop position) = true := by
      rw [List.isPrefixOf_iff_prefix, here]
      exact List.prefix_append _ _
    cases remaining : text.drop position with
    | nil =>
      rw [remaining] at prefixes
      rw [List.tails, List.findIdx?_cons, if_pos prefixes]
    | cons point points =>
      rw [remaining] at prefixes
      rw [List.tails, List.findIdx?_cons, if_pos prefixes]
  rw [indexFrom, found, Option.map_some, Nat.add_zero]

/-- Spans of the pieces of the rest of a text, from an index and a position on. -/
def placed : Nat → Nat → List PyString → List Span
  | _, _, [] => []
  | index, position, piece :: pieces =>
    ⟨index, position, position + piece.length, piece⟩ :: placed (index + 1) (position + piece.length) pieces

theorem spansFrom_eq (rest : text.drop position = pieces.flatten) :
    spansFrom text index position pieces = .ok (placed index position pieces) := by
  induction pieces generalizing index position with
  | nil => rfl
  | cons piece pieces inductionHypothesis =>
    rw [List.flatten_cons] at rest
    have following : text.drop (position + piece.length) = pieces.flatten := by
      rw [← List.drop_drop, rest, List.drop_left]
    rw [spansFrom, indexFrom_of_drop rest]
    dsimp only
    rw [inductionHypothesis following]
    rfl

theorem map_text_placed {index position : Nat} {pieces : List PyString} :
    (placed index position pieces).map Span.text = pieces := by
  induction pieces generalizing index position with
  | nil => rfl
  | cons piece pieces inductionHypothesis => rw [placed, List.map_cons, inductionHypothesis]

theorem map_index_placed :
    (placed index position pieces).map Span.index = List.range' index pieces.length := by
  induction pieces generalizing index position with
  | nil => rfl
  | cons piece pieces inductionHypothesis =>
    rw [placed, List.map_cons, inductionHypothesis, List.length_cons, List.range'_succ]

theorem contiguous_placed {index position : Nat} {pieces : List PyString} :
    Contiguous position (position + pieces.flatten.length) (placed index position pieces) := by
  induction pieces generalizing index position with
  | nil => rfl
  | cons piece pieces inductionHypothesis =>
    refine ⟨rfl, ?_⟩
    rw [List.flatten_cons, List.length_append, ← Nat.add_assoc]
    exact inductionHypothesis

theorem sliced_placed (rest : text.drop position = pieces.flatten) :
    ∀ span ∈ placed index position pieces, span.text = slice text span.start span.stop := by
  induction pieces generalizing index position with
  | nil => exact fun _ member => absurd member List.not_mem_nil
  | cons piece pieces inductionHypothesis =>
    rw [List.flatten_cons] at rest
    refine List.forall_mem_cons.mpr ⟨?_, inductionHypothesis ?_⟩
    · change piece = slice text position (position + piece.length)
      rw [slice, List.drop_take, Nat.add_sub_cancel_left, rest, List.take_left]
    · rw [← List.drop_drop, rest, List.drop_left]

theorem divided_placed (cut : Pieces text pieces) :
    Divided text (placed 0 0 pieces) where
  numbered := by
    rw [map_index_placed, List.range_eq_range', ← List.length_map Span.text, map_text_placed]
  contiguous := by
    have contiguous := @contiguous_placed 0 0 pieces
    rwa [cut.whole, Nat.zero_add] at contiguous
  sliced := sliced_placed (by rw [cut.whole, List.drop_zero])
  whole := by rw [map_text_placed, cut.whole]
  filled span member := cut.filled span.text (by
    rw [← @map_text_placed 0 0 pieces]
    exact List.mem_map_of_mem member)

end Spans

end Omnitensor
