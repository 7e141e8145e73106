/-
This file develops what is left of a text when texts are taken out of it, one after another.

Of each text the first occurrence gives way to one blank. Items keep the place that they had in the
beginning, so that a word of the beginning can be told from a word that looks like it. A removal is
bounded if blanks, or the ends of the text, surround what it takes. All removals are bounded exactly if
no word is ever cut, and then what is left are words of the beginning in their order, and each of the
others lies within an occurrence of a text that was taken out.
-/

import Mathlib.Data.List.Chain
import Mathlib.Data.List.Infix
import Mathlib.Data.List.Nodup
import Mathlib.Data.List.TakeWhile
import Mathlib.Data.Option.Basic
import Mathlib.Tactic.Common
import Omnitensor.WordReplacement

namespace Omnitensor

namespace WordRemovals

/-! ### Words -/

section

variable {Item : Type} (blank : Item → Bool)

/-- The words of a text. -/
def words (text : List Item) : List (List Item) :=
  (List.splitOnP blank text).filter fun word => !word.isEmpty

/-- A text that is empty or ends with a blank. -/
def Closes (text : List Item) : Prop := ∀ item ∈ text.getLast?, blank item = true

/-- A text that is empty or begins with a blank. -/
def Opens (text : List Item) : Prop := ∀ item ∈ text.head?, blank item = true

variable {blank}

@[simp] theorem words_nil : words blank [] = [] := rfl

variable {word text : List Item} {item : Item}

theorem words_append_cons (before after : List Item) (gap : blank item = true) :
    words blank (before ++ item :: after) = words blank before ++ words blank after := by
  rw [words, List.splitOnP_append_cons _ _ gap, List.filter_append, words, words]

theorem words_cons (gap : blank item = true) (text : List Item) :
    words blank (item :: text) = words blank text := by
  have split := words_append_cons [] text gap
  rwa [words_nil, List.nil_append, List.nil_append] at split

/-- Texts are split where the first ends with a blank. -/
theorem words_append_of_closes {before : List Item} (closes : Closes blank before)
    (after : List Item) : words blank (before ++ after) = words blank before ++ words blank after := by
  rcases List.eq_nil_or_concat before with rfl | ⟨front, item, rfl⟩
  · rfl
  · rw [List.concat_eq_append] at closes ⊢
    have gap : blank item = true := closes item (by simp)
    rw [List.append_assoc, List.singleton_append, words_append_cons _ _ gap, words_append_cons _ _ gap,
      words_nil, List.append_nil]

theorem words_append_of_opens (before : List Item) {after : List Item} (opens : Opens blank after) :
    words blank (before ++ after) = words blank before ++ words blank after := by
  cases after with
  | nil => rw [List.append_nil, words_nil, List.append_nil]
  | cons item after =>
    have gap : blank item = true := opens item rfl
    rw [words_append_cons _ _ gap, words_cons gap]

theorem words_of_solid (filled : word ≠ []) (solid : ∀ item ∈ word, blank item = false) :
    words blank word = [word] := by
  rw [words, List.splitOnP_eq_singleton solid, List.filter_singleton]
  cases word with
  | nil => exact absurd rfl filled
  | cons item word => rfl

/-- A text is a word, or nothing, up to its end or to its first blank. -/
theorem exists_leading (blank : Item → Bool) (text : List Item) : ∃ word rest,
    text = word ++ rest ∧ (∀ item ∈ word, blank item = false) ∧ Opens blank rest := by
  refine ⟨text.takeWhile fun item => !blank item, text.dropWhile fun item => !blank item,
    List.takeWhile_append_dropWhile.symm, fun item member => ?_, fun item first => ?_⟩
  · simpa using List.mem_takeWhile_imp member
  · have stops := List.head?_dropWhile_not (fun item => !blank item) text
    rw [Option.mem_def.mp first] at stops
    simpa using stops

theorem exists_trailing (blank : Item → Bool) (text : List Item) : ∃ rest word,
    text = rest ++ word ∧ (∀ item ∈ word, blank item = false) ∧ Closes blank rest := by
  obtain ⟨word, rest, same, solid, opens⟩ := exists_leading blank text.reverse
  refine ⟨rest.reverse, word.reverse, ?_, fun item member => solid item (List.mem_reverse.mp member), ?_⟩
  · rw [← List.reverse_append, ← same, List.reverse_reverse]
  · intro item last
    rw [List.getLast?_reverse] at last
    exact opens item last

/-- Everything that holds of solid texts, and of those that begin with one and a blank, holds. -/
theorem induction_words (blank : Item → Bool) {motive : List Item → Prop}
    (solid : ∀ word, (∀ item ∈ word, blank item = false) → motive word)
    (split : ∀ word item rest, (∀ item ∈ word, blank item = false) → blank item = true →
      motive rest → motive (word ++ item :: rest)) (text : List Item) : motive text := by
  induction length : text.length using Nat.strong_induction_on generalizing text with
  | h count inductionHypothesis =>
    obtain ⟨word, rest, rfl, plain, opens⟩ := exists_leading blank text
    cases rest with
    | nil =>
      rw [List.append_nil]
      exact solid word plain
    | cons item rest =>
      refine split word item rest plain (opens item rfl) (inductionHypothesis rest.length ?_ rest rfl)
      rw [← length, List.length_append, List.length_cons]
      omega

theorem words_of_solid_eq (word : List Item) (solid : ∀ item ∈ word, blank item = false) :
    words blank word = if word = [] then [] else [word] := by
  split
  · next empty =>
    rw [empty]
    rfl
  · next filled => exact words_of_solid filled solid

/-- The items of the words are the items that are no blanks. -/
theorem flatten_words (text : List Item) :
    (words blank text).flatten = text.filter fun item => !blank item := by
  induction text using induction_words blank with
  | solid word solid =>
    have unchanged : word.filter (fun item => !blank item) = word :=
      List.filter_eq_self.mpr fun item member => by rw [solid item member]; rfl
    rw [words_of_solid_eq word solid, unchanged]
    split
    · next empty => rw [empty, List.flatten_nil]
    · rw [List.flatten_singleton]
  | split word item rest solid gap inductionHypothesis =>
    have unchanged : word.filter (fun item => !blank item) = word :=
      List.filter_eq_self.mpr fun item member => by rw [solid item member]; rfl
    rw [words_append_cons _ _ gap, List.flatten_append, inductionHypothesis, List.filter_append,
      List.filter_cons_of_neg (by simp [gap]), unchanged, words_of_solid_eq word solid]
    split
    · next empty => rw [empty, List.flatten_nil]
    · rw [List.flatten_singleton]

theorem ne_nil_of_mem_words (member : word ∈ words blank text) : word ≠ [] := by
  rintro rfl
  have filled := (List.mem_filter.mp member).2
  cases filled

theorem not_blank_of_mem_words (member : word ∈ words blank text) (inside : item ∈ word) :
    item ∈ text ∧ blank item = false := by
  have flat : item ∈ (words blank text).flatten := List.mem_flatten.mpr ⟨word, member, inside⟩
  rw [flatten_words, List.mem_filter, Bool.not_eq_true'] at flat
  exact flat

theorem infix_of_mem_words (member : word ∈ words blank text) : word <:+: text := by
  induction text using induction_words blank with
  | solid text solid =>
    rw [words_of_solid_eq text solid] at member
    split at member
    · cases member
    · rw [List.mem_singleton.mp member]
  | split front item rest solid gap inductionHypothesis =>
    rw [words_append_cons _ _ gap, words_of_solid_eq front solid, List.mem_append] at member
    rcases member with now | later
    · split at now
      · cases now
      · rw [List.mem_singleton.mp now]
        exact (List.prefix_append front _).isInfix
    · exact (inductionHypothesis later).trans
        ((List.suffix_cons item rest).trans (List.suffix_append front _)).isInfix

/-- Items beside each other that are no blanks are in one word. -/
theorem exists_word_of_adjacent (blank : Item → Bool) (before after : List Item) {first second : Item}
    (one : blank first = false) (two : blank second = false) :
    ∃ word ∈ words blank (before ++ first :: second :: after), first ∈ word ∧ second ∈ word := by
  obtain ⟨front, head, rfl, headSolid, closes⟩ := exists_trailing blank before
  obtain ⟨tail, back, rfl, tailSolid, opens⟩ := exists_leading blank after
  have solid : ∀ item ∈ head ++ first :: second :: tail, blank item = false := by
    intro item member
    simp only [List.mem_append, List.mem_cons] at member
    rcases member with inside | rfl | rfl | inside
    · exact headSolid item inside
    · exact one
    · exact two
    · exact tailSolid item inside
  have joined : front ++ head ++ first :: second :: (tail ++ back) =
      front ++ ((head ++ first :: second :: tail) ++ back) := by simp
  refine ⟨head ++ first :: second :: tail, ?_, by simp, by simp⟩
  rw [joined, words_append_of_closes closes, words_append_of_opens _ opens,
    words_of_solid (by simp) solid]
  simp

theorem closes_map {Other : Type} {read : Other → Item} {text : List Other} :
    Closes blank (text.map read) ↔ Closes (fun item => blank (read item)) text := by
  simp [Closes]

theorem opens_map {Other : Type} {read : Other → Item} {text : List Other} :
    Opens blank (text.map read) ↔ Opens (fun item => blank (read item)) text := by
  simp [Opens]

/-- Words are read alike when their items are. -/
theorem words_map {Other : Type} {otherBlank : Other → Bool} {read : Item → Other}
    (same : ∀ item, otherBlank (read item) = blank item) (text : List Item) :
    words otherBlank (text.map read) = (words blank text).map (List.map read) := by
  induction text using induction_words blank with
  | solid word solid =>
    have plain : ∀ item ∈ word.map read, otherBlank item = false := by
      intro item member
      obtain ⟨original, inside, rfl⟩ := List.mem_map.mp member
      rw [same, solid original inside]
    rw [words_of_solid_eq word solid, words_of_solid_eq _ plain]
    by_cases empty : word = []
    · simp [empty]
    · simp [empty]
  | split word item rest solid gap inductionHypothesis =>
    have plain : ∀ item ∈ word.map read, otherBlank item = false := by
      intro item member
      obtain ⟨original, inside, rfl⟩ := List.mem_map.mp member
      rw [same, solid original inside]
    rw [List.map_append, List.map_cons, words_append_cons _ _ ((same item).trans gap),
      words_append_cons _ _ gap, inductionHypothesis, List.map_append, words_of_solid_eq word solid,
      words_of_solid_eq _ plain]
    by_cases empty : word = []
    · simp [empty]
    · simp [empty]

end

/-! ### Removals -/

section

variable {Item Cell : Type} [DecidableEq Item] (read : Cell → Item)

/-- The first occurrence of a text, between what comes before it and what comes after it. -/
def splitFirst (old : List Item) : List Cell → Option (List Cell × List Cell × List Cell)
  | [] => if old.isPrefixOf [] then some ([], [], []) else none
  | cell :: cells =>
    if old.isPrefixOf ((cell :: cells).map read) then
      some ([], (cell :: cells).take old.length, (cell :: cells).drop old.length)
    else (splitFirst old cells).map fun found => (cell :: found.1, found.2.1, found.2.2)

/-- Take texts out, and keep what was taken out and what is left. -/
def takeOut (mark : Cell) : List (List Item) → List Cell → List (List Cell) × List Cell
  | [], cells => ([], cells)
  | text :: texts, cells =>
    match splitFirst read text cells with
    | none => takeOut mark texts cells
    | some (before, taken, after) =>
      let later := takeOut mark texts (before ++ mark :: after)
      (taken :: later.1, later.2)

variable {read} {old : List Item} {cells before taken after : List Cell}

theorem splitFirst_eq_some (found : splitFirst read old cells = some (before, taken, after)) :
    cells = before ++ (taken ++ after) ∧ taken.map read = old := by
  induction cells generalizing before with
  | nil =>
    rw [splitFirst] at found
    split at found
    · next starts =>
      cases found
      exact ⟨rfl, (List.prefix_nil.mp (List.isPrefixOf_iff_prefix.mp starts)).symm⟩
    · cases found
  | cons cell cells inductionHypothesis =>
    rw [splitFirst] at found
    split at found
    · next starts =>
      cases found
      refine ⟨(List.take_append_drop _ _).symm, ?_⟩
      rw [List.map_take]
      exact (List.prefix_iff_eq_take.mp (List.isPrefixOf_iff_prefix.mp starts)).symm
    · obtain ⟨⟨front, inside, back⟩, later, same⟩ := Option.map_eq_some_iff.mp found
      cases same
      obtain ⟨rest, reads⟩ := inductionHypothesis later
      exact ⟨congrArg (cell :: ·) rest, reads⟩

/-- The first occurrence is found alike in what the cells hold. -/
theorem splitFirst_map (old : List Item) (cells : List Cell) :
    splitFirst id old (cells.map read) = (splitFirst read old cells).map fun found =>
      (found.1.map read, found.2.1.map read, found.2.2.map read) := by
  induction cells with
  | nil =>
    rw [List.map_nil, splitFirst, splitFirst]
    split <;> rfl
  | cons cell cells inductionHypothesis =>
    rw [List.map_cons, splitFirst, List.map_id, ← List.map_cons, splitFirst]
    split
    · rw [Option.map_some, List.map_take, List.map_drop, List.map_nil]
    · rw [inductionHypothesis, Option.map_map, Option.map_map]
      rfl

/-- What is taken out and what is left was there before. -/
theorem mem_of_mem_takeOut {mark cell : Cell} (texts : List (List Item)) (other : cell ≠ mark)
    (member : cell ∈ (takeOut read mark texts cells).1.flatten ∨
      cell ∈ (takeOut read mark texts cells).2) : cell ∈ cells := by
  induction texts generalizing cells with
  | nil => exact member.elim (fun inside => absurd inside List.not_mem_nil) id
  | cons text texts inductionHypothesis =>
    rw [takeOut] at member
    split at member
    · exact inductionHypothesis member
    · next before taken after found =>
      obtain ⟨rfl, -⟩ := splitFirst_eq_some found
      have later : cell ∈ before ++ mark :: after → cell ∈ before ++ (taken ++ after) := by
        simp only [List.mem_append, List.mem_cons]
        rintro (first | rfl | second)
        · exact Or.inl first
        · exact absurd rfl other
        · exact Or.inr (Or.inr second)
      rcases member with inside | left
      · rw [List.flatten_cons, List.mem_append] at inside
        rcases inside with now | inside
        · exact List.mem_append_right _ (List.mem_append_left _ now)
        · exact later (inductionHypothesis (Or.inl inside))
      · exact later (inductionHypothesis (Or.inr left))

end

/-! ### Places -/

section

variable {Item : Type} (blank : Item → Bool) (gap : Item)

/-- A text that begins and ends with no blank and that has single blanks only. -/
structure Normal (text : List Item) : Prop where
  begins : ∃ item ∈ text.head?, blank item = false
  ends : ∃ item ∈ text.getLast?, blank item = false
  single : text.IsChain fun first second => ¬(blank first = true ∧ blank second = true)

/-- The items of a text in their places. -/
def placed (text : List Item) : List (Item × Option Nat) :=
  text.zipIdx.map fun cell => (cell.1, some cell.2)

/-- Words with a gap between each two of them. -/
def joinWords (gap : Item) (texts : List (List Item)) : List Item := [gap].intercalate texts

/-- A state that bounded removals reach: items keep their places, what holds no gap was a stretch of
the text in the beginning, and a blank or nothing is before each gap. -/
structure Reached (origin cells : List (Item × Option Nat)) : Prop where
  distinct : (cells.filter fun cell => !blank cell.1).Nodup
  stretches : ∀ stretch, (gap, none) ∉ stretch → stretch <:+: cells → stretch <:+: origin
  lonely : cells.IsChain fun first second => second = (gap, none) → blank first.1 = true

variable {blank gap}

theorem normal_of_solid {word : List Item} (filled : word ≠ []) (solid : ∀ item ∈ word, blank item = false) :
    Normal blank word where
  begins := ⟨word.head filled, List.head?_eq_some_head filled, solid _ (List.head_mem filled)⟩
  ends := ⟨word.getLast filled, List.getLast?_eq_some_getLast filled, solid _ (List.getLast_mem filled)⟩
  single := by
    rw [List.isChain_iff_forall_rel_of_append_cons_cons]
    rintro first second front back rfl ⟨firstBlank, -⟩
    rw [solid first (by simp)] at firstBlank
    cases firstBlank

/-- Words that are joined are a normal text. -/
theorem normal_joinWords {texts : List (List Item)} (filled : texts ≠ [])
    (solid : ∀ word ∈ texts, word ≠ [] ∧ ∀ item ∈ word, blank item = false) :
    Normal blank (joinWords gap texts) := by
  induction texts with
  | nil => exact absurd rfl filled
  | cons word texts inductionHypothesis =>
    obtain ⟨wordFilled, wordSolid⟩ := solid word List.mem_cons_self
    have front := normal_of_solid wordFilled wordSolid
    cases texts with
    | nil =>
      rw [joinWords, List.intercalate_singleton]
      exact front
    | cons next texts =>
      have rest := inductionHypothesis (List.cons_ne_nil next texts) fun other member =>
        solid other (List.mem_cons_of_mem word member)
      have joined : joinWords gap (word :: next :: texts) = word ++ gap :: joinWords gap (next :: texts) := by
        rw [joinWords, List.intercalate_cons_cons, joinWords, List.append_assoc, List.singleton_append]
      rw [joined]
      refine ⟨?_, ?_, ?_⟩
      · obtain ⟨item, head, plain⟩ := front.begins
        exact ⟨item, List.mem_head?_append_of_mem_head? head, plain⟩
      · obtain ⟨item, last, plain⟩ := rest.ends
        refine ⟨item, ?_, plain⟩
        rw [List.getLast?_append_cons]
        exact List.mem_getLast?_cons last
      · rw [List.isChain_append, List.isChain_cons]
        refine ⟨front.single, ⟨fun item head both => ?_, rest.single⟩, fun item last _ _ both => ?_⟩
        · obtain ⟨first, begins, plain⟩ := rest.begins
          rw [Option.mem_unique head begins, plain] at both
          cases both.2
        · rw [wordSolid item (List.mem_of_mem_getLast? last)] at both
          cases both.1

theorem map_placed (text : List Item) : (placed text).map Prod.fst = text := by
  rw [placed, List.map_map]
  exact List.zipIdx_map_fst 0 text

theorem reached_placed (text : List Item) : Reached blank gap (placed text) (placed text) where
  distinct := by
    have places : ((placed text).map Prod.snd).Nodup := by
      have read : (placed text).map Prod.snd = ((List.range' 0 text.length).map some) := by
        rw [placed, List.map_map, ← List.zipIdx_map_snd, List.map_map]
        rfl
      rw [read]
      exact (List.nodup_range' 1).map (Option.some_injective Nat)
    exact (List.Nodup.of_map Prod.snd places).filter _
  stretches := fun stretch _ inside => inside
  lonely := by
    rw [List.isChain_iff_forall_rel_of_append_cons_cons]
    intro first second front back same last
    have member : second ∈ placed text := by
      rw [same]
      simp
    obtain ⟨cell, -, rfl⟩ := List.mem_map.mp member
    cases last

variable {origin before taken after : List (Item × Option Nat)}

/-- What a bounded removal leaves is reached as well. -/
theorem Reached.removal (reached : Reached blank gap origin (before ++ (taken ++ after)))
    (gapBlank : blank gap = true) (closes : Closes (fun cell => blank cell.1) before) :
    Reached blank gap origin (before ++ (gap, none) :: after) where
  distinct := by
    refine reached.distinct.sublist ?_
    rw [List.filter_append, List.filter_append, List.filter_append, List.filter_cons_of_neg (by simp [gapBlank])]
    exact (List.Sublist.refl _).append (List.sublist_append_right _ _)
  stretches := by
    intro stretch unmarked inside
    refine reached.stretches stretch unmarked ?_
    rcases (Replacement.infix_append_cons unmarked).mp inside with first | second
    · exact first.trans (List.prefix_append before _).isInfix
    · exact second.trans ((List.suffix_append taken after).trans (List.suffix_append before _)).isInfix
  lonely := by
    have one := List.IsChain.infix reached.lonely (List.prefix_append before (taken ++ after)).isInfix
    have two := List.IsChain.infix reached.lonely
      ((List.suffix_append taken after).trans (List.suffix_append before _)).isInfix
    rw [List.isChain_append]
    refine ⟨one, ?_, fun first last second head _ => closes first last⟩
    rw [List.isChain_cons]
    exact ⟨fun second _ _ => gapBlank, two⟩

/-- A normal text holds no gap of a state that is reached. -/
theorem Reached.not_mem {cells : List (Item × Option Nat)}
    (reached : Reached blank gap origin cells) (gapBlank : blank gap = true)
    (inside : taken <:+: cells) (normal : Normal blank (taken.map Prod.fst)) :
    (gap, none) ∉ taken := by
  intro member
  obtain ⟨front, back, rfl⟩ := List.append_of_mem member
  rcases List.eq_nil_or_concat front with rfl | ⟨front, first, rfl⟩
  · obtain ⟨item, begins, solid⟩ := normal.begins
    cases begins
    exact absurd gapBlank (by simp [solid])
  · rw [List.concat_eq_append, List.append_assoc, List.singleton_append] at inside normal
    have lonely : blank first.1 = true :=
      List.isChain_iff_forall_rel_of_append_cons_cons.mp
        ( List.IsChain.infix reached.lonely inside) rfl rfl
    have single := normal.single
    rw [List.map_append, List.map_cons, List.map_cons] at single
    exact List.isChain_iff_forall_rel_of_append_cons_cons.mp single rfl ⟨lonely, gapBlank⟩

/-- What is taken out is nowhere else. -/
theorem Reached.apart (reached : Reached blank gap origin (before ++ (taken ++ after)))
    {cell : Item × Option Nat} (solid : blank cell.1 = false) (inside : cell ∈ taken)
    (outside : cell ∈ before ++ after) : False := by
  have distinct := reached.distinct
  have order : (before ++ (taken ++ after)).Perm (taken ++ (before ++ after)) := by
    rw [← List.append_assoc, ← List.append_assoc]
    exact List.perm_append_comm.append_right after
  rw [(order.filter _).nodup_iff, List.filter_append, List.nodup_append] at distinct
  have kept : (!blank cell.1) = true := by rw [solid]; rfl
  exact distinct.2.2 cell (List.mem_filter.mpr ⟨inside, kept⟩) cell (List.mem_filter.mpr ⟨outside, kept⟩) rfl

/-- Each of the words is left, or lies within one of the pieces of the text in the beginning. -/
def Accounted (blank : Item → Bool) (origin cells left : List (Item × Option Nat))
    (pieces : List (List (Item × Option Nat))) : Prop :=
  ∀ word ∈ words (fun cell => blank cell.1) cells, word ∈ words (fun cell => blank cell.1) left ∨
    ∃ piece ∈ pieces, piece <:+: origin ∧ word <:+: piece

section

variable {origin before taken after left : List (Item × Option Nat)}
  {pieces : List (List (Item × Option Nat))}

/-- Where every word is left or taken out at once, no word has a part that is taken out and another. -/
theorem Reached.together (reached : Reached blank gap origin (before ++ (taken ++ after)))
    (accounted : Accounted blank origin (before ++ (taken ++ after)) left (taken :: pieces))
    (later : ∀ cell, blank cell.1 = false → cell ∈ pieces.flatten ∨ cell ∈ left → cell ∈ before ++ after)
    {word : List (Item × Option Nat)}
    (member : word ∈ words (fun cell => blank cell.1) (before ++ (taken ++ after)))
    {one two : Item × Option Nat} (first : one ∈ word) (second : two ∈ word) (inside : one ∈ taken)
    (outside : two ∈ before ++ after) : False := by
  have oneSolid := (not_blank_of_mem_words member first).2
  have twoSolid := (not_blank_of_mem_words member second).2
  rcases accounted word member with stays | ⟨piece, taking, -, within⟩
  · exact reached.apart oneSolid inside (later one oneSolid (Or.inr (not_blank_of_mem_words stays first).1))
  · rcases List.mem_cons.mp taking with rfl | taking
    · exact reached.apart twoSolid (within.subset second) outside
    · have flat := List.mem_flatten.mpr ⟨piece, taking, within.subset first⟩
      exact reached.apart oneSolid inside (later one oneSolid (Or.inl flat))

/-- Blanks or ends are around what is taken out then. -/
theorem Reached.bounded (reached : Reached blank gap origin (before ++ (taken ++ after)))
    (normal : Normal blank (taken.map Prod.fst))
    (accounted : Accounted blank origin (before ++ (taken ++ after)) left (taken :: pieces))
    (later : ∀ cell, blank cell.1 = false → cell ∈ pieces.flatten ∨ cell ∈ left → cell ∈ before ++ after) :
    Closes (fun cell => blank cell.1) before ∧ Opens (fun cell => blank cell.1) after := by
  constructor
  · intro two last
    by_contra solid
    obtain ⟨front, rfl⟩ : ∃ front, before = front ++ [two] := List.getLast?_eq_some_iff.mp last
    obtain ⟨item, head, plain⟩ := normal.begins
    rw [List.head?_map] at head
    obtain ⟨one, begins, rfl⟩ := Option.map_eq_some_iff.mp head
    obtain ⟨rest, rfl⟩ := List.head?_eq_some_iff.mp begins
    obtain ⟨word, member, second, first⟩ := exists_word_of_adjacent
      (fun cell : Item × Option Nat => blank cell.1) front (rest ++ after) (Bool.of_not_eq_true solid) plain
    refine reached.together accounted later ?_ first second List.mem_cons_self (by simp)
    simpa using member
  · intro two first
    by_contra solid
    obtain ⟨back, rfl⟩ := List.head?_eq_some_iff.mp first
    obtain ⟨item, last, plain⟩ := normal.ends
    rw [List.getLast?_map] at last
    obtain ⟨one, ends, rfl⟩ := Option.map_eq_some_iff.mp last
    obtain ⟨rest, rfl⟩ := List.getLast?_eq_some_iff.mp ends
    obtain ⟨word, member, first, second⟩ := exists_word_of_adjacent
      (fun cell : Item × Option Nat => blank cell.1) (before ++ rest) back plain (Bool.of_not_eq_true solid)
    refine reached.together accounted later ?_ first second (by simp) (by simp)
    simpa using member

/-- After a bounded removal the words that are there are accounted for exactly if all were before. -/
theorem Reached.accounted_iff (reached : Reached blank gap origin (before ++ (taken ++ after)))
    (gapBlank : blank gap = true) (normal : Normal blank (taken.map Prod.fst))
    (closes : Closes (fun cell => blank cell.1) before) (opens : Opens (fun cell => blank cell.1) after) :
    Accounted blank origin (before ++ (taken ++ after)) left (taken :: pieces) ↔
      Accounted blank origin (before ++ (gap, none) :: after) left pieces := by
  have now : words (fun cell => blank cell.1) (before ++ (taken ++ after)) =
      words (fun cell => blank cell.1) before ++ (words (fun cell => blank cell.1) taken ++
        words (fun cell => blank cell.1) after) := by
    rw [words_append_of_closes closes, words_append_of_opens _ opens]
  have next : words (fun cell => blank cell.1) (before ++ (gap, none) :: after) =
      words (fun cell => blank cell.1) before ++ words (fun cell => blank cell.1) after :=
    words_append_cons before after gapBlank
  constructor
  · intro accounted word member
    rw [next, List.mem_append] at member
    have outside : ∀ cell ∈ word, cell ∈ before ++ after := by
      intro cell inside
      rw [List.mem_append]
      exact member.imp (fun first => (not_blank_of_mem_words first inside).1)
        fun second => (not_blank_of_mem_words second inside).1
    have before : word ∈ words (fun cell => blank cell.1) (before ++ (taken ++ after)) := by
      rw [now, List.mem_append, List.mem_append]
      exact member.imp_right Or.inr
    refine (accounted word before).imp_right ?_
    rintro ⟨piece, taking, stretch, within⟩
    rcases List.mem_cons.mp taking with rfl | taking
    · obtain ⟨cell, inside⟩ := List.exists_mem_of_ne_nil word (ne_nil_of_mem_words before)
      exact (reached.apart (not_blank_of_mem_words before inside).2 (within.subset inside)
        (outside cell inside)).elim
    · exact ⟨piece, taking, stretch, within⟩
  · intro accounted word member
    have later : word ∈ words (fun cell => blank cell.1) (before ++ (gap, none) :: after) →
        word ∈ words (fun cell => blank cell.1) left ∨
          ∃ piece ∈ taken :: pieces, piece <:+: origin ∧ word <:+: piece := by
      intro still
      refine (accounted word still).imp_right ?_
      rintro ⟨piece, taking, within⟩
      exact ⟨piece, List.mem_cons_of_mem taken taking, within⟩
    rw [now, List.mem_append, List.mem_append] at member
    rw [next, List.mem_append] at later
    rcases member with first | inside | second
    · exact later (Or.inl first)
    · have stretch : taken <:+: before ++ (taken ++ after) := ⟨before, after, by simp⟩
      have unmarked := reached.not_mem gapBlank stretch normal
      exact Or.inr ⟨taken, List.mem_cons_self, reached.stretches taken unmarked stretch,
        infix_of_mem_words inside⟩
    · exact later (Or.inr second)

end

end

/-! ### Bounded removals -/

section

variable {Item : Type} [DecidableEq Item] (blank : Item → Bool) (gap : Item)

/-- The first occurrence of a text gives way to a gap. -/
def replaceFirst (text old : List Item) : List Item :=
  match splitFirst id old text with
  | none => text
  | some (before, _, after) => before ++ gap :: after

/-- When its turn comes, each text is gone, or blanks or ends surround its first occurrence. -/
def Bounded : List (List Item) → List Item → Prop
  | [], _ => True
  | old :: texts, text =>
    (∀ before taken after, splitFirst id old text = some (before, taken, after) →
      Closes blank before ∧ Opens blank after) ∧ Bounded texts (replaceFirst gap text old)

/-- A run that takes the texts out of a text. -/
def removals (texts : List (List Item)) (text : List Item) :
    List (List (Item × Option Nat)) × List (Item × Option Nat) :=
  takeOut Prod.fst (gap, none) texts (placed text)

/-- The words that are left are words of the text in their order, and each of the others lies within
an occurrence of a text that was taken out. -/
structure WholeWords (texts : List (List Item)) (text : List Item) : Prop where
  ordered : (words (fun cell => blank cell.1) (removals gap texts text).2).Sublist
    (words (fun cell => blank cell.1) (placed text))
  accounted : ∀ word ∈ words (fun cell => blank cell.1) (placed text),
    word ∈ words (fun cell => blank cell.1) (removals gap texts text).2 ∨
      ∃ taken ∈ (removals gap texts text).1, taken.map Prod.fst ∈ texts ∧ taken <:+: placed text ∧
        word <:+: taken

variable {blank gap}

/-- The texts are taken out of what the cells hold. -/
theorem map_takeOut (texts : List (List Item)) (cells : List (Item × Option Nat)) :
    (takeOut Prod.fst (gap, none) texts cells).2.map Prod.fst =
      texts.foldl (replaceFirst gap) (cells.map Prod.fst) := by
  induction texts generalizing cells with
  | nil => rfl
  | cons text texts inductionHypothesis =>
    rw [takeOut, List.foldl_cons, replaceFirst, splitFirst_map]
    split
    · next missing =>
      rw [missing]
      exact inductionHypothesis cells
    · next before taken after found =>
      rw [found, inductionHypothesis, List.map_append, List.map_cons]
      rfl

/-- The words that are there are accounted for exactly if the removals are bounded. -/
theorem accounted_iff_bounded {origin : List (Item × Option Nat)} (gapBlank : blank gap = true)
    {texts : List (List Item)} (normal : ∀ text ∈ texts, Normal blank text)
    {cells : List (Item × Option Nat)} (reached : Reached blank gap origin cells) :
    Accounted blank origin cells (takeOut Prod.fst (gap, none) texts cells).2
        (takeOut Prod.fst (gap, none) texts cells).1 ↔
      Bounded blank gap texts (cells.map Prod.fst) := by
  induction texts generalizing cells with
  | nil => simp [Accounted, takeOut, Bounded]
  | cons text texts inductionHypothesis =>
    have normalText := normal text List.mem_cons_self
    have normalLater := fun later member => normal later (List.mem_cons_of_mem text member)
    rw [takeOut, Bounded, replaceFirst, splitFirst_map]
    split
    · next missing =>
      rw [missing, inductionHypothesis normalLater reached]
      simp
    · next before taken after found =>
      obtain ⟨rfl, rfl⟩ := splitFirst_eq_some found
      rw [found]
      have later : ∀ cell : Item × Option Nat, blank cell.1 = false →
          cell ∈ (takeOut Prod.fst (gap, none) texts (before ++ (gap, none) :: after)).1.flatten ∨
            cell ∈ (takeOut Prod.fst (gap, none) texts (before ++ (gap, none) :: after)).2 →
          cell ∈ before ++ after := by
        intro cell solid stays
        have unmarked : cell ≠ (gap, none) := by
          rintro rfl
          exact absurd gapBlank (by simpa using solid)
        have there := mem_of_mem_takeOut texts unmarked stays
        simpa [unmarked] using there
      have rest := @inductionHypothesis normalLater (before ++ (gap, none) :: after)
      rw [List.map_append, List.map_cons] at rest
      constructor
      · intro accounted
        obtain ⟨closes, opens⟩ := reached.bounded normalText accounted later
        refine ⟨?_, ?_⟩
        · rintro _ _ _ same
          cases same
          exact ⟨closes_map.mpr closes, opens_map.mpr opens⟩
        · refine (rest (reached.removal gapBlank closes)).mp ?_
          exact (reached.accounted_iff gapBlank normalText closes opens).mp accounted
      · rintro ⟨around, bounded⟩
        obtain ⟨closes, opens⟩ := around _ _ _ rfl
        have closes := closes_map.mp closes
        have opens := opens_map.mp opens
        refine (reached.accounted_iff gapBlank normalText closes opens).mpr ?_
        exact (rest (reached.removal gapBlank closes)).mpr bounded

variable {texts : List (List Item)}

/-- Of the words that are left, all are words that were there, in their order, if the removals are
bounded. -/
theorem sublist_of_bounded (gapBlank : blank gap = true) {cells : List (Item × Option Nat)}
    (bounded : Bounded blank gap texts (cells.map Prod.fst)) :
    (words (fun cell => blank cell.1) (takeOut Prod.fst (gap, none) texts cells).2).Sublist
      (words (fun cell => blank cell.1) cells) := by
  induction texts generalizing cells with
  | nil => exact List.Sublist.refl _
  | cons text texts inductionHypothesis =>
    rw [Bounded, replaceFirst, splitFirst_map] at bounded
    rw [takeOut]
    split
    · next missing =>
      rw [missing] at bounded
      exact inductionHypothesis bounded.2
    · next before taken after found =>
      obtain ⟨rfl, rfl⟩ := splitFirst_eq_some found
      rw [found] at bounded
      obtain ⟨closes, opens⟩ := bounded.1 _ _ _ rfl
      have rest := bounded.2
      have read : before.map Prod.fst ++ gap :: after.map Prod.fst =
          (before ++ (gap, none) :: after).map Prod.fst := by
        rw [List.map_append, List.map_cons]
      refine (inductionHypothesis (read ▸ rest)).trans ?_
      rw [words_append_cons before after gapBlank, words_append_of_closes (closes_map.mp closes),
        words_append_of_opens taken (opens_map.mp opens)]
      exact (List.Sublist.refl _).append (List.sublist_append_right _ _)

/-- What is taken out reads like one of the texts. -/
theorem mem_texts_of_mem_takeOut {cells piece : List (Item × Option Nat)}
    (taking : piece ∈ (takeOut Prod.fst (gap, none) texts cells).1) :
    piece.map Prod.fst ∈ texts := by
  induction texts generalizing cells with
  | nil => cases taking
  | cons text texts inductionHypothesis =>
    rw [takeOut] at taking
    split at taking
    · exact List.mem_cons_of_mem text (inductionHypothesis taking)
    · next before taken after found =>
      rcases List.mem_cons.mp taking with rfl | later
      · rw [(splitFirst_eq_some found).2]
        exact List.mem_cons_self
      · exact List.mem_cons_of_mem text (inductionHypothesis later)

/-- No word is cut exactly if all removals are bounded. -/
theorem wholeWords_iff_bounded (gapBlank : blank gap = true)
    (normal : ∀ text ∈ texts, Normal blank text) (text : List Item) :
    WholeWords blank gap texts text ↔ Bounded blank gap texts text := by
  have accounts := accounted_iff_bounded gapBlank normal (reached_placed text)
  rw [map_placed] at accounts
  constructor
  · intro whole
    refine accounts.mp fun word member => (whole.accounted word member).imp_right ?_
    rintro ⟨piece, taking, -, stretch, within⟩
    exact ⟨piece, taking, stretch, within⟩
  · intro bounded
    refine ⟨sublist_of_bounded gapBlank (by rwa [map_placed]), fun word member => ?_⟩
    refine (accounts.mpr bounded word member).imp_right ?_
    rintro ⟨piece, taking, stretch, within⟩
    exact ⟨piece, taking, mem_texts_of_mem_takeOut taking, stretch, within⟩

end

end WordRemovals

end Omnitensor
