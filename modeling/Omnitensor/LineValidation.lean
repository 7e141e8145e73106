/-
This file models the merge of the lines that character recognition found with the reading of the
vision model.

A line is confirmed if the reading contains it, and confirmed texts are taken out of the reading,
longest first, each where it occurs first. What is left is handed back as what only the model read. A
text that occurs inside of a word takes a part of the word: so the words that are handed back are words
of the reading exactly if blanks, or the ends, are around each text that is taken out.
-/

import Omnitensor.DocumentExtraction
import Omnitensor.WordRemovals

namespace Omnitensor

namespace MediaTranscription

open WordRemovals

variable {Number : Type}

/-! ### Lines -/

/-- A line that the engine located. -/
structure OcrLine (Number : Type) where
  text : PyString
  confidence : Number
  boxScore : Number
  centerX : Number
  centerY : Number
  thickness : Number
  length : Number
  angle : Number
  vertical : Bool
  deriving DecidableEq

/-- How the reading of the model stands to a line. -/
inductive Verdict where
  | confirmed
  | disputed
  | ocrOnly
  deriving DecidableEq

/-- A line with its verdict. -/
structure RecognisedLine (Number : Type) extends OcrLine Number where
  verdict : Verdict
  deriving DecidableEq

/-! ### Validation -/

section

variable (casefold : PyString → PyString)

/-- The words of a text without their case, with one space between them. -/
def normalized (text : PyString) : PyString :=
  joinWords (.scalar ' ') (words PyString.space (casefold text))

/-- Whether the model confirms a text. -/
def confirms (model text : PyString) : Bool := !text.isEmpty && decide (text <:+: model)

/-- Whether the model knows at least half of the words of a text that are longer than two. -/
def disputes (model text : PyString) : Bool :=
  let tokens := (words PyString.space text).filter fun token => decide (2 < token.length)
  let hits := tokens.countP fun token => decide (token ∈ words PyString.space model)
  !tokens.isEmpty && decide (tokens.length ≤ hits * 2)

/-- A line with the verdict of the model. -/
def recognised (model : PyString) (line : OcrLine Number) : RecognisedLine Number where
  toOcrLine := line
  verdict :=
    if confirms model (normalized casefold line.text) then .confirmed
    else if disputes model (normalized casefold line.text) then .disputed
    else .ocrOnly

/-- The texts of the confirmed lines. -/
def confirmedTexts (model : PyString) (lines : List (OcrLine Number)) : List PyString :=
  (lines.map fun line => normalized casefold line.text).filter (confirms model)

/-- The confirmed texts, longest first. -/
def removalOrder (model : PyString) (lines : List (OcrLine Number)) : List PyString :=
  (confirmedTexts casefold model lines).mergeSort fun text later => decide (later.length ≤ text.length)

/-- Every line with its verdict, and what no line corroborates. -/
def validatedLines (ocrLines : List (OcrLine Number)) (visibleText : PyString) :
    List (RecognisedLine Number) × PyString :=
  let model := normalized casefold visibleText
  let lines := ocrLines.map (recognised casefold model)
  let removed := (removalOrder casefold model ocrLines).foldl (replaceFirst (.scalar ' ')) model
  let remainder := joinWords (.scalar ' ') (words PyString.space removed)
  if remainder = model ∧ confirmedTexts casefold model ocrLines = [] ∧ lines = [] then (lines, [])
  else (lines, remainder)

end

/-! ### What is handed back -/

variable {casefold : PyString → PyString}

theorem normal_normalized {text : PyString} (filled : normalized casefold text ≠ []) :
    Normal PyString.space (normalized casefold text) := by
  refine normal_joinWords (fun empty => ?_) fun word member => ?_
  · rw [normalized, empty] at filled
    exact filled rfl
  · exact ⟨ne_nil_of_mem_words member, fun item inside => (not_blank_of_mem_words member inside).2⟩

theorem confirms_iff {model text : PyString} : confirms model text = true ↔ text ≠ [] ∧ text <:+: model := by
  simp [confirms]

theorem recognised_confirmed {model : PyString} {line : OcrLine Number} :
    (recognised casefold model line).verdict = .confirmed ↔
      confirms model (normalized casefold line.text) = true := by
  rw [recognised]
  split
  · next confirmed => simp [confirmed]
  · next other =>
    split <;> simp [other]

theorem normal_of_mem_removalOrder {model text : PyString} {lines : List (OcrLine Number)}
    (member : text ∈ removalOrder casefold model lines) : Normal PyString.space text := by
  rw [removalOrder, List.mem_mergeSort, confirmedTexts, List.mem_filter] at member
  obtain ⟨line, -, rfl⟩ := List.mem_map.mp member.1
  exact normal_normalized (confirms_iff.mp member.2).1

/-- The remainder is what is left of the words of the reading, in their order, and every other word
lies within an occurrence of a confirmed text that was taken out. -/
structure HandedBack (reading : PyString) (texts : List PyString) (remainder : PyString) : Prop where
  whole : WholeWords PyString.space (.scalar ' ') texts reading
  remainder_eq : remainder = joinWords (.scalar ' ')
    ((words (fun cell => PyString.space cell.1) (removals (.scalar ' ') texts reading).2).map
      (List.map Prod.fst))

/-- The remainder always is made of the words of what is left. -/
theorem words_left (texts : List PyString) (reading : PyString) :
    words PyString.space (texts.foldl (replaceFirst (.scalar ' ')) reading) =
      (words (fun cell => PyString.space cell.1) (removals (.scalar ' ') texts reading).2).map
        (List.map Prod.fst) := by
  have same : (removals (.scalar ' ') texts reading).2.map Prod.fst = _ := map_takeOut texts (placed reading)
  rw [map_placed] at same
  rw [← same]
  exact words_map (fun _ => rfl) _

/-- Only texts that occur in the reading are confirmed, and no word of the reading is cut exactly if
blanks, or the ends, are around each text that is taken out. -/
theorem validatedLines_handedBack_iff (casefold : PyString → PyString) (line : OcrLine Number)
    (lines : List (OcrLine Number)) (visibleText : PyString) :
    let reading := normalized casefold visibleText
    let texts := removalOrder casefold reading (line :: lines)
    let merged := validatedLines casefold (line :: lines) visibleText
    (∀ judged ∈ merged.1, judged.verdict = .confirmed →
      normalized casefold judged.text ≠ [] ∧ normalized casefold judged.text <:+: reading) ∧
    (HandedBack reading texts merged.2 ↔
      Bounded PyString.space (.scalar ' ') texts reading) := by
  intro reading texts merged
  have answer : merged = ((line :: lines).map (recognised casefold reading),
      joinWords (.scalar ' ') (words PyString.space (texts.foldl (replaceFirst (.scalar ' ')) reading))) :=
    if_neg fun both => List.cons_ne_nil _ _ both.2.2
  rw [answer]
  refine ⟨fun judged member confirmed => ?_, ?_⟩
  · obtain ⟨original, -, rfl⟩ := List.mem_map.mp member
    exact confirms_iff.mp (recognised_confirmed.mp confirmed)
  · have normal : ∀ text ∈ texts, Normal PyString.space text := fun text => normal_of_mem_removalOrder
    have bounded : WholeWords PyString.space (.scalar ' ') texts reading ↔ _ :=
      wholeWords_iff_bounded rfl normal reading
    rw [← bounded]
    exact ⟨fun handed => handed.whole, fun whole =>
      ⟨whole, congrArg (joinWords (.scalar ' ')) (words_left texts reading)⟩⟩

/-- A line that is a part of a word. -/
def partOfWord : OcrLine Int := ⟨PyString.ofString "cat", 1, 1, 0, 0, 1, 3, 0, false⟩

/-- The line "cat" cuts "cathedral", and a word is handed back that the model never read. -/
theorem validatedLines_cuts :
    validatedLines id [partOfWord] (PyString.ofString "cathedral") =
        ([⟨partOfWord, .confirmed⟩], PyString.ofString "hedral") ∧
      ¬∃ kept : List PyString,
        kept.Sublist (words PyString.space (normalized id (PyString.ofString "cathedral"))) ∧
          (validatedLines id [partOfWord] (PyString.ofString "cathedral")).2 = joinWords (.scalar ' ') kept := by
  have answer : validatedLines id [partOfWord] (PyString.ofString "cathedral") =
      ([⟨partOfWord, .confirmed⟩], PyString.ofString "hedral") := by
    decide +kernel
  refine ⟨answer, ?_⟩
  rintro ⟨kept, inside, same⟩
  have reading : words PyString.space (normalized id (PyString.ofString "cathedral")) =
      [PyString.ofString "cathedral"] := by
    decide +kernel
  rw [answer] at same
  rw [reading] at inside
  rcases List.sublist_singleton.mp inside with rfl | rfl
  · cases same
  · exact absurd same (by decide +kernel)

end MediaTranscription

end Omnitensor
