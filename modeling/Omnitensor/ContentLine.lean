/-
This file develops content lines, of which a calendar consists.

A content line is a name, parameters, and after a colon a value, and holds no control character other than
a tab. The value of a parameter is a quoted text, or a text without quotes, colons, semicolons and commas.
Lines that end with a carriage return and a line feed are found again by splitting at these, unless they
hold a carriage return of their own.
-/

import Omnitensor.DocumentAgreement

namespace Omnitensor

/-! ### Characters -/

/-- A character of a content line. -/
def Printable (point : CodePoint) : Prop :=
  point = .scalar '\t' ∨ 32 ≤ point.value ∧ point.value ≠ 127

instance (point : CodePoint) : Decidable (Printable point) :=
  inferInstanceAs (Decidable (point = .scalar '\t' ∨ 32 ≤ point.value ∧ point.value ≠ 127))

/-- A text without control characters. -/
def PrintableText (text : PyString) : Prop := ∀ point ∈ text, Printable point

instance (text : PyString) : Decidable (PrintableText text) :=
  inferInstanceAs (Decidable (∀ point ∈ text, Printable point))

/-- The characters that end a parameter value. -/
def parameterDelimiters : PyString := .ofString "\":;,"

/-- The value of a parameter. -/
def ParameterValue (value : PyString) : Prop :=
  PrintableText value ∧ ((∀ point ∈ value, point ∉ parameterDelimiters) ∨
    ∃ inner, value = .scalar '"' :: inner ++ [.scalar '"'] ∧ CodePoint.scalar '"' ∉ inner)

/-- A name of a property or a parameter. -/
def isToken (name : String) : Bool :=
  !name.isEmpty && name.toList.all fun char => char.isAlphanum || char == '-'

theorem printableText_append {first second : PyString} :
    PrintableText (first ++ second) ↔ PrintableText first ∧ PrintableText second :=
  List.forall_mem_append

theorem not_printable_newline : ¬ Printable (.scalar '\n') := by decide

theorem not_printable_return : ¬ Printable (.scalar '\r') := by decide

/-! ### Lines -/

/-- What stands before the value of a line: its name and its parameters. -/
structure LineHead where
  name : String
  parameters : List (String × PyString)

namespace LineHead

/-- The name of a line with its parameters. -/
def text (head : LineHead) : PyString :=
  PyString.ofString head.name ++ head.parameters.flatMap fun parameter =>
    PyString.ofString ";" ++ .ofString parameter.1 ++ .ofString "=" ++ parameter.2

/-- Names are names, and parameters have values. -/
structure WellFormed (head : LineHead) : Prop where
  name : isToken head.name = true
  parameters : ∀ parameter ∈ head.parameters, isToken parameter.1 = true ∧ ParameterValue parameter.2

end LineHead

/-- A content line with this head. -/
def IsContentLine (head : LineHead) (line : PyString) : Prop :=
  head.WellFormed ∧ ∃ value, PrintableText value ∧ line = head.text ++ .ofString ":" ++ value

theorem isContentLine_iff {head : LineHead} {value : PyString} :
    IsContentLine head (head.text ++ .ofString ":" ++ value) ↔ head.WellFormed ∧ PrintableText value := by
  refine and_congr_right fun _ => ⟨?_, fun printable => ⟨value, printable, rfl⟩⟩
  rintro ⟨other, printable, same⟩
  rw [List.append_cancel_left same]
  exact printable

theorem printable_ofChars {chars : List Char} (all : chars.all fun char => decide (Printable (.scalar char))) :
    PrintableText (.ofChars chars) := by
  intro point member
  obtain ⟨char, inside, rfl⟩ := List.mem_map.mp member
  exact of_decide_eq_true (List.all_eq_true.mp all char inside)

theorem printable_of_isToken {name : String} (token : isToken name = true) :
    PrintableText (.ofString name) := by
  rw [isToken, Bool.and_eq_true, List.all_eq_true] at token
  refine printable_ofChars (List.all_eq_true.mpr fun char member => decide_eq_true (.inr ?_))
  have known := token.2 char member
  simp only [Char.isAlphanum, Char.isAlpha, Char.isUpper, Char.isLower, Char.isDigit, Bool.or_eq_true,
    Bool.and_eq_true, decide_eq_true_eq, beq_iff_eq, ge_iff_le, UInt32.le_iff_toNat_le] at known
  change 32 ≤ char.val.toNat ∧ char.val.toNat ≠ 127
  rcases known with ((upper | lower) | digit) | rfl
  · exact ⟨le_trans (by decide) upper.1, (upper.2.trans_lt (by decide)).ne⟩
  · exact ⟨le_trans (by decide) lower.1, (lower.2.trans_lt (by decide)).ne⟩
  · exact ⟨le_trans (by decide) digit.1, (digit.2.trans_lt (by decide)).ne⟩
  · decide

/-- A content line holds no control character. -/
theorem IsContentLine.printable {head : LineHead} {line : PyString} (content : IsContentLine head line) :
    PrintableText line := by
  obtain ⟨wellFormed, value, printable, rfl⟩ := content
  rw [printableText_append, printableText_append, LineHead.text, printableText_append]
  refine ⟨⟨⟨printable_of_isToken wellFormed.name, ?_⟩, by decide⟩, printable⟩
  intro point member
  obtain ⟨parameter, inside, member⟩ := List.mem_flatMap.mp member
  obtain ⟨token, values, _⟩ := wellFormed.parameters parameter inside
  have whole : PrintableText (.ofString ";" ++ .ofString parameter.1 ++ .ofString "=" ++ parameter.2) := by
    simp only [printableText_append]
    exact ⟨⟨⟨by decide, printable_of_isToken token⟩, by decide⟩, values⟩
  exact whole point member

/-! ### Splitting -/

/-- Put a character before the first part. -/
def consPart (point : CodePoint) : List PyString → List PyString
  | [] => [[point]]
  | part :: parts => (point :: part) :: parts

/-- The parts of a text between carriage returns that line feeds follow. -/
def splitCrlf : PyString → List PyString
  | [] => [[]]
  | [point] => [[point]]
  | point :: next :: rest =>
    if point = .scalar '\r' ∧ next = .scalar '\n' then [] :: splitCrlf rest
    else consPart point (splitCrlf (next :: rest))

theorem splitCrlf_cons {point : CodePoint} (other : point ≠ .scalar '\r') (text : PyString) :
    splitCrlf (point :: text) = consPart point (splitCrlf text) := by
  cases text with
  | nil => rfl
  | cons next rest => rw [splitCrlf, if_neg fun same => other same.1]

/-- A line is the first part of a text that it ends in. -/
theorem splitCrlf_line {line : PyString} (unbroken : CodePoint.scalar '\r' ∉ line) (rest : PyString) :
    splitCrlf (line ++ .scalar '\r' :: .scalar '\n' :: rest) = line :: splitCrlf rest := by
  induction line with
  | nil => rw [List.nil_append, splitCrlf, if_pos ⟨rfl, rfl⟩]
  | cons point line inductionHypothesis =>
    rw [List.mem_cons, not_or] at unbroken
    rw [List.cons_append, splitCrlf_cons (Ne.symm unbroken.1), inductionHypothesis unbroken.2, consPart]

/-- Lines that each end are the parts of their text, and nothing is after the last end. -/
theorem splitCrlf_lines {lines : List PyString} (unbroken : ∀ line ∈ lines, CodePoint.scalar '\r' ∉ line) :
    splitCrlf (lines.flatMap fun line => line ++ PyString.ofString "\r\n") = lines ++ [[]] := by
  induction lines with
  | nil => rfl
  | cons line lines inductionHypothesis =>
    obtain ⟨first, others⟩ := List.forall_mem_cons.mp unbroken
    rw [List.flatMap_cons, List.append_assoc]
    exact (splitCrlf_line first _).trans (congrArg _ (inductionHypothesis others))

/-- A calendar in which nothing was injected: its text is these lines and their ends, and each of them is
a content line with the head it is meant to have. -/
structure Uninjected (heads : List LineHead) (lines : List PyString) (text : PyString) : Prop where
  split : splitCrlf text = lines ++ [[]]
  unbroken : ∀ line ∈ lines, CodePoint.scalar '\r' ∉ line ∧ CodePoint.scalar '\n' ∉ line
  content : List.Forall₂ IsContentLine heads lines

/-- Content lines that end in a carriage return and a line feed are an uninjected calendar. -/
theorem uninjected_iff {heads : List LineHead} {lines : List PyString} :
    Uninjected heads lines (lines.flatMap fun line => line ++ PyString.ofString "\r\n") ↔
      List.Forall₂ IsContentLine heads lines := by
  refine ⟨Uninjected.content, fun content => ?_⟩
  have printable : ∀ line ∈ lines, PrintableText line := by
    intro line member
    obtain ⟨position, inside, rfl⟩ := List.mem_iff_getElem.mp member
    exact ((List.forall₂_iff_get.mp content).2 position (content.length_eq ▸ inside) inside).printable
  have unbroken : ∀ line ∈ lines, CodePoint.scalar '\r' ∉ line ∧ CodePoint.scalar '\n' ∉ line :=
    fun line member => ⟨fun inside => not_printable_return (printable line member _ inside),
      fun inside => not_printable_newline (printable line member _ inside)⟩
  exact ⟨splitCrlf_lines fun line member => (unbroken line member).1, unbroken, content⟩

end Omnitensor
