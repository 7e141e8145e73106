/-
This file says which texts the patterns of extracted events admit.

A pattern that is searched for admits what it matches, and that followed by one newline. Dates and times
are digits with separators; no pattern used here matches a null character.
-/

import Omnitensor.EventSchema

namespace Omnitensor

namespace Events

namespace EventPattern

/-- What a pattern with both anchors is found in. -/
theorem found_iff {matched : List Char → Bool} {text : PyString} :
    found matched text = true ↔ ∃ chars, matched chars = true ∧
      (text = .ofChars chars ∨ text = .ofChars (chars ++ ['\n'])) := by
  constructor
  · intro search
    cases known : PyString.chars? text with
    | none =>
      rw [found, known] at search
      cases search
    | some chars =>
      obtain rfl := PyString.eq_ofChars_of_chars? known
      rw [found, known, Option.any_some, Bool.or_eq_true, Bool.and_eq_true] at search
      rcases search with whole | ⟨newline, before⟩
      · exact ⟨chars, whole, .inl rfl⟩
      · refine ⟨chars.dropLast, before, .inr ?_⟩
        rw [List.dropLast_append_getLast? '\n' (of_decide_eq_true newline)]
  · rintro ⟨chars, fits, rfl | rfl⟩
    · rw [found, PyString.chars?_ofChars, Option.any_some, fits, Bool.true_or]
    · rw [found, PyString.chars?_ofChars, Option.any_some, List.getLast?_concat, List.dropLast_concat,
        fits]
      simp

/-- A character of a date or a time, which is a digit or a separator. -/
def momentChar (separator char : Char) : Bool := digit char || char == separator

theorem date_eq_true {chars : List Char} (fits : date chars = true) :
    chars.length = 10 ∧ chars.all (momentChar '-') = true := by
  unfold date at fits
  split at fits
  · simp only [List.all_cons, List.all_nil, Bool.and_eq_true, Bool.and_true] at fits
    simp [momentChar, fits]
  · cases fits

theorem time_eq_true {chars : List Char} (fits : time chars = true) :
    (chars.length = 5 ∨ chars.length = 8) ∧ chars.all (momentChar ':') = true := by
  unfold time at fits
  split at fits
  · rename_i rest
    simp only [List.all_cons, List.all_nil, Bool.and_eq_true, Bool.and_true, Bool.or_eq_true,
      List.isEmpty_iff, repeated, decide_eq_true_eq] at fits
    obtain ⟨digits, rfl | ⟨⟨long, short⟩, all⟩⟩ := fits
    · simp [momentChar, digits]
    · have three : rest.length = 3 := Nat.le_antisymm short long
      refine ⟨.inr (by simp [three]), ?_⟩
      simp only [List.all_cons, momentChar, digits, Bool.true_or, Bool.true_and, Bool.and_eq_true]
      exact ⟨by decide, all⟩
  · cases fits

end EventPattern

end Events

end Omnitensor
