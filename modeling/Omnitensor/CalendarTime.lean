/-
This file develops dates and times of day that exist, and the digits they are written with.

A date has a day that its month has in its year; a time of day has an hour, a minute and a second. Both are
written with a fixed number of digits for each part, which say what they are, and whose order as texts is
the order in time.
-/

import Omnitensor.PythonText

namespace Omnitensor

/-! ### Digits -/

/-- The last digits of a number, so many of them. -/
def fixedDigits : Nat → Nat → List Char
  | 0, _ => []
  | width + 1, number => Nat.digitChar (number / 10 ^ width % 10) :: fixedDigits width number

@[simp] theorem length_fixedDigits (width number : Nat) : (fixedDigits width number).length = width := by
  induction width with
  | zero => rfl
  | succ width inductionHypothesis => rw [fixedDigits, List.length_cons, inductionHypothesis]

variable {first second width : Nat}

theorem digitChar_lt (lt : first < second) (digit : second < 10) :
    Nat.digitChar first < Nat.digitChar second := by
  interval_cases second <;> interval_cases first <;> decide

/-- Digits depend on what is left over of the higher ones alone. -/
theorem fixedDigits_mod (width number : Nat) :
    fixedDigits width (number % 10 ^ width) = fixedDigits width number := by
  have general : ∀ low ≤ width, fixedDigits low (number % 10 ^ width) = fixedDigits low number := by
    intro low le
    induction low with
    | zero => rfl
    | succ low inductionHypothesis =>
      rw [fixedDigits, fixedDigits, inductionHypothesis (Nat.le_of_succ_le le)]
      congr 2
      obtain ⟨more, rfl⟩ : ∃ more, width = low + 1 + more := Nat.exists_eq_add_of_le le
      rw [show 10 ^ (low + 1 + more) = 10 ^ low * (10 * 10 ^ more) by ring, Nat.mod_mul_right_div_self,
        Nat.mod_mul_right_mod]
  exact general width (Nat.le_refl width)

/-- Texts of digits are ordered as the numbers are. -/
theorem fixedDigits_lt (lt : first < second) (bound : second < 10 ^ width) :
    fixedDigits width first < fixedDigits width second := by
  induction width generalizing first second with
  | zero =>
    rw [Nat.pow_zero, Nat.lt_one_iff] at bound
    exact absurd (bound ▸ lt) (Nat.not_lt_zero first)
  | succ width inductionHypothesis =>
    have power : 0 < 10 ^ width := Nat.pow_pos (by decide)
    have leading : second / 10 ^ width < 10 := by
      rw [Nat.div_lt_iff_lt_mul power]
      calc second
          _ < 10 ^ (width + 1) := bound
          _ = 10 * 10 ^ width := by ring
    have order : first / 10 ^ width ≤ second / 10 ^ width := Nat.div_le_div_right lt.le
    rw [fixedDigits, fixedDigits, Nat.mod_eq_of_lt leading, Nat.mod_eq_of_lt (order.trans_lt leading)]
    rcases order.lt_or_eq with less | same
    · exact List.Lex.rel (digitChar_lt less leading)
    · rw [same]
      refine List.Lex.cons ?_
      change fixedDigits width first < fixedDigits width second
      rw [← fixedDigits_mod width first, ← fixedDigits_mod width second]
      refine inductionHypothesis ?_ (Nat.mod_lt _ power)
      have firstParts := Nat.div_add_mod first (10 ^ width)
      have secondParts := Nat.div_add_mod second (10 ^ width)
      rw [same] at firstParts
      omega

theorem fixedDigits_inj {width first second : Nat} (firstBound : first < 10 ^ width)
    (secondBound : second < 10 ^ width) (same : fixedDigits width first = fixedDigits width second) :
    first = second := by
  rcases Nat.lt_trichotomy first second with less | equal | more
  · exact absurd (fixedDigits_lt less secondBound) (same ▸ lt_irrefl _)
  · exact equal
  · exact absurd (fixedDigits_lt more firstBound) (same ▸ lt_irrefl _)

theorem isDigit_fixedDigits {number : Nat} :
    ∀ char ∈ fixedDigits width number, '0' ≤ char ∧ char ≤ '9' := by
  induction width with
  | zero => exact fun _ member => by cases member
  | succ width inductionHypothesis =>
    intro char member
    rcases List.mem_cons.mp member with rfl | member
    · have digit : number / 10 ^ width % 10 < 10 := Nat.mod_lt _ (by decide)
      interval_cases number / 10 ^ width % 10 <;> decide
    · exact inductionHypothesis char member

/-- Texts of one length are ordered by their beginnings. -/
theorem append_lt_append {Value : Type} [LT Value] {first second rest other : List Value}
    (lt : first < second) (length : first.length = second.length) : first ++ rest < second ++ other := by
  induction lt with
  | nil => cases length
  | rel less => exact List.Lex.rel less
  | cons _ inductionHypothesis => exact List.Lex.cons (inductionHypothesis (Nat.succ.inj length))

/-! ### Dates -/

def leapYear (year : Nat) : Bool := year % 4 = 0 && (year % 100 ≠ 0 || year % 400 = 0)

def daysInMonth (year month : Nat) : Nat :=
  if month = 2 then if leapYear year then 29 else 28
  else if month ∈ [4, 6, 9, 11] then 30 else 31

/-- A date that exists, in a year of four digits. -/
structure CalendarDate where
  year : Nat
  month : Nat
  day : Nat
  validYear : 1 ≤ year ∧ year ≤ 9999
  validMonth : 1 ≤ month ∧ month ≤ 12
  validDay : 1 ≤ day ∧ day ≤ daysInMonth year month

/-- A time of day that exists. -/
structure ClockTime where
  hour : Nat
  minute : Nat
  second : Nat
  validHour : hour < 24
  validMinute : minute < 60
  validSecond : second < 60

namespace CalendarDate

/-- Dates are ordered as these numbers are. -/
def number (date : CalendarDate) : Nat := (date.year * 100 + date.month) * 100 + date.day

/-- Eight digits. -/
def digits (date : CalendarDate) : List Char :=
  fixedDigits 4 date.year ++ fixedDigits 2 date.month ++ fixedDigits 2 date.day

/-- Year, month and day with hyphens between them. -/
def text (date : CalendarDate) : List Char :=
  fixedDigits 4 date.year ++ '-' :: (fixedDigits 2 date.month ++ '-' :: fixedDigits 2 date.day)

theorem day_le (date : CalendarDate) : date.day ≤ 31 := by
  refine date.validDay.2.trans ?_
  rw [daysInMonth]
  split_ifs <;> decide

variable {first second : CalendarDate}

theorem number_lt_iff : first.number < second.number ↔
    first.year < second.year ∨ first.year = second.year ∧
      (first.month < second.month ∨ first.month = second.month ∧ first.day < second.day) := by
  have firstMonth := first.validMonth
  have secondMonth := second.validMonth
  have firstDay := first.day_le
  have secondDay := second.day_le
  rw [number, number]
  omega

/-- The texts of dates are ordered as the dates are. -/
theorem text_lt (before : first.number < second.number) : first.text < second.text := by
  have month : second.month < 10 ^ 2 := second.validMonth.2.trans_lt (by decide)
  have day : second.day < 10 ^ 2 := second.day_le.trans_lt (by decide)
  rw [text, text]
  rcases number_lt_iff.mp before with year | ⟨sameYear, rest⟩
  · exact append_lt_append (fixedDigits_lt year (second.validYear.2.trans_lt (by decide))) (by simp)
  · rw [sameYear]
    refine List.append_left_lt (List.Lex.cons ?_)
    rcases rest with earlier | ⟨sameMonth, earlier⟩
    · exact append_lt_append (fixedDigits_lt earlier month) (by simp)
    · rw [sameMonth]
      exact List.append_left_lt (List.Lex.cons (fixedDigits_lt earlier day))

theorem text_eq_iff : first.text = second.text ↔ first.number = second.number := by
  constructor
  · intro same
    rcases Nat.lt_trichotomy first.number second.number with less | equal | more
    · exact absurd (text_lt less) (same ▸ lt_irrefl _)
    · exact equal
    · exact absurd (text_lt more) (same ▸ lt_irrefl _)
  · intro same
    have firstMonth := first.validMonth
    have secondMonth := second.validMonth
    have firstDay := first.day_le
    have secondDay := second.day_le
    rw [number, number] at same
    obtain ⟨year, month, day⟩ :
        first.year = second.year ∧ first.month = second.month ∧ first.day = second.day := by omega
    rw [text, text, year, month, day]

end CalendarDate

/-! ### Times of day -/

namespace ClockTime

/-- Seconds since midnight. -/
def number (clock : ClockTime) : Nat := (clock.hour * 60 + clock.minute) * 60 + clock.second

/-- Hour and minute, four digits. -/
def hourMinute (clock : ClockTime) : List Char :=
  fixedDigits 2 clock.hour ++ fixedDigits 2 clock.minute

/-- Six digits. -/
def digits (clock : ClockTime) : List Char := clock.hourMinute ++ fixedDigits 2 clock.second

end ClockTime

end Omnitensor
