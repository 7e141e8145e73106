/-
This file proves when a rendered event has a real time span.

The contract only asks for digits: it admits the thirteenth month, the hour twenty-five and a newline after
either, and that an event with a time ends on a day or one without at a moment. A start and an end are
compared as texts, in which ten o'clock comes before ten o'clock and no seconds. What is left to ask for
is that dates and times exist, that both ends have the same type, and that an end on the day of its start
is later by the clock.
-/

import Omnitensor.CalendarTime
import Omnitensor.EventDecisions

namespace Omnitensor

namespace Events

/-! ### Values -/

/-- Which zone a moment is of: whichever the reader is in, universal time, or a zone with a name. -/
inductive ZoneForm where
  | floating
  | utc
  | named (name : PyString)

def ZoneForm.parameter : ZoneForm → PyString
  | floating => []
  | utc => []
  | named name => .ofString ";TZID=" ++ name

def ZoneForm.suffix : ZoneForm → PyString
  | floating => []
  | utc => .ofString "Z"
  | named _ => []

/-- What the start or the end of an event denotes. -/
inductive CalendarValue where
  | day (date : CalendarDate)
  | moment (zone : ZoneForm) (date : CalendarDate) (clock : ClockTime)

namespace CalendarValue

def timed : CalendarValue → Bool
  | day _ => false
  | moment _ _ _ => true

def parameter : CalendarValue → PyString
  | day _ => .ofString ";VALUE=DATE"
  | moment zone _ _ => zone.parameter

def text : CalendarValue → PyString
  | day date => .ofChars date.digits
  | moment zone date clock =>
    .ofChars date.digits ++ .ofString "T" ++ .ofChars clock.digits ++ zone.suffix

/-- The line of a property that has this value. -/
def line (name : String) (value : CalendarValue) : PyString :=
  .ofString name ++ value.parameter ++ .ofString ":" ++ value.text

/-- An end may follow a start: it has the same type and zone, and is later, or a day that is not
earlier. -/
def Before : CalendarValue → CalendarValue → Prop
  | day first, day last => first.number ≤ last.number
  | moment zone date clock, moment lastZone lastDate lastClock => zone = lastZone ∧
      (date.number < lastDate.number ∨
        date.number = lastDate.number ∧ clock.number < lastClock.number)
  | _, _ => False

end CalendarValue

/-- Whether a line is one of this property. -/
def isLineOf (name : String) (line : PyString) : Bool := (PyString.ofString name).isPrefixOf line

/-- An event with these moments is rendered with one start, which exists and has a time if one is
stated, and with an end only if that exists too and may follow the start. -/
def RealSpan («when» : EventWhen) (lines : List PyString) : Prop :=
  ∃ start : CalendarValue, lines.filter (isLineOf "DTSTART") = [start.line "DTSTART"] ∧
    start.timed = «when».time.isSome ∧
    ∀ line ∈ lines.filter (isLineOf "DTEND"), ∃ finish : CalendarValue,
      line = finish.line "DTEND" ∧ start.Before finish

/-! ### Stated moments -/

/-- A text states this time: its digits are, whatever the colons between them. -/
def StatesClock (text : PyString) (clock : ClockTime) : Prop :=
  let digits := text.filter fun point => decide (point ≠ .scalar ':')
  digits = PyString.ofChars clock.digits ∨ digits = PyString.ofChars clock.hourMinute ∧ clock.second = 0

/-- Dates and times exist, an end has a time exactly if the start has one, and one on the day of the start
is later. -/
structure RealMoments («when» : EventWhen) : Prop where
  date : ∀ text ∈ «when».date, ∃ date : CalendarDate, text = .ofChars date.text
  time : ∀ text ∈ «when».time, ∃ clock, StatesClock text clock
  endDate : ∀ text ∈ «when».endDate, ∃ date : CalendarDate, text = .ofChars date.text
  endTime : ∀ text ∈ «when».endTime, ∃ clock, StatesClock text clock
  alike : «when».endDate.isSome ∨ «when».endTime.isSome →
    «when».endTime.isSome = «when».time.isSome
  later : «when».endDate = none ∨ «when».endDate = «when».date →
    ∀ first ∈ «when».time, ∀ last ∈ «when».endTime, ∀ start finish : ClockTime,
      StatesClock first start → StatesClock last finish → start.number < finish.number

theorem ofChars_inj {first second : List Char} :
    PyString.ofChars first = .ofChars second ↔ first = second :=
  (List.map_injective_iff.mpr fun _ _ => CodePoint.scalar.inj).eq_iff

theorem replaceChar_nil (old : Char) (text : PyString) :
    replaceChar old [] text = text.filter fun point => decide (point ≠ .scalar old) := by
  induction text with
  | nil => rfl
  | cons point text inductionHypothesis =>
    rw [replaceChar, List.flatMap_cons, ← replaceChar, inductionHypothesis, List.filter_cons]
    split_ifs with same other other
    · simp [same] at other
    · rfl
    · rfl
    · simp [same] at other

variable {first second text date : PyString} {name : String} {timezone : Option EventTimezone}
  {event : EventCandidate}

/-- A time is rendered as the digits of the time that it states. -/
theorem icsClock_eq_iff {clock : ClockTime} :
    icsClock text = .ofChars clock.digits ↔ StatesClock text clock := by
  have six : clock.digits.length = 6 := by simp [ClockTime.digits, ClockTime.hourMinute]
  have four : clock.hourMinute.length = 4 := by simp [ClockTime.hourMinute]
  have zero : PyString.ofString "00" = .ofChars (fixedDigits 2 0) := by decide
  simp only [icsClock, StatesClock, replaceChar_nil]
  split_ifs with short
  · constructor
    · intro same
      rw [ClockTime.digits, PyString.ofChars_append, zero] at same
      obtain ⟨front, back⟩ := List.append_inj same (by rw [short, PyString.length_ofChars, four])
      have bound : clock.second < 10 ^ 2 := clock.validSecond.trans (by decide)
      exact .inr ⟨front, fixedDigits_inj bound (by decide) (ofChars_inj.mp back).symm⟩
    · rintro (same | ⟨same, second⟩)
      · rw [same, PyString.length_ofChars, six] at short
        exact absurd short (by decide)
      · rw [same, zero, ClockTime.digits, second, PyString.ofChars_append]
  · refine ⟨.inl, fun states => states.resolve_right fun ⟨same, _⟩ => short ?_⟩
    rw [same, PyString.length_ofChars, four]

theorem filter_ofChars_of_digits {separator : Char} {chars : List Char}
    (other : EventPattern.digit separator = false) (digits : chars.all EventPattern.digit = true) :
    ((PyString.ofChars chars).filter fun point => decide (point ≠ .scalar separator)) =
      PyString.ofChars chars := by
  refine List.filter_eq_self.mpr fun point member => ?_
  obtain ⟨char, inside, rfl⟩ := List.mem_map.mp member
  rw [decide_eq_true_eq]
  rintro same
  rw [CodePoint.scalar.inj same] at inside
  exact absurd (List.all_eq_true.mp digits _ inside) (by simp [other])

/-- Year, month and day of a text that matches the pattern of dates. -/
theorem parts_of_date {chars : List Char} (fits : EventPattern.date chars = true) :
    ∃ year month day : List Char, chars = year ++ '-' :: (month ++ '-' :: day) ∧
      year.length = 4 ∧ month.length = 2 ∧ day.length = 2 ∧
      (year ++ month ++ day).all EventPattern.digit = true := by
  unfold EventPattern.date at fits
  split at fits
  · rename_i y1 y2 y3 y4 m1 m2 d1 d2
    exact ⟨[y1, y2, y3, y4], [m1, m2], [d1, d2], rfl, rfl, rfl, rfl, fits⟩
  · cases fits

theorem icsStamp_parts {year month day : List Char} (more : List Char)
    (digits : (year ++ month ++ day).all EventPattern.digit = true) :
    icsStamp (.ofChars (year ++ '-' :: (month ++ '-' :: day) ++ more)) =
      .ofChars (year ++ month ++ day) ++ icsStamp (.ofChars more) := by
  rw [List.all_append, List.all_append, Bool.and_eq_true, Bool.and_eq_true] at digits
  have kept := fun {chars} => @filter_ofChars_of_digits '-' chars (by decide)
  simp only [icsStamp, replaceChar_nil, PyString.ofChars_append, PyString.ofChars_cons,
    List.filter_append, List.filter_cons, kept digits.1.1, kept digits.1.2, kept digits.2,
    List.append_assoc]
  simp

theorem all_digit_fixedDigits (width number : Nat) :
    (fixedDigits width number).all EventPattern.digit = true :=
  List.all_eq_true.mpr fun char member => decide_eq_true (isDigit_fixedDigits char member)

theorem icsStamp_text (date : CalendarDate) : icsStamp (.ofChars date.text) = .ofChars date.digits := by
  have digits : (fixedDigits 4 date.year ++ fixedDigits 2 date.month ++
      fixedDigits 2 date.day).all EventPattern.digit = true := by
    simp only [List.all_append, all_digit_fixedDigits, Bool.and_self]
  have parts := icsStamp_parts [] digits
  rw [List.append_nil] at parts
  exact parts.trans (List.append_nil _)

/-- A date is rendered as the digits of the date that it states. -/
theorem icsStamp_eq_iff {date : CalendarDate}
    (admitted : EventPattern.found EventPattern.date text = true) :
    icsStamp text = .ofChars date.digits ↔ text = .ofChars date.text := by
  refine ⟨fun same => ?_, fun same => same ▸ icsStamp_text date⟩
  obtain ⟨chars, fits, place⟩ := EventPattern.found_iff.mp admitted
  obtain ⟨year, month, day, rfl, four, two, two', digits⟩ := parts_of_date fits
  have whole : ∀ more, icsStamp (.ofChars (year ++ '-' :: (month ++ '-' :: day) ++ more)) =
      .ofChars date.digits → icsStamp (.ofChars more) = [] ∧
        year ++ '-' :: (month ++ '-' :: day) = date.text := by
    intro more rendered
    rw [icsStamp_parts more digits, ← List.append_nil (PyString.ofChars date.digits)] at rendered
    obtain ⟨parts, none⟩ := List.append_inj rendered
      (by simp [CalendarDate.digits, four, two, two'])
    obtain ⟨front, sameDay⟩ := List.append_inj (ofChars_inj.mp parts)
      (by simp [four, two])
    obtain ⟨sameYear, sameMonth⟩ := List.append_inj front (by simp [four])
    exact ⟨none, by rw [sameYear, sameMonth, sameDay, CalendarDate.text]⟩
  rcases place with rfl | rfl
  · rw [(whole [] (by rw [List.append_nil]; exact same)).2]
  · exact absurd (whole ['\n'] same).1 (by decide)

/-! ### Lines -/

/-- The zone of a moment that states this one. -/
def zoneForm : Option EventTimezone → ZoneForm
  | none => .floating
  | some timezone =>
    if timezone.name = .ofString "floating" then .floating
    else if timezone.name = .ofString "UTC" then .utc
    else .named timezone.name

theorem icsMoment_of_timed (name : String) (date time : PyString) (timezone : Option EventTimezone) :
    icsMoment name date (some time) timezone = .ofString name ++ (zoneForm timezone).parameter ++
      .ofString ":" ++ (icsStamp date ++ .ofString "T" ++ icsClock time ++ (zoneForm timezone).suffix) := by
  cases timezone with
  | none => simp [icsMoment, zoneForm, ZoneForm.parameter, ZoneForm.suffix]
  | some timezone =>
    simp only [icsMoment, zoneForm]
    split_ifs <;> simp [ZoneForm.parameter, ZoneForm.suffix]

/-- Texts after a separator that they do not hold are the same if the whole texts are. -/
theorem append_last_separator_inj {Value : Type} {separator : Value} {first second rest other : List Value}
    (restFree : separator ∉ rest) (otherFree : separator ∉ other)
    (same : first ++ separator :: rest = second ++ separator :: other) :
    first = second ∧ rest = other := by
  have reversed := congrArg List.reverse same
  simp only [List.reverse_append, List.reverse_cons, List.append_assoc, List.singleton_append] at reversed
  obtain ⟨last, before⟩ := append_separator_inj (List.mem_reverse.not.mpr restFree)
    (List.mem_reverse.not.mpr otherFree) reversed
  exact ⟨List.reverse_inj.mp before, List.reverse_inj.mp last⟩

/-- A text of digits, which a newline may follow. -/
def Numeric (text : PyString) : Prop :=
  ∀ point ∈ text, ∃ char, point = .scalar char ∧ (EventPattern.digit char = true ∨ char = '\n')

theorem Numeric.notMem (numeric : Numeric text) {char : Char}
    (other : EventPattern.digit char = false) (within : char ≠ '\n') :
    CodePoint.scalar char ∉ text := by
  intro member
  obtain ⟨same, equal, digit | newline⟩ := numeric _ member
  · rw [← CodePoint.scalar.inj equal, other] at digit
    cases digit
  · exact within (CodePoint.scalar.inj equal ▸ newline)

theorem Numeric.append (one : Numeric first) (two : Numeric second) :
    Numeric (first ++ second) := List.forall_mem_append.mpr ⟨one, two⟩

theorem numeric_ofChars {chars : List Char} (digits : chars.all EventPattern.digit = true) :
    Numeric (.ofChars chars) := by
  intro point member
  obtain ⟨char, inside, rfl⟩ := List.mem_map.mp member
  exact ⟨char, rfl, .inl (List.all_eq_true.mp digits char inside)⟩

/-- A date or a time without its separators is numeric. -/
theorem numeric_filter {matched : List Char → Bool} {separator : Char}
    (moment : ∀ chars, matched chars = true → chars.all (EventPattern.momentChar separator) = true)
    (admitted : EventPattern.found matched text = true) :
    Numeric (text.filter fun point => decide (point ≠ .scalar separator)) := by
  obtain ⟨chars, fits, place⟩ := EventPattern.found_iff.mp admitted
  have known : ∀ char ∈ chars, char = separator ∨ EventPattern.digit char = true := by
    intro char member
    have either := List.all_eq_true.mp (moment chars fits) char member
    rw [EventPattern.momentChar, Bool.or_eq_true, beq_iff_eq] at either
    exact either.symm
  intro point member
  obtain ⟨inside, other⟩ := List.mem_filter.mp member
  have other := of_decide_eq_true other
  rcases place with rfl | rfl
  · obtain ⟨char, there, rfl⟩ := List.mem_map.mp inside
    exact ⟨char, rfl, .inl ((known char there).resolve_left fun same => other (same ▸ rfl))⟩
  · obtain ⟨char, there, rfl⟩ := List.mem_map.mp inside
    refine ⟨char, rfl, ?_⟩
    rcases List.mem_append.mp there with there | last
    · exact .inl ((known char there).resolve_left fun same => other (same ▸ rfl))
    · exact .inr (List.mem_singleton.mp last)

theorem numeric_icsStamp (admitted : EventPattern.found EventPattern.date text = true) :
    Numeric (icsStamp text) := by
  rw [icsStamp, replaceChar_nil]
  exact numeric_filter (fun _ fits => (EventPattern.date_eq_true fits).2) admitted

theorem numeric_icsClock (admitted : EventPattern.found EventPattern.time text = true) :
    Numeric (icsClock text) := by
  have digits := numeric_filter (fun _ fits => (EventPattern.time_eq_true fits).2) admitted
  simp only [icsClock, replaceChar_nil]
  split_ifs
  · exact digits.append (@numeric_ofChars ['0', '0'] (by decide))
  · exact digits

theorem numeric_digits (date : CalendarDate) : Numeric (.ofChars date.digits) :=
  numeric_ofChars (by simp only [CalendarDate.digits, List.all_append, all_digit_fixedDigits, Bool.and_self])

theorem ClockTime.numeric_digits (clock : ClockTime) : Numeric (.ofChars clock.digits) :=
  numeric_ofChars (by simp only [ClockTime.digits, ClockTime.hourMinute, List.all_append,
    all_digit_fixedDigits, Bool.and_self])

theorem ZoneForm.colon_notMem_suffix (zone : ZoneForm) : CodePoint.scalar ':' ∉ zone.suffix := by
  cases zone with
  | floating => exact List.not_mem_nil
  | utc => decide
  | named _ => exact List.not_mem_nil

theorem CalendarValue.colon_notMem_text (value : CalendarValue) : CodePoint.scalar ':' ∉ value.text := by
  cases value with
  | day date => exact (numeric_digits date).notMem (by decide) (by decide)
  | moment zone date clock =>
    simp only [text, List.mem_append, not_or]
    refine ⟨⟨⟨(numeric_digits date).notMem (by decide) (by decide), by decide⟩,
      (ClockTime.numeric_digits clock).notMem (by decide) (by decide)⟩, zone.colon_notMem_suffix⟩

/-- A line is the line of a value if its parameter and its value are. -/
theorem eq_line_iff {parameter : PyString} (free : CodePoint.scalar ':' ∉ text)
    (value : CalendarValue) :
    .ofString name ++ parameter ++ .ofString ":" ++ text = value.line name ↔
      parameter = value.parameter ∧ text = value.text := by
  constructor
  · intro same
    rw [CalendarValue.line, List.append_assoc, List.append_assoc, List.append_assoc, List.append_assoc] at same
    exact append_last_separator_inj free value.colon_notMem_text (List.append_cancel_left same)
  · rintro ⟨rfl, rfl⟩
    rfl

theorem icsMoment_eq_day (admitted : EventPattern.found EventPattern.date date = true)
    (value : CalendarValue) :
    icsMoment name date none timezone = value.line name ↔
      ∃ day : CalendarDate, value = .day day ∧ date = .ofChars day.text := by
  have free := (numeric_icsStamp admitted).notMem (show EventPattern.digit ':' = false by decide) (by decide)
  have written : icsMoment name date none timezone =
      .ofString name ++ .ofString ";VALUE=DATE" ++ .ofString ":" ++ icsStamp date := by
    simp only [icsMoment, List.append_assoc]
    rfl
  rw [written, eq_line_iff free]
  constructor
  · rintro ⟨parameter, text⟩
    cases value with
    | day day => exact ⟨day, rfl, (icsStamp_eq_iff admitted).mp text⟩
    | moment zone _ _ => cases zone <;> cases parameter
  · rintro ⟨day, rfl, stated⟩
    exact ⟨rfl, (icsStamp_eq_iff admitted).mpr stated⟩

/-- Zones with the same parameter and suffix are the same. -/
theorem ZoneForm.eq_of_parts {first second : ZoneForm} (parameter : first.parameter = second.parameter)
    (suffix : first.suffix = second.suffix) : first = second := by
  match first, second with
  | floating, floating => rfl
  | utc, utc => rfl
  | named _, named _ => rw [List.append_cancel_left parameter]
  | floating, utc => cases suffix
  | utc, floating => cases suffix
  | floating, named _ => cases parameter
  | named _, floating => cases parameter
  | utc, named _ => cases suffix
  | named _, utc => cases suffix

theorem ZoneForm.suffix_cases (zone : ZoneForm) : zone.suffix = [] ∨ zone.suffix = [.scalar 'Z'] := by
  cases zone with
  | floating => exact .inl rfl
  | utc => exact .inr rfl
  | named _ => exact .inl rfl

/-- The suffix of a moment can be told from its digits. -/
theorem append_suffix_inj (firstNumeric : Numeric first) (secondNumeric : Numeric second)
    {one two : ZoneForm} (same : first ++ one.suffix = second ++ two.suffix) :
    first = second ∧ one.suffix = two.suffix := by
  have zulu : ∀ {text : PyString}, Numeric text → CodePoint.scalar 'Z' ∉ text :=
    fun numeric => numeric.notMem (by decide) (by decide)
  rcases one.suffix_cases with oneNone | oneZulu <;> rcases two.suffix_cases with twoNone | twoZulu
  · rw [oneNone, twoNone, List.append_nil, List.append_nil] at same
    exact ⟨same, oneNone.trans twoNone.symm⟩
  · rw [oneNone, twoZulu, List.append_nil] at same
    exact absurd (same ▸ List.mem_append_right _ (List.mem_singleton_self _)) (zulu firstNumeric)
  · rw [oneZulu, twoNone, List.append_nil] at same
    exact absurd (same ▸ List.mem_append_right _ (List.mem_singleton_self _)) (zulu secondNumeric)
  · rw [oneZulu, twoZulu] at same
    exact ⟨List.append_cancel_right same, oneZulu.trans twoZulu.symm⟩

theorem icsMoment_eq_moment {time : PyString}
    (dateAdmitted : EventPattern.found EventPattern.date date = true)
    (timeAdmitted : EventPattern.found EventPattern.time time = true) (value : CalendarValue) :
    icsMoment name date (some time) timezone = value.line name ↔
      ∃ (day : CalendarDate) (clock : ClockTime), value = .moment (zoneForm timezone) day clock ∧
        date = .ofChars day.text ∧ StatesClock time clock := by
  have stampFree : ∀ {char}, EventPattern.digit char = false → char ≠ '\n' →
      CodePoint.scalar char ∉ icsStamp date := (numeric_icsStamp dateAdmitted).notMem
  have free : CodePoint.scalar ':' ∉
      icsStamp date ++ .ofString "T" ++ icsClock time ++ (zoneForm timezone).suffix := by
    simp only [List.mem_append, not_or]
    exact ⟨⟨⟨stampFree (by decide) (by decide), by decide⟩,
      (numeric_icsClock timeAdmitted).notMem (by decide) (by decide)⟩, ZoneForm.colon_notMem_suffix _⟩
  rw [icsMoment_of_timed, eq_line_iff free]
  constructor
  · rintro ⟨parameter, text⟩
    cases value with
    | day day =>
      generalize zoneForm timezone = zone at parameter
      cases zone <;> cases parameter
    | moment zone day clock =>
      simp only [CalendarValue.text, List.append_assoc] at text
      obtain ⟨stamp, rest⟩ := append_separator_inj (stampFree (by decide) (by decide))
        ((numeric_digits day).notMem (by decide) (by decide)) text
      obtain ⟨digits, suffix⟩ := append_suffix_inj (numeric_icsClock timeAdmitted)
        (ClockTime.numeric_digits clock) rest
      exact ⟨day, clock, by rw [ZoneForm.eq_of_parts parameter suffix],
        (icsStamp_eq_iff dateAdmitted).mp stamp, icsClock_eq_iff.mp digits⟩
  · rintro ⟨day, clock, rfl, stated, states⟩
    refine ⟨rfl, ?_⟩
    rw [(icsStamp_eq_iff dateAdmitted).mpr stated, icsClock_eq_iff.mpr states]
    rfl

/-! ### Components -/

section

variable {host : EventHost} {raw : Document} {event : EventCandidate}

/-- The status of an accepted event has a name in a calendar. -/
theorem icsStatus_of_admitted (valid : (EventSchema.event host).valid raw = true)
    (admitted : Admitted host raw event) : ∃ lines, icsStatus event.status = some lines ∧
      lines ⊆ [.ofString "STATUS:CANCELLED", .ofString "STATUS:TENTATIVE"] := by
  have words := members_of_valid_record (valid_eventDocument_of_admitted valid admitted)
    ("status", false, .words ["scheduled", "tentative", "postponed", "cancelled"]) (by simp)
  simp only [Document.field_present_cons, reduceIte, String.reduceEq] at words
  have known := of_decide_eq_true words
  simp only [List.map_cons, List.map_nil, List.mem_cons, List.not_mem_nil, or_false] at known
  rcases known with same | same | same | same <;> rw [same]
  · exact ⟨[], by decide, List.nil_subset _⟩
  · exact ⟨[.ofString "STATUS:TENTATIVE"], by decide, by simp⟩
  · exact ⟨[.ofString "STATUS:TENTATIVE"], by decide, by simp⟩
  · exact ⟨[.ofString "STATUS:CANCELLED"], by decide, by simp⟩

end

/-- A line that is neither the start nor the end of an event. -/
def Untimed (line : PyString) : Prop := isLineOf "DTSTART" line = false ∧ isLineOf "DTEND" line = false

theorem untimed_common {common : List PyString} (rendered : icsCommon event = some common) :
    ∀ line ∈ common, Untimed line := by
  obtain ⟨status, named, rfl⟩ := Option.map_eq_some_iff.mp rendered
  simp only [List.forall_mem_append]
  refine ⟨⟨⟨?_, ?_⟩, ?_⟩, ?_⟩
  · cases event.what with
    | none => exact List.forall_mem_nil _
    | some what => exact List.forall_mem_singleton.mpr ⟨rfl, rfl⟩
  · intro line member
    obtain ⟨place, _, member⟩ := List.mem_flatMap.mp member
    rcases List.mem_append.mp member with member | member
    · split at member
      · exact absurd member List.not_mem_nil
      · rw [List.mem_singleton.mp member]
        exact ⟨rfl, rfl⟩
    · split at member
      · exact absurd member List.not_mem_nil
      · rw [List.mem_singleton.mp member]
        exact ⟨rfl, rfl⟩
  · intro line member
    obtain ⟨people, _, member⟩ := List.mem_flatMap.mp member
    rcases List.mem_append.mp member with member | member
    · obtain ⟨organiser, _, rfl⟩ := List.mem_map.mp member
      exact ⟨rfl, rfl⟩
    · obtain ⟨participant, _, rfl⟩ := List.mem_map.mp member
      exact ⟨rfl, rfl⟩
  · rw [icsStatus] at named
    split_ifs at named
    · cases named
      exact List.forall_mem_nil _
    · cases named
      exact List.forall_mem_singleton.mpr ⟨rfl, rfl⟩
    · cases named
      exact List.forall_mem_singleton.mpr ⟨rfl, rfl⟩

theorem isLineOf_icsMoment (name : String) (date : PyString) (time : Option PyString)
    (timezone : Option EventTimezone) : isLineOf name (icsMoment name date time timezone) = true := by
  have front : ∀ rest, isLineOf name (.ofString name ++ rest) = true := fun rest =>
    List.isPrefixOf_iff_prefix.mpr (List.prefix_append _ rest)
  cases time with
  | none => 
    simp only [icsMoment, List.append_assoc]
    exact front _
  | some time =>
    rw [icsMoment_of_timed]
    simp only [List.append_assoc]
    exact front _

theorem not_isLineOf_icsMoment {time : Option PyString} :
    isLineOf "DTEND" (icsMoment "DTSTART" date time timezone) = false ∧
      isLineOf "DTSTART" (icsMoment "DTEND" date time timezone) = false := by
  cases time with
  | none => exact ⟨rfl, rfl⟩
  | some time =>
    rw [icsMoment_of_timed, icsMoment_of_timed]
    exact ⟨rfl, rfl⟩

theorem filter_untimed {lines : List PyString} (untimed : ∀ line ∈ lines, Untimed line) :
    lines.filter (isLineOf "DTSTART") = [] ∧ lines.filter (isLineOf "DTEND") = [] := by
  constructor
  · exact List.filter_eq_nil_iff.mpr fun line member => by simp [(untimed line member).1]
  · exact List.filter_eq_nil_iff.mpr fun line member => by simp [(untimed line member).2]

/-- The start and the end of a component are rendered once, and as they are stated. -/
theorem moments_of_component {digest : List UInt8 → PyString} {lines : List PyString}
    (placed : event.when.date = some date) (rendered : calendarComponent digest event = some lines) :
    lines.filter (isLineOf "DTSTART") =
        [icsMoment "DTSTART" date event.when.time event.when.timezone] ∧
      lines.filter (isLineOf "DTEND") = (endDay event.when).toList.map fun day =>
        icsMoment "DTEND" day event.when.endTime event.when.timezone := by
  rw [calendarComponent, placed] at rendered
  obtain ⟨uid, _, rendered⟩ := Option.bind_eq_some_iff.mp rendered
  obtain ⟨common, described, rendered⟩ := Option.bind_eq_some_iff.mp rendered
  cases rendered
  have recurrence : ∀ line ∈ event.repeats.toList.flatMap (fun repeats =>
      (.ofString "RRULE:" ++ icsRrule repeats) :: repeats.exceptions.map fun excluded =>
        .ofString "EXDATE;VALUE=DATE:" ++ icsStamp excluded), Untimed line := by
    intro line member
    obtain ⟨repeats, _, member⟩ := List.mem_flatMap.mp member
    rcases List.mem_cons.mp member with rfl | member
    · exact ⟨rfl, rfl⟩
    · obtain ⟨excluded, _, rfl⟩ := List.mem_map.mp member
      exact ⟨rfl, rfl⟩
  have front : ∀ uid : PyString, ∀ line ∈ [.ofString "BEGIN:VEVENT", .ofString "UID:" ++ uid],
      Untimed line :=
    fun uid => List.forall_mem_cons.mpr ⟨⟨rfl, rfl⟩, List.forall_mem_singleton.mpr ⟨rfl, rfl⟩⟩
  have summary := @filter_untimed [.ofString "SUMMARY:" ++ icsText event.label.text]
    (List.forall_mem_singleton.mpr ⟨rfl, rfl⟩)
  have last := @filter_untimed [.ofString "END:VEVENT"] (List.forall_mem_singleton.mpr ⟨rfl, rfl⟩)
  rw [show ∀ first second third : PyString, [first, second, third] = [first, second] ++ [third] from
    fun _ _ _ => rfl]
  simp only [List.filter_append, filter_untimed (front uid), filter_untimed recurrence,
    filter_untimed (untimed_common described), summary, last, List.append_nil, List.nil_append,
    List.filter_cons, List.filter_nil, isLineOf_icsMoment, not_isLineOf_icsMoment]
  cases endDay event.when with
  | none => simp
  | some day => simp [isLineOf_icsMoment, not_isLineOf_icsMoment]

/-! ### Spans -/

section

variable {host : EventHost} {«when» : EventWhen}

theorem ofChars_lt {first second : List Char} (lt : first < second) :
    PyString.ofChars first < PyString.ofChars second := by
  induction lt with
  | nil => exact List.Lex.nil
  | rel less => exact List.Lex.rel less
  | cons _ inductionHypothesis => exact List.Lex.cons inductionHypothesis

/-- An accepted end is not on an earlier day. -/
theorem WhenRead.number_le (read : WhenRead host «when») {first last : CalendarDate}
    (start : «when».date = some (.ofChars first.text))
    (finish : «when».endDate = some (.ofChars last.text)) : first.number ≤ last.number := by
  by_contra earlier
  have checked := read.checked
  have before : PyString.ofChars last.text < PyString.ofChars first.text :=
    ofChars_lt (CalendarDate.text_lt (Nat.lt_of_not_le earlier))
  rw [checkWhen, start, finish, Option.any_some, Option.any_some, decide_eq_true before] at checked
  split at checked
  · cases checked
  · rw [if_pos rfl] at checked
    cases checked

/-- Where an accepted event ends. -/
theorem WhenRead.endDay_eq (read : WhenRead host «when») : endDay «when» =
    if «when».endDate.isSome then «when».endDate
    else if «when».endTime.isSome then «when».date else none := by
  have stated : ∀ {matched : List Char → Bool} {text : Option PyString}, matched [] = false →
      (∀ chars, matched chars = true → chars ≠ []) →
      (∀ said ∈ text, EventPattern.found matched said = true) → truthy text = text.isSome := by
    intro matched text _ nonempty admitted
    cases text with
    | none => rfl
    | some said =>
      obtain ⟨chars, fits, rfl | rfl⟩ := EventPattern.found_iff.mp (admitted said rfl)
      · simp [truthy, PyString.ofChars, nonempty chars fits]
      · simp [truthy, PyString.ofChars]
  rw [endDay, stated rfl (fun chars fits => ?_) read.endDate, stated rfl (fun chars fits => ?_) read.endTime]
  · rintro rfl
    cases fits
  · rintro rfl
    cases fits

/-- The day on which an accepted event ends is a date by the pattern of the contract. -/
theorem WhenRead.found_endDay (read : WhenRead host «when») :
    ∀ last ∈ endDay «when», EventPattern.found EventPattern.date last = true := by
  intro last stated
  rw [read.endDay_eq] at stated
  split_ifs at stated
  · exact read.endDate last stated
  · exact read.date last stated
  · cases stated

variable {date : PyString} {event : EventCandidate}

/-- What is stated of an end is there to be rendered. -/
theorem WhenRead.exists_endDay (read : WhenRead host «when») (placed : «when».date = some date)
    (stated : «when».endDate.isSome ∨ «when».endTime.isSome) :
    ∃ last ∈ endDay «when», «when».endDate = some last ∨ «when».endDate = none ∧ last = date := by
  rw [read.endDay_eq]
  cases day : «when».endDate with
  | some last => exact ⟨last, rfl, .inl rfl⟩
  | none =>
    rw [day] at stated
    have timed := stated.resolve_left (by decide)
    exact ⟨date, by simp [timed, placed], .inr ⟨rfl, rfl⟩⟩

/-- What is rendered of an end is stated. -/
theorem WhenRead.stated_of_endDay (read : WhenRead host «when») {date : PyString}
    (placed : «when».date = some date) {last : PyString} (rendered : last ∈ endDay «when») :
    («when».endDate.isSome ∨ «when».endTime.isSome) ∧
      («when».endDate = some last ∨ «when».endDate = none ∧ last = date) := by
  rw [read.endDay_eq] at rendered
  split_ifs at rendered with dated timed
  · exact ⟨.inl dated, .inl rendered⟩
  · rw [placed] at rendered
    exact ⟨.inr timed, .inr ⟨by simpa using dated, (Option.some.inj rendered).symm⟩⟩
  · cases rendered

/-- A text states one time. -/
theorem number_eq_of_states {text : PyString} {first second : ClockTime}
    (one : StatesClock text first) (two : StatesClock text second) : first.number = second.number := by
  have same := ofChars_inj.mp ((icsClock_eq_iff.mpr one).symm.trans (icsClock_eq_iff.mpr two))
  rw [ClockTime.digits, ClockTime.digits] at same
  obtain ⟨front, seconds⟩ := List.append_inj same (by simp [ClockTime.hourMinute])
  obtain ⟨hours, minutes⟩ := List.append_inj front (by simp)
  have hour := fixedDigits_inj (first.validHour.trans (by decide)) (second.validHour.trans (by decide)) hours
  have minute :=
    fixedDigits_inj (first.validMinute.trans (by decide)) (second.validMinute.trans (by decide)) minutes
  have second :=
    fixedDigits_inj (first.validSecond.trans (by decide)) (second.validSecond.trans (by decide)) seconds
  rw [ClockTime.number, ClockTime.number, hour, minute, second]

/-- A value is what a moment states. -/
def Denoted (date : PyString) (time : Option PyString) (timezone : Option EventTimezone) :
    CalendarValue → Prop
  | .day day => time = none ∧ date = .ofChars day.text
  | .moment zone day clock => zone = zoneForm timezone ∧ date = .ofChars day.text ∧
      ∃ text, time = some text ∧ StatesClock text clock

/-- A moment is rendered as the value that it states. -/
theorem icsMoment_eq_line_iff {name : String} {time : Option PyString}
    {timezone : Option EventTimezone}
    (dateAdmitted : EventPattern.found EventPattern.date date = true)
    (timeAdmitted : ∀ text ∈ time, EventPattern.found EventPattern.time text = true)
    (value : CalendarValue) :
    icsMoment name date time timezone = value.line name ↔ Denoted date time timezone value := by
  cases time with
  | none =>
    rw [icsMoment_eq_day dateAdmitted]
    constructor
    · rintro ⟨day, rfl, stated⟩
      exact ⟨rfl, stated⟩
    · intro denoted
      cases value with
      | day day => exact ⟨day, rfl, denoted.2⟩
      | moment _ _ _ =>
        obtain ⟨_, _, _, none, _⟩ := denoted
        cases none
  | some time =>
    rw [icsMoment_eq_moment dateAdmitted (timeAdmitted time rfl)]
    constructor
    · rintro ⟨day, clock, rfl, stated, states⟩
      exact ⟨rfl, stated, time, rfl, states⟩
    · intro denoted
      cases value with
      | day _ => cases denoted.1
      | moment zone day clock =>
        obtain ⟨rfl, stated, _, same, states⟩ := denoted
        cases same
        exact ⟨day, clock, rfl, stated, states⟩

/-- A span is real if the start states a value, and the end, if there is one, a value that may follow. -/
theorem realSpan_iff_denoted {digest : List UInt8 → PyString} {lines : List PyString}
    (read : WhenRead host event.when) (placed : event.when.date = some date)
    (rendered : calendarComponent digest event = some lines) :
    RealSpan event.when lines ↔ ∃ start, Denoted date event.when.time event.when.timezone start ∧
      ∀ last ∈ endDay event.when, ∃ finish,
        Denoted last event.when.endTime event.when.timezone finish ∧ start.Before finish := by
  obtain ⟨starts, ends⟩ := moments_of_component placed rendered
  rw [RealSpan, starts, ends]
  refine exists_congr fun start => ?_
  rw [List.cons.injEq, and_iff_left rfl, icsMoment_eq_line_iff (read.date date placed) read.time]
  refine and_congr_right fun denoted => ?_
  have timed : start.timed = event.when.time.isSome := by
    cases start with
    | day _ => rw [denoted.1, CalendarValue.timed, Option.isSome_none]
    | moment _ _ _ =>
      obtain ⟨_, _, text, same, _⟩ := denoted
      rw [same, CalendarValue.timed, Option.isSome_some]
  simp only [timed, true_and, List.forall_mem_map, Option.mem_toList]
  refine forall₂_congr fun last stated => exists_congr fun finish => and_congr_left fun _ => ?_
  exact icsMoment_eq_line_iff (read.found_endDay last stated) read.endTime finish

theorem realMoments_of_denoted (read : WhenRead host «when») (placed : «when».date = some date)
    {start : CalendarValue} (first : Denoted date «when».time «when».timezone start)
    (ends : ∀ last ∈ endDay «when», ∃ finish,
      Denoted last «when».endTime «when».timezone finish ∧ start.Before finish) :
    RealMoments «when» := by
  have ending : «when».endDate.isSome ∨ «when».endTime.isSome → ∃ last finish,
      («when».endDate = some last ∨ «when».endDate = none ∧ last = date) ∧
        Denoted last «when».endTime «when».timezone finish ∧ start.Before finish := by
    intro stated
    obtain ⟨last, there, place⟩ := read.exists_endDay placed stated
    obtain ⟨finish, denoted, before⟩ := ends last there
    exact ⟨last, finish, place, denoted, before⟩
  refine ⟨?_, ?_, ?_, ?_, ?_, ?_⟩
  · intro text stated
    rw [placed] at stated
    cases stated
    cases start with
    | day day => exact ⟨day, first.2⟩
    | moment _ day _ => exact ⟨day, first.2.1⟩
  · intro text stated
    cases start with
    | day _ => rw [first.1] at stated; cases stated
    | moment _ _ clock =>
      obtain ⟨_, _, _, same, states⟩ := first
      rw [same] at stated
      cases stated
      exact ⟨clock, states⟩
  · intro text stated
    obtain ⟨last, finish, place, denoted, _⟩ := ending (.inl (Option.isSome_of_mem stated))
    rw [Option.mem_def.mp stated] at place
    rcases place with same | ⟨none, _⟩
    · cases same
      cases finish with
      | day day => exact ⟨day, denoted.2⟩
      | moment _ day _ => exact ⟨day, denoted.2.1⟩
    · cases none
  · intro text stated
    obtain ⟨_, finish, _, denoted, _⟩ := ending (.inr (Option.isSome_of_mem stated))
    cases finish with
    | day _ => rw [denoted.1] at stated; cases stated
    | moment _ _ clock =>
      obtain ⟨_, _, _, same, states⟩ := denoted
      rw [same] at stated
      cases stated
      exact ⟨clock, states⟩
  · intro stated
    obtain ⟨_, finish, _, denoted, before⟩ := ending stated
    cases start <;> cases finish
    · rw [first.1, denoted.1]
    · cases before
    · cases before
    · obtain ⟨_, _, _, startTime, _⟩ := first
      obtain ⟨_, _, _, endTime, _⟩ := denoted
      rw [startTime, endTime, Option.isSome_some, Option.isSome_some]
  · intro sameDay startText timed endText endTimed startClock endClock startStates endStates
    obtain ⟨last, finish, place, denoted, before⟩ := ending (.inr (Option.isSome_of_mem endTimed))
    have onDate : last = date := by
      rcases place with same | ⟨_, same⟩
      · rcases sameDay with none | equal
        · rw [none] at same
          cases same
        · rw [equal, placed] at same
          exact (Option.some.inj same).symm
      · exact same
    cases start with
    | day _ =>
      rw [first.1] at timed
      cases timed
    | moment zone day clock =>
      cases finish with
      | day _ => cases before
      | moment endZone lastDay lastClock =>
        obtain ⟨_, startDay, _, startTime, startClocks⟩ := first
        obtain ⟨_, finishDay, _, finishTime, finishClocks⟩ := denoted
        rw [startTime] at timed
        rw [finishTime] at endTimed
        cases timed
        cases endTimed
        rw [onDate, startDay] at finishDay
        have sameNumber := CalendarDate.text_eq_iff.mp (ofChars_inj.mp finishDay)
        rw [number_eq_of_states startStates startClocks, number_eq_of_states endStates finishClocks]
        obtain ⟨_, earlier | ⟨_, later⟩⟩ := before
        · exact absurd earlier (sameNumber ▸ lt_irrefl _)
        · exact later

theorem denoted_of_realMoments (read : WhenRead host «when») (placed : «when».date = some date)
    (moments : RealMoments «when») :
    ∃ start, Denoted date «when».time «when».timezone start ∧ ∀ last ∈ endDay «when», ∃ finish,
      Denoted last «when».endTime «when».timezone finish ∧ start.Before finish := by
  obtain ⟨day, startDay⟩ := moments.date date placed
  have place := fun last stated => @read.stated_of_endDay _ _ date placed last stated
  -- The end is on a date that exists, and not on an earlier one.
  have lastDay : ∀ last ∈ endDay «when», ∃ finish : CalendarDate, last = .ofChars finish.text ∧
      day.number ≤ finish.number := by
    intro last stated
    rcases (place last stated).2 with same | ⟨_, rfl⟩
    · obtain ⟨finish, finishDay⟩ := moments.endDate last same
      rw [finishDay] at same
      rw [startDay] at placed
      exact ⟨finish, finishDay, read.number_le placed same⟩
    · exact ⟨day, startDay, Nat.le_refl _⟩
  cases timed : «when».time with
  | none =>
    refine ⟨.day day, ⟨rfl, startDay⟩, fun last stated => ?_⟩
    obtain ⟨finish, finishDay, order⟩ := lastDay last stated
    have untimed := moments.alike (place last stated).1
    rw [timed, Option.isSome_none, Option.isSome_eq_false_iff, Option.isNone_iff_eq_none] at untimed
    exact ⟨.day finish, ⟨untimed, finishDay⟩, order⟩
  | some time =>
    obtain ⟨clock, states⟩ := moments.time time timed
    refine ⟨.moment (zoneForm «when».timezone) day clock, ⟨rfl, startDay, time, rfl, states⟩,
      fun last stated => ?_⟩
    obtain ⟨finish, finishDay, order⟩ := lastDay last stated
    have endTimed := moments.alike (place last stated).1
    rw [timed, Option.isSome_some, Option.isSome_iff_exists] at endTimed
    obtain ⟨endTime, endStated⟩ := endTimed
    obtain ⟨endClock, endStates⟩ := moments.endTime endTime endStated
    refine ⟨.moment (zoneForm «when».timezone) finish endClock,
      ⟨rfl, finishDay, endTime, endStated, endStates⟩, rfl, ?_⟩
    rcases order.lt_or_eq with earlier | same
    · exact .inl earlier
    · refine .inr ⟨same, moments.later ?_ time timed endTime endStated clock endClock states endStates⟩
      rcases (place last stated).2 with dated | ⟨none, _⟩
      · rw [dated, placed, finishDay, startDay, CalendarDate.text_eq_iff.mpr same]
        exact .inr rfl
      · exact .inl none

variable (digest : List UInt8 → PyString)

/-- An accepted event is rendered. -/
theorem exists_component {raw : Document} (valid : (EventSchema.event host).valid raw = true)
    (admitted : Admitted host raw event) :
    ∃ lines, calendarComponent digest event = some lines := by
  obtain ⟨bytes, encoded, _⟩ :=
    PyString.encodeUtf8_of_encodable (encodable_identityText (plain_of_admitted valid admitted))
  obtain ⟨status, named, _⟩ := icsStatus_of_admitted valid admitted
  rw [calendarComponent, calendarUid, encoded, icsCommon, named]
  cases event.when.date with
  | none => exact ⟨_, rfl⟩
  | some date => exact ⟨_, rfl⟩

variable {digest}

theorem realSpan_of_admitted {raw : Document} (valid : (EventSchema.event host).valid raw = true)
    (admitted : Admitted host raw event) (placeable : event.when.placeable = true)
    {lines : List PyString} (rendered : calendarComponent digest event = some lines) :
    RealSpan event.when lines ↔ RealMoments event.when := by
  obtain ⟨date, placed⟩ := Option.isSome_iff_exists.mp placeable
  have read := whenRead_of_admitted valid admitted
  rw [realSpan_iff_denoted read placed rendered]
  constructor
  · rintro ⟨start, first, ends⟩
    exact realMoments_of_denoted read placed first ends
  · exact denoted_of_realMoments read placed

/-- An accepted event with a date is rendered, and with a real span if and only if its moments are: every
stated date and time exists, start and end both have a time or neither has, and on one day the end is
later. -/
theorem realSpan_iff_realMoments {document : Document} {result : GroundedEventResult}
    (accepted : parseGroundedEventResult host document = .ok result) {event : EventCandidate}
    (member : event ∈ result.events) (placeable : event.when.placeable = true) :
    ∃ lines, calendarComponent digest event = some lines ∧
      (RealSpan event.when lines ↔ RealMoments event.when) := by
  obtain ⟨raw, _, valid, admitted⟩ := admitted_of_accepted accepted member
  obtain ⟨lines, rendered⟩ := exists_component digest valid admitted
  exact ⟨lines, rendered, realSpan_of_admitted valid admitted placeable rendered⟩

end

/-- A reply with one event on this date. -/
def datedReply (date : String) (more : List (String × Option Document)) : Document :=
  replyOf [statedEvent "event-1" "a" "text" (("date", textDocument date) :: more) []]

theorem realSpan_iff_realMoments_timed :
    let reply := datedReply "2026-03-01"
      [("time", textDocument "10:00"), ("end", some (record [("time", textDocument "11:30:00")]))]
    ∃ result, parseGroundedEventResult plainHost reply = .ok result ∧
      ∃ event ∈ result.events, ∃ lines, calendarComponent Desk.sampleDigest event = some lines ∧
        RealSpan event.when lines := by
  intro reply
  have accepted := (rfl : parseGroundedEventResult plainHost reply = .ok _)
  obtain ⟨lines, rendered, real⟩ :=
    @realSpan_iff_realMoments plainHost Desk.sampleDigest _ _ accepted _ List.mem_cons_self rfl
  have start : StatesClock (.ofString "10:00") ⟨10, 0, 0, by decide, by decide, by decide⟩ :=
    .inr ⟨by decide, rfl⟩
  have finish : StatesClock (.ofString "11:30:00") ⟨11, 30, 0, by decide, by decide, by decide⟩ :=
    .inl (by decide)
  refine ⟨_, accepted, _, List.mem_cons_self, lines, rendered, real.mpr ⟨?_, ?_, nofun, ?_, ?_, ?_⟩⟩
  · rintro _ ⟨⟩
    exact ⟨⟨2026, 3, 1, by decide, by decide, by decide⟩, by decide⟩
  · rintro _ ⟨⟩
    exact ⟨_, start⟩
  · rintro _ ⟨⟩
    exact ⟨_, finish⟩
  · exact fun _ => rfl
  · rintro _ _ ⟨⟩ _ ⟨⟩ one two oneStates twoStates
    rw [number_eq_of_states oneStates start, number_eq_of_states twoStates finish]
    decide

/-- The thirteenth month is accepted, and rendered. -/
theorem not_realSpan_thirteenth : ¬ ∀ (host : EventHost) (digest : List UInt8 → PyString)
    (document : Document) (result : GroundedEventResult),
      parseGroundedEventResult host document = .ok result → ∀ event ∈ result.events,
        event.when.placeable = true → ∃ lines, calendarComponent digest event = some lines ∧
          RealSpan event.when lines := by
  intro claim
  have accepted := (rfl : parseGroundedEventResult plainHost (datedReply "2026-13-01" []) = .ok _)
  obtain ⟨lines, rendered, real⟩ :=
    claim plainHost Desk.sampleDigest _ _ accepted _ List.mem_cons_self rfl
  obtain ⟨raw, _, valid, admitted⟩ := admitted_of_accepted accepted List.mem_cons_self
  obtain ⟨date, same⟩ := ((realSpan_of_admitted valid admitted rfl rendered).mp real).date _ rfl
  have chars : "2026-".toList ++ ("13".toList ++ "-01".toList) = date.text := ofChars_inj.mp same
  rw [CalendarDate.text, List.append_cons] at chars
  obtain ⟨_, rest⟩ := List.append_inj chars (by simp)
  obtain ⟨month, _⟩ := List.append_inj rest (by simp)
  have thirteen : 13 = date.month :=
    @fixedDigits_inj 2 _ _ (by decide) (date.validMonth.2.trans_lt (by decide)) month
  exact absurd date.validMonth.2 (by omega)

end Events

end Omnitensor
