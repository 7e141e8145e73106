/-
This file models the rendering of one confirmed event as the lines of a calendar component.

A date with a time is a moment of its zone, or of whichever zone the reader is in; a date without one is a
day; and an event without a date is a task. Rendering decides nothing. It fails on a text that has no
bytes or a status that has no name in a calendar, neither of which an accepted reply contains.
-/

import Omnitensor.EventResult

namespace Omnitensor

namespace Events

/-! ### Texts -/

/-- A text with every occurrence of a character replaced. -/
def replaceChar (old : Char) (new : PyString) (text : PyString) : PyString :=
  text.flatMap fun point => if point = .scalar old then new else [point]

/-- A text in a property value. -/
def icsText (value : PyString) : PyString :=
  let escaped := replaceChar ',' (.ofString "\\,")
    (replaceChar ';' (.ofString "\\;") (replaceChar '\\' (.ofString "\\\\") value))
  replaceChar '\n' (.ofString "\\n") (replaceChar '\r' [] escaped)

/-- An integer in decimal. -/
def intText (value : Int) : PyString := .ofChars (Numeral.ofInt value).text

/-- Texts with a separator between them. -/
def joined (separator : String) (texts : List PyString) : PyString :=
  List.intercalate (PyString.ofString separator) texts

/-- Whether something was stated, and not as the empty text. -/
def truthy (text : Option PyString) : Bool := text.any fun text => !text.isEmpty

/-! ### Lines -/

/-- Day and time of a moment, without separators. -/
def icsStamp (date : PyString) : PyString := replaceChar '-' [] date

def icsClock (time : PyString) : PyString :=
  let clock := replaceChar ':' [] time
  if clock.length = 4 then clock ++ .ofString "00" else clock

def icsMoment (name : String) (date : PyString) (time : Option PyString)
    (timezone : Option EventTimezone) : PyString :=
  let stamp := icsStamp date
  match time with
  | none => .ofString name ++ .ofString ";VALUE=DATE:" ++ stamp
  | some time =>
    let moment := stamp ++ .ofString "T" ++ icsClock time
    match timezone with
    -- Floating: local to whoever opens it.
    | none => .ofString name ++ .ofString ":" ++ moment
    | some timezone =>
      if timezone.name = .ofString "floating" then .ofString name ++ .ofString ":" ++ moment
      else if timezone.name = .ofString "UTC" then
        .ofString name ++ .ofString ":" ++ moment ++ .ofString "Z"
      else .ofString name ++ .ofString ";TZID=" ++ timezone.name ++ .ofString ":" ++ moment

/-- A part of a recurrence rule that lists values. -/
def rrulePart (name : String) (values : List PyString) : List PyString :=
  if values.isEmpty then [] else [.ofString name ++ .ofString "=" ++ joined "," values]

def icsRrule (repeats : Recurrence) : PyString :=
  joined ";" ([.ofString "FREQ=" ++ repeats.freq] ++
    (if repeats.interval ≠ 1 then [.ofString "INTERVAL=" ++ intText repeats.interval] else []) ++
    rrulePart "BYDAY" repeats.byDay ++
    rrulePart "BYMONTHDAY" (repeats.byMonthDay.map intText) ++
    rrulePart "BYMONTH" (repeats.byMonth.map intText) ++
    rrulePart "BYSETPOS" (repeats.bySetPos.map intText) ++
    (match repeats.count with
      | none => []
      | some count => [.ofString "COUNT=" ++ intText count]) ++
    (match repeats.until with
      | none => []
      | some «until» => [.ofString "UNTIL=" ++ icsStamp «until»]))

/-- What a calendar calls a status; a postponed event is tentative until it is rescheduled. -/
def icsStatus (status : PyString) : Option (List PyString) :=
  if status = .ofString "scheduled" then some []
  else if status = .ofString "cancelled" then some [.ofString "STATUS:CANCELLED"]
  else if status = .ofString "tentative" ∨ status = .ofString "postponed" then
    some [.ofString "STATUS:TENTATIVE"]
  else none

def organiserLine (organiser : Person) : PyString :=
  .ofString "ORGANIZER;CN=" ++ icsText organiser.name ++
    (if truthy organiser.email then .ofString ";MAILTO:" ++ organiser.email.getD [] else [])

def attendeeLine (participant : Person) : PyString :=
  .ofString "ATTENDEE;CN=" ++ icsText participant.name ++
    (if truthy participant.email then .ofString ":MAILTO:" ++ participant.email.getD []
      else .ofString ":")

def placeLines (place : EventPlace) : List PyString :=
  let stated := match place.address with
    | some address => some address.full
    | none => place.venue
  (match stated with
    | none => []
    | some text => [.ofString "LOCATION:" ++ icsText text]) ++
  match place.url with
    | none => []
    | some url => [.ofString "URL:" ++ icsText url]

def peopleLines (people : EventPeople) : List PyString :=
  people.organiser.toList.map organiserLine ++ people.participants.map attendeeLine

/-- The parts that a task and an event describe the same way. -/
def icsCommon (event : EventCandidate) : Option (List PyString) :=
  (icsStatus event.status).map fun status =>
    (match event.what with
      | none => []
      | some what => [.ofString "DESCRIPTION:" ++ icsText what.text]) ++
    (event.place.toList.flatMap placeLines) ++
    (event.people.toList.flatMap peopleLines) ++ status

/-- Where an event ends: on its own date, or on the date it starts. -/
def endDay («when» : EventWhen) : Option PyString :=
  if truthy «when».endDate then «when».endDate
  else if truthy «when».endTime then «when».date else none

/-! ### Components -/

/-- What the identity of an event is made of. -/
def identityText (event : EventCandidate) : PyString :=
  event.candidateId ++ [.scalar '\x00'] ++ event.when.date.getD [] ++ [.scalar '\x00'] ++
    event.when.time.getD []

section

variable (digest : List UInt8 → PyString)

/-- The identity of an event in a calendar: the digest of the bytes that it is made of. -/
def calendarUid (event : EventCandidate) : Option PyString :=
  (PyString.encodeUtf8 (identityText event)).map fun bytes =>
    digest bytes ++ .ofString "@omnitensor"

/-- One calendar component, in whichever form the event can honestly take. -/
def calendarComponent (event : EventCandidate) : Option (List PyString) := do
  let uid ← calendarUid digest event
  let common ← icsCommon event
  match event.when.date with
  | none =>
    return [.ofString "BEGIN:VTODO", .ofString "UID:" ++ uid,
      .ofString "SUMMARY:" ++ icsText event.label.text] ++ common ++ [.ofString "END:VTODO"]
  | some date =>
    return [.ofString "BEGIN:VEVENT", .ofString "UID:" ++ uid,
        icsMoment "DTSTART" date event.when.time event.when.timezone] ++
      (endDay event.when).toList.map
        (fun day => icsMoment "DTEND" day event.when.endTime event.when.timezone) ++
      [.ofString "SUMMARY:" ++ icsText event.label.text] ++
      (event.repeats.toList.flatMap fun repeats =>
        (.ofString "RRULE:" ++ icsRrule repeats) :: repeats.exceptions.map fun excluded =>
          .ofString "EXDATE;VALUE=DATE:" ++ icsStamp excluded) ++
      common ++ [.ofString "END:VEVENT"]

end

end Events

end Omnitensor
