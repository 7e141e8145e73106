/-
This file models how a result of an extraction of events is published.

An absent value and null mean the same, that the source did not say, so a member is written only for what
was said; where the contract requires a member, it is always written. The published document is validated
against the contract that the reply was read under.
-/

import Omnitensor.DocumentAgreement
import Omnitensor.EventResult

namespace Omnitensor

namespace Events

open Document

/-! ### Parts -/

/-- A document with these members, as far as they are there. -/
def record (slots : List (String × Option Document)) : Document := .dict (present slots)

theorem record_ne_null (slots : List (String × Option Document)) : record slots ≠ .null := by
  intro null
  cases null

theorem str_ne_null (text : PyString) : (.str text : Document) ≠ .null := by
  intro null
  cases null

/-- A member that is always written. -/
def orNull : Option Document → Document
  | none => .null
  | some value => value

/-- A list, unless it is empty. -/
def listed (items : List Document) : Option Document :=
  if items.isEmpty then none else some (.list items)

def statedDocument (value : Stated) : Document := record [
  ("text", some (.str value.text)),
  ("source", some (.str value.source))]

def timezoneDocument (timezone : EventTimezone) : Document := record [
  ("name", some (.str timezone.name)),
  ("utcOffset", some (orNull (timezone.utcOffset.map .str))),
  ("source", some (.str timezone.source))]

/-- Where an event ends, if the source said it. -/
def endDocument («when» : EventWhen) : Option Document :=
  if «when».endDate.isSome || «when».endTime.isSome then
    some (record [("date", «when».endDate.map .str), ("time", «when».endTime.map .str)])
  else none

def whenDocument («when» : EventWhen) : Document := record [
  ("needs", some (.list («when».needs.map fun part => .str (.ofString part)))),
  ("allDay", some (.bool «when».allDay)),
  ("isPast", some (.bool «when».isPast)),
  -- Always written, so that both slots of the moment exist.
  ("date", some (.str («when».date.getD (.ofString "unknown")))),
  ("time", «when».time.map .str),
  ("end", endDocument «when»),
  ("timezone", «when».timezone.map timezoneDocument)]

def recurrenceDocument (repeats : Recurrence) : Document := record [
  ("freq", some (.str repeats.freq)),
  ("interval", some (.int repeats.interval)),
  ("text", some (.str repeats.text)),
  ("source", some (.str repeats.source)),
  ("byDay", listed (repeats.byDay.map .str)),
  ("byMonthDay", listed (repeats.byMonthDay.map .int)),
  ("byMonth", listed (repeats.byMonth.map .int)),
  ("bySetPos", listed (repeats.bySetPos.map .int)),
  ("exceptions", listed (repeats.exceptions.map .str)),
  ("count", repeats.count.map .int),
  ("until", repeats.until.map .str)]

def addressDocument (address : PostalAddress) : Document := record [
  ("full", some (.str address.full)),
  ("street", address.street.map .str),
  ("postalCode", address.postalCode.map .str),
  ("city", address.city.map .str),
  ("region", address.region.map .str),
  ("country", address.country.map .str)]

def placeDocument (place : EventPlace) : Document := record [
  ("kind", some (.str place.kind)),
  ("source", some (.str place.source)),
  ("venue", place.venue.map .str),
  ("url", place.url.map .str),
  ("joining", place.joining.map .str),
  ("address", place.address.map addressDocument)]

def personDocument (person : Person) : Document := record [
  ("name", some (.str person.name)),
  ("source", some (.str person.source)),
  ("email", person.email.map .str)]

def peopleDocument (people : EventPeople) : Document := record [
  ("organiser", people.organiser.map personDocument),
  ("participants", listed (people.participants.map personDocument))]

def costDocument (cost : Cost) : Document := record [
  ("amount", some (.str cost.amount)),
  ("currency", some (.str cost.currency))]

def registrationDocument (registration : Registration) : Document := record [
  ("source", some (.str registration.source)),
  ("required", some (.bool registration.required)),
  ("deadline", registration.deadline.map .str),
  ("url", registration.url.map .str),
  ("cost", registration.cost.map costDocument)]

def contactDocument (contact : Contact) : Document := record [
  ("source", some (.str contact.source)),
  ("email", contact.email.map .str),
  ("phone", contact.phone.map .str)]

def evidenceDocument (evidence : SourceEvidence) : Document := record [
  ("sourceRef", some (.str evidence.sourceRef)),
  ("sourceSha256", some (.str evidence.sourceSha256)),
  ("page", some (orNull (evidence.page.map .int))),
  ("span", some (record [
    ("start", some (.int evidence.spanStart)),
    ("end", some (.int evidence.spanEnd))])),
  ("textSha256", some (.str evidence.textSha256)),
  ("readAs", some (.str evidence.readAs))]

/-- One event, with every part that the source supported and no other. -/
def eventDocument (event : EventCandidate) : Document := record [
  ("candidateId", some (.str event.candidateId)),
  ("label", some (statedDocument event.label)),
  ("when", some (whenDocument event.when)),
  ("confirmation", some (.str (.ofString event.confirmation.word))),
  ("status", some (.str event.status)),
  ("evidence", some (.list (event.evidence.map evidenceDocument))),
  ("what", event.what.map statedDocument),
  ("repeats", event.repeats.map recurrenceDocument),
  ("where", event.place.map placeDocument),
  ("people", event.people.map peopleDocument),
  ("registration", event.registration.map registrationDocument),
  ("contact", event.contact.map contactDocument),
  ("reference", event.reference.map .str),
  ("language", event.language.map .str)]

/-! ### Results -/

/-- What was decided about the events of a result. -/
def GroundedEventResult.confirmationState (result : GroundedEventResult) : String :=
  if result.outcome = .ofString "refused" then "refused"
  else if result.events.all fun event => decide (event.confirmation = .pending) then "pending"
  else if result.events.all fun event => decide (event.confirmation = .confirmed) then "confirmed"
  else "mixed"

/-- What a result is published as. -/
def resultDocument (result : GroundedEventResult) : Document := record [
  ("version", some (.int 2)),
  ("requestId", some (.str result.requestId)),
  ("outcome", some (.str result.outcome)),
  ("code", some (.str result.code)),
  ("detail", some (.str result.detail)),
  ("duplicatePolicy", some (.str (.ofString "keep-first-label-date-time-place"))),
  ("confirmationState", some (.str (.ofString result.confirmationState))),
  ("events", some (.list (result.events.map eventDocument)))]

/-- Publish a result, if that is a valid document. -/
def groundedEventDocument (host : EventHost) (result : GroundedEventResult) :
    Except EventResultError Document :=
  if (EventSchema.result host).valid (resultDocument result) = false then .error .violation
  else return resultDocument result

end Events

end Omnitensor
