/-
This file models the result of an extraction of events, and how a reply of a model is read as one.

A reply is validated, and then read field by field: absent and null mean that the source did not say.
Every candidate starts undecided, whatever the reply claims, and of those with one label, date, time and
place the first is kept. What the schema has made sure of a value is not checked again.
-/

import Omnitensor.EventSchema

namespace Omnitensor

namespace Events

/-! ### Records -/

structure SourceEvidence where
  sourceRef : PyString
  sourceSha256 : PyString
  page : Option Int
  spanStart : Int
  spanEnd : Int
  textSha256 : PyString
  /-- How the text was obtained. -/
  readAs : PyString
  deriving DecidableEq

/-- A value and where it came from. -/
structure Stated where
  text : PyString
  source : PyString
  deriving DecidableEq

structure EventTimezone where
  name : PyString
  utcOffset : Option PyString
  source : PyString
  deriving DecidableEq

/-- When an event happens, as far as the source said. -/
structure EventWhen where
  date : Option PyString
  time : Option PyString
  endDate : Option PyString
  endTime : Option PyString
  allDay : Bool
  timezone : Option EventTimezone
  isPast : Bool
  deriving DecidableEq

/-- What blocks placing this in a calendar. -/
def EventWhen.needs («when» : EventWhen) : List String :=
  (if «when».date.isNone then ["date"] else []) ++
    (if «when».time.isNone && !«when».allDay then ["time"] else []) ++
    if «when».timezone.isNone && «when».time.isSome then ["timezone"] else []

/-- Whether a calendar can put this somewhere without asking. -/
def EventWhen.placeable («when» : EventWhen) : Bool := «when».date.isSome

/-- A rule of recurrence, and the words it was read from. -/
structure Recurrence where
  freq : PyString
  text : PyString
  interval : Int
  byDay : List PyString
  byMonthDay : List Int
  byMonth : List Int
  bySetPos : List Int
  count : Option Int
  «until» : Option PyString
  exceptions : List PyString
  source : PyString
  deriving DecidableEq

structure PostalAddress where
  full : PyString
  street : Option PyString
  postalCode : Option PyString
  city : Option PyString
  region : Option PyString
  country : Option PyString
  deriving DecidableEq

structure EventPlace where
  kind : PyString
  source : PyString
  venue : Option PyString
  address : Option PostalAddress
  url : Option PyString
  joining : Option PyString
  deriving DecidableEq

structure Person where
  name : PyString
  source : PyString
  email : Option PyString
  deriving DecidableEq

structure EventPeople where
  organiser : Option Person
  participants : List Person
  deriving DecidableEq

structure Cost where
  amount : PyString
  currency : PyString
  deriving DecidableEq

structure Registration where
  source : PyString
  required : Bool
  deadline : Option PyString
  url : Option PyString
  cost : Option Cost
  deriving DecidableEq

structure Contact where
  source : PyString
  email : Option PyString
  phone : Option PyString
  deriving DecidableEq

/-- What a person has decided about a candidate. -/
inductive Confirmation where
  | pending
  | confirmed
  | rejected
  deriving DecidableEq

def Confirmation.word : Confirmation → String
  | pending => "pending"
  | confirmed => "confirmed"
  | rejected => "rejected"

/-- An event as a model found it, with the evidence for it in the sources. -/
structure EventCandidate where
  candidateId : PyString
  label : Stated
  «when» : EventWhen
  confirmation : Confirmation
  evidence : List SourceEvidence
  what : Option Stated
  repeats : Option Recurrence
  place : Option EventPlace
  people : Option EventPeople
  status : PyString
  registration : Option Registration
  contact : Option Contact
  reference : Option PyString
  language : Option PyString
  deriving DecidableEq

/-- What a host says of the events in one request. -/
structure GroundedEventResult where
  requestId : PyString
  outcome : PyString
  code : PyString
  detail : PyString
  events : List EventCandidate
  duplicatesDropped : Nat
  deriving DecidableEq

/-- A stable refusal. What a validator says of a violation is its own. -/
inductive EventResultError where
  | violation
  | refused (code : String) (detail : PyString)
  deriving DecidableEq

/-- A refusal with a text. -/
def refuse {Answer : Type} (code detail : String) : Except EventResultError Answer :=
  .error (.refused code (.ofString detail))

/-! ### Reading -/

/-- A member of an object, unless it is null. -/
def member (fields : DocumentFields) (key : String) : Option Document :=
  match PyValue.field fields key with
  | some .null => none
  | value => value

/-- A text, where the schema requires one. -/
def textOf (value : Document) : PyString := value.text?.getD []

def intOf (value : Document) : Int := value.integer?.getD 0

def boolOf : Document → Bool
  | .bool value => value
  | _ => false

def itemsOf (value : Document) : List Document := value.items?.getD []

def fieldsOf (value : Document) : DocumentFields := value.fields?.getD []

/-- A text that is a member. -/
def textField (fields : DocumentFields) (key : String) : PyString :=
  ((PyValue.field fields key).map textOf).getD []

/-- A text that is a member, if the source said it. -/
def optionalField (fields : DocumentFields) (key : String) : Option PyString :=
  (member fields key).map textOf

/-- The items that are a member, if there are any. -/
def itemsField (fields : DocumentFields) (key : String) : List Document :=
  ((PyValue.field fields key).map itemsOf).getD []

def parseStated (fields : DocumentFields) : Stated :=
  ⟨textField fields "text", textField fields "source"⟩

def parseTimezone (fields : DocumentFields) : EventTimezone :=
  ⟨textField fields "name", optionalField fields "utcOffset", textField fields "source"⟩

/-- Check what the model cannot recompute. -/
def checkWhen (host : EventHost) («when» : EventWhen) : Except EventResultError Unit := do
  if «when».allDay && «when».time.isSome then
    refuse "date-invalid" "an all-day event states no time"
  else if «when».endDate.any fun last => «when».date.any fun first => decide (last < first) then
    refuse "date-invalid" "event end date precedes its start"
  else if («when».endTime.any fun last => «when».time.any fun first => decide (last ≤ first)) &&
      («when».endDate.isNone || decide («when».endDate = «when».date)) then
    refuse "date-invalid" "event end time is not after its start"
  else match «when».timezone with
    | none => return ()
    | some timezone =>
      if timezone.name ≠ .ofString "floating" ∧ host.zone timezone.name = false then
        .error (.refused "timezone-invalid" (.ofString "unknown timezone: " ++ timezone.name))
      else if timezone.utcOffset.isSome && «when».date.isNone then
        refuse "date-invalid" "a UTC offset without a date is not determinate"
      else return ()

/-- What is stated of a moment; `unknown` is how a source that names no date says so. -/
def readWhen (fields : DocumentFields) : EventWhen :=
  let last := ((member fields "end").map fieldsOf).getD []
  { date := (optionalField fields "date").filter fun text => decide (text ≠ .ofString "unknown")
    time := optionalField fields "time"
    endDate := optionalField last "date"
    endTime := optionalField last "time"
    allDay := ((PyValue.field fields "allDay").map boolOf).getD false
    timezone := (member fields "timezone").map fun value => parseTimezone (fieldsOf value)
    isPast := ((PyValue.field fields "isPast").map boolOf).getD false }

def parseWhen (host : EventHost) (fields : DocumentFields) : Except EventResultError EventWhen := do
  let «when» := readWhen fields
  checkWhen host «when»
  return «when»

def parseRecurrence (fields : DocumentFields) : Except EventResultError Recurrence :=
  if (member fields "count").isSome && (member fields "until").isSome then
    refuse "date-invalid" "a recurrence states COUNT or UNTIL, never both"
  else return {
    freq := textField fields "freq"
    text := textField fields "text"
    interval := ((PyValue.field fields "interval").map intOf).getD 1
    byDay := (itemsField fields "byDay").map textOf
    byMonthDay := (itemsField fields "byMonthDay").map intOf
    byMonth := (itemsField fields "byMonth").map intOf
    bySetPos := (itemsField fields "bySetPos").map intOf
    count := (member fields "count").map intOf
    «until» := optionalField fields "until"
    exceptions := (itemsField fields "exceptions").map textOf
    source := ((PyValue.field fields "source").map textOf).getD (.ofString "stated") }

def parseAddress (fields : DocumentFields) : PostalAddress where
  full := textField fields "full"
  street := optionalField fields "street"
  postalCode := optionalField fields "postalCode"
  city := optionalField fields "city"
  region := optionalField fields "region"
  country := optionalField fields "country"

/-- What is stated of a place. -/
def readPlace (fields : DocumentFields) : EventPlace where
  kind := textField fields "kind"
  source := textField fields "source"
  venue := optionalField fields "venue"
  address := (member fields "address").map fun value => parseAddress (fieldsOf value)
  url := optionalField fields "url"
  joining := optionalField fields "joining"

def parsePlace (fields : DocumentFields) : Except EventResultError EventPlace :=
  let place := readPlace fields
  if (place.kind = .ofString "online" ∨ place.kind = .ofString "hybrid") ∧ place.url = none then
    refuse "place-invalid" "an online event states where to join"
  else if place.kind = .ofString "physical" ∧ place.address = none ∧ place.venue = none then
    refuse "place-invalid" "a physical event states where it is"
  else if place.kind = .ofString "unknown" ∧
      ((place.url.any fun url => !url.isEmpty) ∨ place.address.isSome ∨
        place.venue.any fun venue => !venue.isEmpty) then
    refuse "place-invalid" "an unknown place states nothing"
  else return place

def parsePerson (fields : DocumentFields) : Person :=
  ⟨textField fields "name", textField fields "source", optionalField fields "email"⟩

def parsePeople (fields : DocumentFields) : EventPeople where
  organiser := (member fields "organiser").map fun value => parsePerson (fieldsOf value)
  participants := (itemsField fields "participants").map fun value => parsePerson (fieldsOf value)

def parseCost (fields : DocumentFields) : Cost :=
  ⟨textField fields "amount", textField fields "currency"⟩

def parseRegistration (fields : DocumentFields) : Registration where
  source := textField fields "source"
  required := ((PyValue.field fields "required").map boolOf).getD false
  deadline := optionalField fields "deadline"
  url := optionalField fields "url"
  cost := (member fields "cost").map fun value => parseCost (fieldsOf value)

def parseContact (fields : DocumentFields) : Contact :=
  ⟨textField fields "source", optionalField fields "email", optionalField fields "phone"⟩

def validateSourceIdentity (sourceRef sourceSha256 : PyString) : Except EventResultError Unit :=
  if EventPattern.full EventPattern.privateReference sourceRef = false then
    refuse "source-invalid" "source reference must be opaque and private"
  else if EventPattern.full EventPattern.digest sourceSha256 = false then
    refuse "source-invalid" "source digest must be lower-case SHA-256"
  else return ()

def parseEvidence (fields : DocumentFields) : Except EventResultError SourceEvidence := do
  let sourceRef := textField fields "sourceRef"
  let sourceSha256 := textField fields "sourceSha256"
  validateSourceIdentity sourceRef sourceSha256
  let span := ((PyValue.field fields "span").map fieldsOf).getD []
  let first := ((PyValue.field span "start").map intOf).getD 0
  let last := ((PyValue.field span "end").map intOf).getD 0
  if last ≤ first then refuse "evidence-invalid" "evidence span end must be after start"
  else return {
    sourceRef, sourceSha256
    page := (member fields "page").map intOf
    spanStart := first
    spanEnd := last
    textSha256 := textField fields "textSha256"
    -- How the text was read is not taken over from the reply.
    readAs := .ofString "text" }

def parseOptional {Value : Type} (fields : DocumentFields) (key : String)
    (parse : DocumentFields → Except EventResultError Value) :
    Except EventResultError (Option Value) :=
  match member fields key with
  | none => return none
  | some value => (parse (fieldsOf value)).map some

def parseEvent (host : EventHost) (fields : DocumentFields) :
    Except EventResultError EventCandidate := do
  let «when» ← parseWhen host (((PyValue.field fields "when").map fieldsOf).getD [])
  let evidence ← (itemsField fields "evidence").mapM fun value => parseEvidence (fieldsOf value)
  let repeats ← parseOptional fields "repeats" parseRecurrence
  let place ← parseOptional fields "where" parsePlace
  return {
    candidateId := textField fields "candidateId"
    label := parseStated (((PyValue.field fields "label").map fieldsOf).getD [])
    «when», confirmation := .pending, evidence
    what := (member fields "what").map fun value => parseStated (fieldsOf value)
    repeats, place
    people := (member fields "people").map fun value => parsePeople (fieldsOf value)
    status := ((PyValue.field fields "status").map textOf).getD (.ofString "scheduled")
    registration := (member fields "registration").map fun value =>
      parseRegistration (fieldsOf value)
    contact := (member fields "contact").map fun value => parseContact (fieldsOf value)
    reference := optionalField fields "reference"
    language := optionalField fields "language" }

/-! ### Duplicates -/

/-- The words of a text. -/
def splitWords (text : PyString) : List PyString :=
  (List.splitOnP PyString.space text).filter fun word => !word.isEmpty

/-- Label, date, time and place. -/
structure DuplicateKey where
  label : List PyString
  date : Option PyString
  time : Option PyString
  place : List PyString
  deriving DecidableEq

/-- What makes two extractions the same event. -/
def duplicateKey (host : EventHost) (event : EventCandidate) : DuplicateKey where
  label := splitWords (host.casefold event.label.text)
  date := event.when.date
  time := event.when.time
  place := match event.place with
    | none => []
    | some place =>
      let stated := match place.address with
        | some address => some address.full
        | none => place.venue
      let stated := if stated.any (fun text => !text.isEmpty) then stated else place.url
      match stated with
      | none => []
      | some text => splitWords (host.casefold text)

/-! ### Results -/

/-- The events of a document, and its outcome, where they fit together. -/
def resultState (fields : DocumentFields) : Except EventResultError (PyString × List Document) :=
  let outcome := textField fields "outcome"
  let rawEvents := itemsField fields "events"
  let state := textField fields "confirmationState"
  if outcome = .ofString "refused" then
    if !rawEvents.isEmpty then refuse "result-invalid" "refused results cannot contain events"
    else if state ≠ .ofString "refused" then
      refuse "result-invalid" "refused result state must be refused"
    else return (outcome, rawEvents)
  else if rawEvents.isEmpty then
    refuse "result-invalid" "succeeded and partial results require an event"
  else if state ≠ .ofString "pending" then
    refuse "confirmation-required" "model candidates must start pending"
  else return (outcome, rawEvents)

/-- What was read of the events so far: those that are kept, the ids and the keys that occurred, and how
many were dropped. -/
structure EventsRead where
  events : List EventCandidate
  ids : List PyString
  keys : List DuplicateKey
  duplicates : Nat

/-- Keep one more event, unless its key occurred. -/
def EventsRead.accept (host : EventHost) (read : EventsRead) (event : EventCandidate) : EventsRead :=
  let ids := read.ids ++ [event.candidateId]
  let key := duplicateKey host event
  if key ∈ read.keys then { read with ids, duplicates := read.duplicates + 1 }
  else { read with events := read.events ++ [event], ids, keys := read.keys ++ [key] }

/-- Read one more event. -/
def readEvent (host : EventHost) (read : EventsRead) (raw : Document) :
    Except EventResultError EventsRead := do
  if textField (fieldsOf raw) "confirmation" ≠ .ofString "pending" then
    refuse "confirmation-required" "model candidates must start pending"
  else
    let event ← parseEvent host (fieldsOf raw)
    if event.candidateId ∈ read.ids then
      refuse "result-invalid" "candidate ids must be unique"
    else return read.accept host event

/-- Validate one reply of a model, with all candidates pending. -/
def parseGroundedEventResult (host : EventHost) (document : Document) :
    Except EventResultError GroundedEventResult := do
  if (EventSchema.result host).valid document = false then .error .violation
  else
    let fields := fieldsOf document
    let (outcome, rawEvents) ← resultState fields
    let read ← rawEvents.foldlM (readEvent host) ⟨[], [], [], 0⟩
    return {
      requestId := textField fields "requestId"
      outcome
      code := textField fields "code"
      detail := textField fields "detail"
      events := read.events
      duplicatesDropped := read.duplicates }

end Events

end Omnitensor
