/-
This file models the gate between a model's suggestion and somebody's calendar.

A person decides every candidate of a result by its id. Only what was confirmed is passed to a calendar or
rendered, and only once nothing is undecided. Calls are made one after another on results that earlier
calls returned; a call that fails changes nothing, except that a calendar may have taken some events of a
write before it failed.
-/

import Omnitensor.EventCalendar
import Omnitensor.EventPasses

namespace Omnitensor

namespace Events

/-! ### Decisions -/

/-- The ids of a decision, each stated once. -/
def decisionIds (values : List PyString) (label : String) :
    Except EventResultError (List PyString) :=
  if ¬ values.Nodup ∨ values.any fun value => !EventPattern.full EventPattern.identifier value then
    refuse "confirmation-invalid" (label ++ " are invalid")
  else return values

/-- Apply one explicit human decision to every candidate. -/
def confirmEventCandidates (result : GroundedEventResult) (confirmedIds rejectedIds : List PyString) :
    Except EventResultError GroundedEventResult := do
  if result.outcome = .ofString "refused" then
    refuse "confirmation-invalid" "result cannot be confirmed"
  else
    let confirmed ← decisionIds confirmedIds "confirmed ids"
    let rejected ← decisionIds rejectedIds "rejected ids"
    if ∃ identity ∈ confirmed, identity ∈ rejected then
      refuse "confirmation-invalid" "an event cannot be confirmed and rejected"
    else
      let known := result.events.map (·.candidateId)
      if (∀ identity ∈ confirmed ++ rejected, identity ∈ known) ∧
          ∀ identity ∈ known, identity ∈ confirmed ++ rejected then
        return { result with events := result.events.map fun event => { event with
          confirmation := if event.candidateId ∈ confirmed then .confirmed else .rejected } }
      else refuse "confirmation-invalid" "every candidate needs exactly one human decision"

/-- The confirmed events of a result in which every event is decided. -/
def confirmedEvents (result : GroundedEventResult) : Except EventResultError (List EventCandidate) :=
  if ∃ event ∈ result.events, event.confirmation = .pending then
    refuse "confirmation-required" "every candidate needs a human decision"
  else
    let confirmed := result.events.filter fun event => decide (event.confirmation = .confirmed)
    if confirmed.isEmpty then refuse "confirmation-required" "no candidate was confirmed"
    else return confirmed

/-! ### Calendars -/

/-- Why a calendar is not rendered. -/
inductive RenderFailure where
  | refused (error : EventResultError)
  /-- A text has no bytes, or a status no name. -/
  | raised

variable (digest : List UInt8 → PyString)

/-- The lines of a calendar with these events. -/
def calendarLines (events : List EventCandidate) : Option (List PyString) :=
  (events.mapM (calendarComponent digest)).map fun components =>
    ["BEGIN:VCALENDAR", "VERSION:2.0", "PRODID:-//OmniTensor//Events 1//EN"].map PyString.ofString ++
      components.flatten ++ [.ofString "END:VCALENDAR"]

/-- Render the confirmed candidates as a calendar. -/
def renderConfirmedIcs (result : GroundedEventResult) : Except RenderFailure PyString :=
  match confirmedEvents result with
  | .error error => .error (.refused error)
  | .ok events =>
    match calendarLines digest events with
    | none => .error .raised
    | some lines => return joined "\r\n" lines ++ .ofString "\r\n"

/-! ### Calls -/

/-- A decision that was applied. -/
structure Decision where
  before : GroundedEventResult
  confirmedIds : List PyString
  rejectedIds : List PyString
  after : GroundedEventResult

/-- A call, on results that were returned. -/
inductive Call where
  | parse (document : Document)
  | merge (results : List GroundedEventResult) (requestId : PyString)
  | confirm (result : GroundedEventResult) (confirmedIds rejectedIds : List PyString)
  /-- The calendar fails after so many events, if there are more. -/
  | write (result : GroundedEventResult) (taken : Nat)
  | render (result : GroundedEventResult)

/-- What calls returned and did so far. -/
structure Desk where
  results : List GroundedEventResult
  merges : List (List GroundedEventResult × GroundedEventResult)
  decisions : List Decision
  written : List (GroundedEventResult × EventCandidate)
  rendered : List (GroundedEventResult × EventCandidate)

namespace Desk

def empty : Desk := ⟨[], [], [], [], []⟩

variable (host : EventHost)

/-- Make one call. -/
def step (desk : Desk) : Call → Desk
  | .parse document =>
    match parseGroundedEventResult host document with
    | .error _ => desk
    | .ok result => { desk with results := desk.results ++ [result] }
  | .merge results requestId =>
    if ∀ result ∈ results, result ∈ desk.results then
      match Events.merge host results requestId with
      | .error _ => desk
      | .ok merged => { desk with
          results := desk.results ++ [merged], merges := desk.merges ++ [(results, merged)] }
    else desk
  | .confirm result confirmedIds rejectedIds =>
    if result ∈ desk.results then
      match confirmEventCandidates result confirmedIds rejectedIds with
      | .error _ => desk
      | .ok decided => { desk with
          results := desk.results ++ [decided]
          decisions := desk.decisions ++ [⟨result, confirmedIds, rejectedIds, decided⟩] }
    else desk
  | .write result taken =>
    if result ∈ desk.results then
      match confirmedEvents result with
      | .error _ => desk
      | .ok events => { desk with
          written := desk.written ++ (events.take taken).map fun event => (result, event) }
    else desk
  | .render result =>
    if result ∈ desk.results then
      match confirmedEvents result, renderConfirmedIcs digest result with
      | .ok events, .ok _ => { desk with
          rendered := desk.rendered ++ events.map fun event => (result, event) }
      | _, _ => desk
    else desk

/-- Make calls one after another. -/
def run (desk : Desk) (calls : List Call) : Desk := calls.foldl (step digest host) desk

end Desk

end Events

end Omnitensor
