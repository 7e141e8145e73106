/-
This file models the contract of extracted events.

It is the result schema, member by member. Its patterns are searched for, so each also accepts one
newline after what it matches. Whether a character is a decimal digit of some script, what a text is
with case folded, and which time zones there are is known to the host, and a parameter.
-/

import Omnitensor.DocumentExtraction
import Omnitensor.JsonSchema

namespace Omnitensor

namespace Events

/-- What the host knows. -/
structure EventHost where
  decimal : Char → Bool
  casefold : PyString → PyString
  /-- A time zone of this name can be loaded. -/
  zone : PyString → Bool

/-! ### Patterns -/

namespace EventPattern

/-- A pattern with both anchors that is searched for: one newline may follow. -/
def found (matched : List Char → Bool) (text : PyString) : Bool :=
  text.chars?.any fun chars =>
    matched chars || (decide (chars.getLast? = some '\n') && matched chars.dropLast)

/-- A pattern that must match a whole text. -/
def full (matched : List Char → Bool) (text : PyString) : Bool := text.chars?.any matched

def digit (char : Char) : Bool := decide ('0' ≤ char ∧ char ≤ '9')

def lower (char : Char) : Bool := decide ('a' ≤ char ∧ char ≤ 'z')

def upper (char : Char) : Bool := decide ('A' ≤ char ∧ char ≤ 'Z')

def alphanumeric (char : Char) : Bool := digit char || lower char || upper char

/-- So many characters of a class. -/
def repeated (accepts : Char → Bool) (least most : Nat) (chars : List Char) : Bool :=
  decide (least ≤ chars.length) && decide (chars.length ≤ most) && chars.all accepts

/-- `[A-Za-z0-9._-]`. -/
def identifierChar (char : Char) : Bool :=
  alphanumeric char || char == '.' || char == '_' || char == '-'

/-- `[A-Za-z0-9._-]{1,120}`. -/
def identifier (chars : List Char) : Bool := repeated identifierChar 1 120 chars

/-- `[a-z0-9-]{1,64}`. -/
def code (chars : List Char) : Bool :=
  repeated (fun char => digit char || lower char || char == '-') 1 64 chars

/-- `[a-f0-9]{64}`. -/
def digest (chars : List Char) : Bool :=
  repeated (fun char => digit char || decide ('a' ≤ char ∧ char ≤ 'f')) 64 64 chars

/-- `private:[A-Za-z0-9._:-]{1,200}`. -/
def privateReference (chars : List Char) : Bool :=
  "private:".toList.isPrefixOf chars &&
    repeated (fun char => alphanumeric char || char == '.' || char == '_' || char == ':' ||
      char == '-') 1 200 (chars.drop "private:".length)

/-- `[0-9]{4}-[0-9]{2}-[0-9]{2}`. -/
def date (chars : List Char) : Bool :=
  match chars with
  | [y1, y2, y3, y4, '-', m1, m2, '-', d1, d2] => [y1, y2, y3, y4, m1, m2, d1, d2].all digit
  | _ => false

/-- `[0-9]{2}:[0-9]{2}([0-9:]{3})?`. -/
def time (chars : List Char) : Bool :=
  match chars with
  | h1 :: h2 :: ':' :: m1 :: m2 :: rest =>
    [h1, h2, m1, m2].all digit &&
      (rest.isEmpty || repeated (fun char => digit char || char == ':') 3 3 rest)
  | _ => false

/-- `[+-]\d{2}:\d{2}`. -/
def utcOffset (decimal : Char → Bool) (chars : List Char) : Bool :=
  match chars with
  | [sign, h1, h2, ':', m1, m2] =>
    (sign == '+' || sign == '-') && [h1, h2, m1, m2].all decimal
  | _ => false

/-- `[+-]?([1-9]|[1-4][0-9]|5[0-3])?(MO|TU|WE|TH|FR|SA|SU)`. -/
def weekday (chars : List Char) : Bool :=
  let ordinal := match chars with
    | '+' :: rest => rest
    | '-' :: rest => rest
    | _ => chars
  let days := [['M', 'O'], ['T', 'U'], ['W', 'E'], ['T', 'H'], ['F', 'R'], ['S', 'A'], ['S', 'U']]
  decide (ordinal ∈ days) ||
    (match ordinal with
      | [tens, units, first, second] =>
        (decide ('1' ≤ tens ∧ tens ≤ '4') && digit units ||
          tens == '5' && decide ('0' ≤ units ∧ units ≤ '3')) && decide ([first, second] ∈ days)
      | [units, first, second] =>
        decide ('1' ≤ units ∧ units ≤ '9') && decide ([first, second] ∈ days)
      | _ => false)

/-- `\d{1,12}(\.\d{1,4})?`. -/
def amount (decimal : Char → Bool) (chars : List Char) : Bool :=
  match chars.span decimal with
  | (whole, []) => repeated decimal 1 12 whole
  | (whole, point :: rest) =>
    point == '.' && repeated decimal 1 12 whole && repeated decimal 1 4 rest

/-- `[A-Z]{3}`. -/
def currency (chars : List Char) : Bool := repeated upper 3 3 chars

/-- `[a-z]{2,3}(-[A-Za-z0-9]{2,8})*`. -/
def language (chars : List Char) : Bool :=
  match List.splitOn '-' chars with
  | primary :: rest => repeated lower 2 3 primary && rest.all (repeated alphanumeric 2 8)
  | [] => false

end EventPattern

/-! ### Schema -/

namespace EventSchema

open Schema

def digest : Schema := .pattern (EventPattern.found EventPattern.digest)

/-- Where a value came from. -/
def source : Schema := .words ["stated", "summarised", "deduced"]

/-- An optional text of some length. -/
def optionalText (shortest longest : Nat) : Schema := nullable (.string shortest (some longest))

/-- A text with the source it comes from. -/
def text : Schema := .object [("text", true, .string 1 (some 500)), ("source", true, source)]

def date : Schema := .pattern (EventPattern.found EventPattern.date)

def time : Schema := .pattern (EventPattern.found EventPattern.time)

/-- A date and a time, either of which may be missing. -/
def moment : Schema := .object [("date", false, nullable date), ("time", false, nullable time)]

def timezone (host : EventHost) : Schema := .object [
  ("name", true, .string 1 (some 64)),
  ("utcOffset", false,
    nullable (.pattern (EventPattern.found (EventPattern.utcOffset host.decimal)))),
  ("source", true, source)]

/-- The parts of a time that a person may have to supply. -/
def neededParts : List String := ["date", "time", "timezone"]

/-- When an event takes place, and which parts are still needed. -/
def when (host : EventHost) : Schema := .object [
  ("date", true, .oneOf date (.words ["unknown"])),
  ("time", false, nullable time),
  ("end", false, nullable moment),
  ("allDay", false, .boolean),
  ("timezone", false, nullable (timezone host)),
  ("needs", true, .wordSet neededParts 3),
  ("isPast", false, .boolean)]

def repeats : Schema := .object [
  ("freq", true,
    .words ["SECONDLY", "MINUTELY", "HOURLY", "DAILY", "WEEKLY", "MONTHLY", "YEARLY"]),
  ("interval", false, .integer (some 1) none),
  ("byDay", false, .array 0 (.pattern (EventPattern.found EventPattern.weekday))),
  ("byMonthDay", false, .array 0 (.integer (some (-31)) (some 31))),
  ("byMonth", false, .array 0 (.integer (some 1) (some 12))),
  ("bySetPos", false, .array 0 (.integer (some (-366)) (some 366))),
  ("count", false, nullable (.integer (some 1) none)),
  ("until", false, nullable date),
  ("exceptions", false, .array 0 date),
  ("text", true, .string 1 (some 300)),
  ("source", true, .words ["stated"])]

def address : Schema := .object [
  ("street", false, optionalText 1 200),
  ("postalCode", false, optionalText 1 32),
  ("city", false, optionalText 1 120),
  ("region", false, optionalText 1 120),
  ("country", false, optionalText 2 60),
  ("full", true, .string 1 (some 400))]

/-- Where an event takes place. -/
def place : Schema := .object [
  ("kind", true, .words ["physical", "online", "hybrid", "unknown"]),
  ("venue", false, optionalText 1 200),
  ("address", false, nullable address),
  ("url", false, optionalText 1 2048),
  ("joining", false, optionalText 1 200),
  ("source", true, source)]

def person : Schema := .object [
  ("name", true, .string 1 (some 200)),
  ("email", false, optionalText 3 320),
  ("source", true, source)]

def people : Schema := .object [
  ("organiser", false, nullable person),
  ("participants", false, .array 0 person)]

def cost (host : EventHost) : Schema := .object [
  ("amount", true, .pattern (EventPattern.found (EventPattern.amount host.decimal))),
  ("currency", true, .pattern (EventPattern.found EventPattern.currency))]

/-- How, until when and at what cost to register. -/
def registration (host : EventHost) : Schema := .object [
  ("required", false, .boolean),
  ("deadline", false, nullable date),
  ("url", false, optionalText 1 2048),
  ("cost", false, nullable (cost host)),
  ("source", true, source)]

def contact : Schema := .object [
  ("email", false, optionalText 3 320),
  ("phone", false, optionalText 3 64),
  ("source", true, source)]

def span : Schema := .object [
  ("start", true, .integer (some 0) none),
  ("end", true, .integer (some 0) none)]

def evidence : Schema := .object [
  ("sourceRef", true, .string 1 (some 200)),
  ("sourceSha256", true, digest),
  ("page", true, nullable (.integer (some 1) none)),
  ("span", true, span),
  ("textSha256", true, digest),
  ("readAs", true, .words ["text", "ocr"])]

def candidateId : Schema := .pattern (EventPattern.found EventPattern.identifier)

/-- An event, as a host accepts it from a model. -/
def event (host : EventHost) : Schema := .object [
  ("candidateId", true, candidateId),
  ("label", true, text),
  ("what", false, nullable text),
  ("when", true, when host),
  ("repeats", false, nullable repeats),
  ("where", false, nullable place),
  ("people", false, nullable people),
  ("status", false, .words ["scheduled", "tentative", "postponed", "cancelled"]),
  ("registration", false, nullable (registration host)),
  ("contact", false, nullable contact),
  ("reference", false, optionalText 1 2048),
  ("language", false, nullable (.pattern (EventPattern.found EventPattern.language))),
  ("confirmation", true, .words ["pending", "confirmed", "rejected"]),
  ("evidence", true, .array 1 evidence)]

/-- The contract of a result. -/
def result (host : EventHost) : Schema := .object [
  ("version", true, .number 2),
  ("requestId", true, .pattern (EventPattern.found EventPattern.identifier)),
  ("outcome", true, .words ["succeeded", "partial", "refused"]),
  ("code", true, .pattern (EventPattern.found EventPattern.code)),
  ("detail", true, .string 0 (some 500)),
  ("duplicatePolicy", true, .words ["keep-first-label-date-time-place"]),
  ("confirmationState", true, .words ["pending", "confirmed", "mixed", "refused"]),
  ("events", true, .array 0 (event host))]

end EventSchema

end Events

end Omnitensor
