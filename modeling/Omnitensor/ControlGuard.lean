/-
This file models the guard of the control surface: what one caller may ask of one method.

A caller has a window for each method it calls, which holds the instants of its recent calls and
how many of them are under way. The windows are kept in one table, the least recently called first,
and the oldest make room when there are too many. A call is charged to its window before the
request is parsed, and gives its slot back to the window that was charged.

Instants are numbers that a float can be. The subtraction of a span from an instant is a parameter:
any that moves with the instant, as the rounded subtraction of floats does and the exact one.
-/

import Omnitensor.Machine
import Omnitensor.PythonJson

namespace Omnitensor

/-! ### Quotas -/

/-- A call refused at the boundary, with a code a client can branch on. -/
structure GuardRefused where
  code : String
  detail : String
  method : String
  deriving DecidableEq

/-- What one method allows one caller to do. -/
structure MethodQuota where
  maxBytes : Nat
  maxCalls : Nat
  windowSeconds : Rat
  maxConcurrent : Nat
  deriving DecidableEq

namespace MethodQuota

/-- Why a bound of a quota is refused. -/
def boundError (method name : String) (value : Nat) : Except GuardRefused Unit :=
  if value < 1 then
    .error ⟨"quota-invalid", method ++ "." ++ name ++ " must be a positive integer", ""⟩
  else .ok ()

def validate (quota : MethodQuota) (method : String) : Except GuardRefused Unit := do
  boundError method "max_bytes" quota.maxBytes
  boundError method "max_calls" quota.maxCalls
  boundError method "max_concurrent" quota.maxConcurrent
  if ¬ (0 < quota.windowSeconds ∧ quota.windowSeconds ≤ 3600) then
    .error ⟨"quota-invalid", method ++ ".window_seconds must be in (0, 3600]", ""⟩

end MethodQuota

def defaultQuotas : List (String × MethodQuota) :=
  [("apply-command", ⟨64 * 1024, 240, 10, 4⟩),
    ("submit-job", ⟨256 * 1024, 60, 10, 8⟩),
    ("cancel-job", ⟨16 * 1024, 60, 10, 8⟩),
    ("get-job-result", ⟨16 * 1024, 240, 10, 8⟩),
    ("describe-plugins", ⟨1, 30, 10, 4⟩),
    ("describe-contract", ⟨1, 20, 10, 4⟩)]

def maxTrackedCallersLimit : Nat := 4096

/-! ### Identities -/

/-- Fields that would mean the caller is asserting who it is. -/
def assertedIdentityFields : List String :=
  ["owner", "ownerToken", "uid", "callerUid", "sender", "uniqueName", "identity"]

/-- The identity field a document claims: the first in order, when there is one. A text that is too
long, that is no JSON or that is no object is left to the schema of the method. -/
def assertedIdentityField (stack : Nat) (text : PyString) (maxBytes : Nat) : Option String :=
  if maxBytes < PyString.byteSize text then none
  else
    match JsonSyntax.parse .default stack text with
    | .ok (.object members) =>
      let claimed := assertedIdentityFields.filter fun field =>
        decide (PyString.ofString field ∈ members.map Prod.fst)
      (claimed.insertionSort (· ≤ ·)).head?
    | _ => none

/-! ### Windows -/

/-- One caller's recent calls, oldest first, and how many are under way, for one method. -/
structure CallerWindow where
  calls : List Rat
  inFlight : Nat
  deriving DecidableEq

namespace CallerWindow

def new : CallerWindow := ⟨[], 0⟩

/-- Forget the oldest calls, as long as they are not after the horizon. -/
def expire (window : CallerWindow) (horizon : Rat) : CallerWindow :=
  { window with calls := window.calls.dropWhile fun call => decide (call ≤ horizon) }

/-- Charge a call. -/
def charge (window : CallerWindow) (now : Rat) : CallerWindow :=
  ⟨window.calls ++ [now], window.inFlight + 1⟩

/-- Give a slot back; never lets the count go negative. -/
def release (window : CallerWindow) : CallerWindow :=
  { window with inFlight := window.inFlight - 1 }

end CallerWindow

/-- How the host computes with instants. -/
structure ClockArithmetic where
  /-- The instant some seconds before another. -/
  minus : Rat → Rat → Rat
  monotone : ∀ {first second : Rat} (seconds : Rat), first ≤ second →
    minus first seconds ≤ minus second seconds
  /-- A number of seconds as the `g` format writes it. -/
  general : Rat → String

/-- Exact instants, and spans that are whole numbers of seconds. -/
def ClockArithmetic.exact : ClockArithmetic where
  minus := fun instant seconds => instant - seconds
  monotone := fun _ ordered => sub_le_sub_right ordered _
  general := fun seconds => toString seconds.num

/-- Per-caller admission for the control surface. A window keeps its number for ever, so that a call
can give its slot back to it when the table has forgotten it. -/
structure ControlGuard where
  clock : ClockArithmetic
  /-- How deep a text may nest before the reader gives up. -/
  stack : Nat
  quotas : Dict String MethodQuota
  maxTrackedCallers : Nat
  heap : List CallerWindow
  windows : Dict (String × String) Nat

namespace ControlGuard

def new (clock : ClockArithmetic) (stack : Nat) (quotas : List (String × MethodQuota))
    (maxTrackedCallers : Nat) : Except GuardRefused ControlGuard := do
  if ¬ (1 ≤ maxTrackedCallers ∧ maxTrackedCallers ≤ maxTrackedCallersLimit) then
    .error
      ⟨"quota-invalid", "max_tracked_callers must be an integer in [1, " ++
        toString maxTrackedCallersLimit ++ "]", ""⟩
  let resolved := (defaultQuotas ++ quotas).foldl (fun dict entry => dict.set entry.1 entry.2)
    Dict.empty
  resolved.entries.forM fun entry => entry.2.validate entry.1
  return {
    clock := clock
    stack := stack
    quotas := resolved
    maxTrackedCallers := maxTrackedCallers
    heap := []
    windows := Dict.empty }

def quotaFor (guard : ControlGuard) (method : String) : Except GuardRefused MethodQuota :=
  match guard.quotas.get? method with
  | none => .error ⟨"method-unknown", "no quota is declared for " ++ method, method⟩
  | some quota => .ok quota

/-- Refuse a payload that is no string, that is too long or that claims an identity. -/
def checkPayload (guard : ControlGuard) (method : String) (quota : MethodQuota) :
    Option PyString → Except GuardRefused Unit
  | none => .error ⟨"payload-invalid", method ++ " takes a string", method⟩
  | some payload =>
    if quota.maxBytes < PyString.byteSize payload then
      .error
        ⟨"payload-too-large", method ++ " accepts " ++ toString quota.maxBytes ++
          " bytes, received " ++ toString (PyString.byteSize payload), method⟩
    else
      match assertedIdentityField guard.stack payload quota.maxBytes with
      | some claimed =>
        .error
          ⟨"identity-asserted", method ++ " must not carry a caller-asserted " ++ claimed, method⟩
      | none => .ok ()

/-- The quota a call is held to, unless the call is refused before it is charged. -/
def checked (guard : ControlGuard) (method : String) (payload : Option PyString) :
    Except GuardRefused MethodQuota := do
  let quota ← guard.quotaFor method
  guard.checkPayload method quota payload
  return quota

/-- The number of the window of a caller, which a caller without one is given. -/
def windowIndex (guard : ControlGuard) (key : String × String) : Nat :=
  (guard.windows.get? key).getD guard.heap.length

/-- The table when a caller was just seen, before any window makes room. -/
def touched (guard : ControlGuard) (key : String × String) : Dict (String × String) Nat :=
  (guard.windows.erase key).set key (guard.windowIndex key)

/-- How many windows make room. -/
def surplus (guard : ControlGuard) (key : String × String) : Nat :=
  (guard.touched key).size - guard.maxTrackedCallers

/-- The guard once the window of a caller is looked up. -/
def window (guard : ControlGuard) (key : String × String) : ControlGuard :=
  { guard with
    heap := if key ∈ guard.windows.keys then guard.heap else guard.heap ++ [CallerWindow.new]
    windows := (guard.touched key).drop (guard.surplus key) }

/-- What a window holds. -/
def read (guard : ControlGuard) (index : Nat) : CallerWindow :=
  guard.heap[index]?.getD CallerWindow.new

def write (guard : ControlGuard) (index : Nat) (window : CallerWindow) : ControlGuard :=
  { guard with heap := guard.heap.set index window }

/-- Charge one call to a window that is up to date, or refuse it. -/
def charge (guard : ControlGuard) (method : String) (quota : MethodQuota) (index : Nat)
    (now : Rat) : Except GuardRefused Nat × ControlGuard :=
  let window := guard.read index
  if quota.maxCalls ≤ window.calls.length then
    (.error ⟨"rate-limit-exceeded", method ++ " allows " ++ toString quota.maxCalls ++
      " calls per " ++ guard.clock.general quota.windowSeconds ++ "s", method⟩, guard)
  else if quota.maxConcurrent ≤ window.inFlight then
    (.error ⟨"concurrency-limit-exceeded", method ++ " allows " ++ toString quota.maxConcurrent ++
      " concurrent calls", method⟩, guard)
  else (.ok index, guard.write index (window.charge now))

/-- Charge one call against a caller's quota, or refuse it. The window that was charged is returned
for the slot to be given back to. -/
def admitCall (guard : ControlGuard) (method owner : String) (payload : Option PyString) (now : Rat) :
    Except GuardRefused Nat × ControlGuard :=
  match guard.checked method payload with
  | .error refused => (.error refused, guard)
  | .ok quota =>
    let index := guard.windowIndex (method, owner)
    let found := guard.window (method, owner)
    let expired := found.write index
      ((found.read index).expire (guard.clock.minus now quota.windowSeconds))
    expired.charge method quota index now

/-- Give back the slot charged on a window. -/
def releaseAdmitted (guard : ControlGuard) (index : Nat) : ControlGuard :=
  guard.write index (guard.read index).release

end ControlGuard

/-! ### Runs -/

/-- A call that was admitted. -/
structure Admission where
  method : String
  owner : String
  instant : Rat
  window : Nat
  released : Bool
  deriving DecidableEq

/-- A guard with the last reading of its clock and the calls it admitted, oldest first. -/
structure GuardRun where
  guard : ControlGuard
  reading : Rat
  admissions : List Admission

namespace GuardRun

/-- A guard at a reading of the clock, with nothing admitted. -/
def start (guard : ControlGuard) (reading : Rat) : GuardRun := ⟨guard, reading, []⟩

inductive Action where
  /-- A caller calls a method; the clock reads `now` from then on. -/
  | admitCall (method owner : String) (payload : Option PyString) (now : Rat)
  /-- An admitted call ends and gives its slot back. -/
  | release (call : Nat)

/-- Note the outcome of a call at the last reading of the clock. -/
def noted (run : GuardRun) (method owner : String) :
    Except GuardRefused Nat × ControlGuard → GuardRun
  | (.error _, guard) => { run with guard := guard }
  | (.ok window, guard) =>
    { run with
      guard := guard
      admissions := run.admissions ++ [⟨method, owner, run.reading, window, false⟩] }

/-- One step. The clock never goes back, and a call ends once. -/
def step (run : GuardRun) : Action → Option GuardRun
  | .admitCall method owner payload now =>
    if now < run.reading then none
    else
      some ({ run with reading := now }.noted method owner
        (run.guard.admitCall method owner payload now))
  | .release call =>
    match run.admissions[call]? with
    | none => none
    | some admission =>
      if admission.released then none
      else
        some
          { run with
            guard := run.guard.releaseAdmitted admission.window
            admissions := run.admissions.set call { admission with released := true } }

/-- How many calls of an owner to a method were admitted after an instant and up to another. -/
def admittedWithin (run : GuardRun) (method owner : String) (after upTo : Rat) : Nat :=
  run.admissions.countP fun admission =>
    decide (admission.method = method ∧ admission.owner = owner ∧ after < admission.instant ∧
      admission.instant ≤ upTo)

/-- How many calls of an owner to a method are admitted and not yet released. -/
def underWay (run : GuardRun) (method owner : String) : Nat :=
  run.admissions.countP fun admission =>
    decide (admission.method = method ∧ admission.owner = owner ∧ admission.released = false)

/-- Every owner keeps within every method's quota: in each span of the method's window, and at the
moment. -/
def WithinQuotas (run : GuardRun) : Prop :=
  ∀ method quota, run.guard.quotas.get? method = some quota → ∀ owner,
    (∀ instant, run.admittedWithin method owner
      (run.guard.clock.minus instant quota.windowSeconds) instant ≤ quota.maxCalls) ∧
    run.underWay method owner ≤ quota.maxConcurrent

end GuardRun

end Omnitensor
