/-
This file models the reader of an aggregate of kernel telemetry.

A document is searched for a field that could identify a process, a user or a file, from the first
member to the last and into the objects below, before the rest of it is looked at. A function that
calls another takes a frame of the interpreter, and there are only so many of them.
-/

import Omnitensor.Fallible
import Omnitensor.JsonText

namespace Omnitensor

namespace KernelTelemetry

def aggregateVersion : Int := 1

def maxSeries : Nat := 64

def maxBuckets : Nat := 64

def maxNameLength : Nat := 64

def maxCount : Nat := 2 ^ 53 - 1

/-- The fields that no aggregate carries. -/
def forbiddenFields : List String :=
  ["pid", "tid", "ppid", "uid", "gid", "comm", "command", "cmdline", "argv", "exe", "path",
    "filename", "cgroup", "cgroupPath", "container", "saddr", "daddr", "payload"]

inductive KernelTelemetryState where
  | ready
  | helperAbsent
  | helperUnreachable
  | helperInvalid
  deriving DecidableEq

/-- Why a document is not read. -/
inductive TelemetryFailure where
  /-- A `KernelTelemetryError`. -/
  | refused (code detail : String)
  /-- The interpreter's frames are used up. -/
  | recursion
  deriving DecidableEq

structure LatencyHistogram where
  name : String
  unit : String
  buckets : List Nat
  deriving DecidableEq

structure KernelCounter where
  name : String
  value : Nat
  deriving DecidableEq

structure KernelAggregate where
  state : KernelTelemetryState
  detail : String
  collectedAtMs : Nat
  histograms : List LatencyHistogram
  counters : List KernelCounter
  deriving DecidableEq

variable {Real : Type}

/-- An aggregate is not as its contract says. -/
def invalid (detail : String) : TelemetryFailure := .refused "aggregate-invalid" detail

/-! ### The search -/

/-- The first field that is found going through some items, or no name. -/
def firstFound {Item : Type} (look : Item → Except TelemetryFailure String) :
    List Item → Except TelemetryFailure String
  | [] => .ok ""
  | item :: items => do
    let found ← look item
    if found ≠ "" then return found else firstFound look items

/-- Search a value, given how the members of an object are searched. -/
def nestedForbidden (search : List (String × Json Real) → Except TelemetryFailure String) :
    Json Real → Except TelemetryFailure String
  | .object members => search members
  | .array items =>
    firstFound (fun item =>
      match item with
      | .object members => search members
      | _ => .ok "") items
  | _ => .ok ""

/-- Search members with so many frames left for it and the calls below it. -/
def forbiddenField : Nat → List (String × Json Real) → Except TelemetryFailure String
  | 0, _ => .error .recursion
  | frames + 1, members =>
    firstFound (fun member =>
      if member.1 ∈ forbiddenFields then .ok member.1
      else
        match frames with
        | 0 => .error .recursion
        | frames + 1 => nestedForbidden (forbiddenField frames) member.2) members

/-! ### The rest -/

/-- The count that a value is, unless it is no integer or out of range. -/
def count? : Json Real → Option Nat
  | .int number => if 0 ≤ number ∧ number ≤ maxCount then some number.toNat else none
  | _ => none

def boundedName (value : Option (Json Real)) : Except TelemetryFailure String :=
  match value with
  | some (.string name) =>
    if 1 ≤ name.length ∧ name.length ≤ maxNameLength then .ok name
    else .error (invalid "series name is invalid")
  | _ => .error (invalid "series name is invalid")

def bucketCount (value : Json Real) : Except TelemetryFailure Nat :=
  match count? value with
  | some count => .ok count
  | none => .error (invalid "bucket counts must be counts")

def histogram (item : Json Real) : Except TelemetryFailure LatencyHistogram :=
  match item with
  | .object members =>
    match Json.field members "buckets" with
    | some (.array buckets) =>
      if maxBuckets < buckets.length then .error (invalid "histogram buckets are invalid")
      else do
        let buckets ← buckets.mapM bucketCount
        let name ← boundedName (Json.field members "name")
        let unit ← boundedName (some ((Json.field members "unit").getD (.string "ns")))
        return { name, unit, buckets }
    | _ => .error (invalid "histogram buckets are invalid")
  | _ => .error (invalid "histogram must be an object")

def counter (item : Json Real) : Except TelemetryFailure KernelCounter :=
  match item with
  | .object members =>
    match (Json.field members "value").bind count? with
    | some value => do
      let name ← boundedName (Json.field members "name")
      return { name, value }
    | none => .error (invalid "counter value must be a count")
  | _ => .error (invalid "counter must be an object")

/-- Read a series, given how an item of it is read. -/
def series {Item : Type} (read : Json Real → Except TelemetryFailure Item) (refusal : String)
    (raw : Json Real) : Except TelemetryFailure (List Item) :=
  match raw with
  | .array items =>
    if maxSeries < items.length then .error (invalid refusal) else items.mapM read
  | _ => .error (invalid refusal)

def histograms (raw : Json Real) : Except TelemetryFailure (List LatencyHistogram) :=
  series histogram "histograms are invalid" raw

def counters (raw : Json Real) : Except TelemetryFailure (List KernelCounter) :=
  series counter "counters are invalid" raw

/-- The time a document says it was collected at. -/
def collectedAt (members : List (String × Json Real)) : Except TelemetryFailure Nat :=
  match (Json.field members "collectedAtMs").getD (.int 0) with
  | .int number =>
    if number < 0 then .error (invalid "collectedAtMs is invalid") else .ok number.toNat
  | _ => .error (invalid "collectedAtMs is invalid")

variable [FloatText Real]

/-- Read an aggregate with so many frames left, given the text that a value is formatted as. -/
def parseAggregate (frames : Nat) (text : Json Real → String) (document : Json Real) :
    Except TelemetryFailure KernelAggregate :=
  match document with
  | .object members =>
    let version := (Json.field members "version").getD .null
    if version.equalsInt aggregateVersion = false then
      .error (invalid s!"unsupported aggregate version: {text version}")
    else do
      let carried ← forbiddenField frames members
      if carried ≠ "" then
        .error (.refused "aggregate-identifying" s!"kernel telemetry must not carry {carried}")
      else
        let collectedAtMs ← collectedAt members
        let histograms ← histograms ((Json.field members "histograms").getD (.array []))
        let counters ← counters ((Json.field members "counters").getD (.array []))
        return { state := .ready, detail := "", collectedAtMs, histograms, counters }
  | _ => .error (invalid "aggregate must be an object")

end KernelTelemetry

end Omnitensor
