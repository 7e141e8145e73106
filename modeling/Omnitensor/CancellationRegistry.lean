/-
This file models the cancellation of jobs and the journal of the jobs in flight.

A token keeps the first cancellation of its job. The registry has a token for each job that is
tracked, and a copy of the journal that is read once. Every change is written through, or logged
when it cannot be: a write that fails leaves the file as it was, because replacing or removing the
file is the last operation of a write that can fail. Texts consist of Unicode scalar values; one with
half a surrogate pair is outside the model.
-/

import Omnitensor.JsonRoundTrip

namespace Omnitensor

/-! ### Tokens -/

/-- Why a job stopped. -/
inductive CancellationReason where
  | caller
  | policy
  | deadline
  | worker
  | shutdown
  | interrupted
  deriving DecidableEq

/-- The text of a reason. -/
def CancellationReason.text : CancellationReason → String
  | .caller => "caller-cancelled"
  | .policy => "policy-refused"
  | .deadline => "deadline-exceeded"
  | .worker => "worker-lost"
  | .shutdown => "service-shutdown"
  | .interrupted => "service-interrupted"

/-- A cancellation that was delivered. -/
structure Cancellation where
  jobId : String
  reason : CancellationReason
  detail : String
  deriving DecidableEq

/-- A cancellation as it is asked for; without a detail, its reason is the detail. -/
def Cancellation.of (jobId : String) (reason : CancellationReason) (detail : String) :
    Cancellation :=
  ⟨jobId, reason, if detail = "" then reason.text else detail⟩

/-- The signal that every stage of a job watches. -/
structure JobCancellationToken where
  jobId : String
  cancellation : Option Cancellation
  deriving DecidableEq

/-- Record the first reason: whether this is the first, and the token. -/
def JobCancellationToken.cancel (token : JobCancellationToken) (reason : CancellationReason)
    (detail : String) : Bool × JobCancellationToken :=
  match token.cancellation with
  | some _ => (false, token)
  | none => (true, { token with cancellation := some (.of token.jobId reason detail) })

/-! ### The journal -/

namespace JsonCancellationJournal

variable {Real : Type} [FloatText Real]

def journalVersion : Int := 1

/-- The most bytes of a journal that is read. -/
def maxJournalBytes : Nat := 512 * 1024

/-- The profile of a member, given what Python makes of a value that is no string. -/
def profileText (str : Json Real → String) : Json Real → String
  | .string text => text
  | other => str other

/-- The jobs of a document; a document that is no journal has none. -/
def documentJobs (str : Json Real → String) : Json Real → Dict String String
  | .object members =>
    if (Json.field members "version").any (Json.equalsInt · journalVersion) then
      match Json.field members "jobs" with
      | some (.object jobs) =>
        jobs.foldl (fun dict member => dict.set member.1 (profileText str member.2)) Dict.empty
      | _ => Dict.empty
    else Dict.empty
  | _ => Dict.empty

/-- The jobs that a file holds. -/
def jobs (str : Json Real → String) (file : Option (List Char)) : Dict String String :=
  ((file.bind Json.loads).map (documentJobs str)).getD Dict.empty

/-- The jobs that are read: a file that is too large is discarded. -/
def load (str : Json Real → String) (file : Option (List Char)) : Dict String String :=
  if (file.map Json.byteLength).getD 0 ≤ maxJournalBytes then jobs str file else Dict.empty

/-- The document of some jobs. -/
def document (entries : Dict String String) : Json Real :=
  .object [("version", .int journalVersion),
    ("jobs", .object (entries.mapValues fun _ profile => .string profile).entries)]

variable (Real) in
/-- The file after the jobs were saved. -/
def save (entries : Dict String String) : Option (List Char) :=
  some (Json.dumps (document entries : Json Real))

omit [FloatText Real] in
theorem readable_document (entries : Dict String String) :
    Json.Readable (document entries : Json Real) := by
  have profiles : Json.ReadableMembers
      (entries.mapValues fun _ profile => (.string profile : Json Real)).entries := by
    rw [Json.readableMembers_iff]
    intro member inside
    obtain ⟨_, _, rfl⟩ := List.mem_map.mp inside
    exact ⟨Json.whole_points _, Json.whole_points _⟩
  exact ⟨by simp, ⟨Json.whole_points _, trivial⟩, ⟨Json.whole_points _, Dict.nodup _, profiles⟩,
    trivial⟩

theorem documentJobs_document (str : Json Real → String) (entries : Dict String String) :
    documentJobs str (document entries) = entries := by
  have same := @Dict.entries_foldl_set _ _ _ Dict.empty entries.entries
    (by simpa using entries.nodup)
  rw [document, documentJobs]
  simp only [Json.field, List.find?_cons, decide_true, decide_false, Option.map_some, Option.any_some,
    Json.equalsInt, if_true, Dict.mapValues, List.foldl_map, profileText,
    (by decide : ¬ "version" = "jobs")]
  exact Dict.ext same

/-- What is saved is read. -/
theorem jobs_save (str : Json Real → String) (entries : Dict String String) :
    jobs str (save Real entries) = entries := by
  rw [jobs, save, Option.bind_some, Json.loads_dumps (readable_document entries), Option.map_some,
    Option.getD_some, documentJobs_document]

end JsonCancellationJournal

/-! ### The registry -/

/-- Every live job's token, and the journal as it was read or last changed. -/
structure JobCancellationRegistry where
  maxTrackedJobs : Nat
  positive : 0 < maxTrackedJobs
  tokens : Dict String JobCancellationToken
  entries : Option (Dict String String)
  deriving DecidableEq

namespace JobCancellationRegistry

/-- A registry that was just made. -/
def fresh (maxTrackedJobs : Nat) (positive : 0 < maxTrackedJobs) : JobCancellationRegistry :=
  ⟨maxTrackedJobs, positive, Dict.empty, none⟩

/-- A registry and the file after a change; `written` unless the write raised. -/
structure Persisted where
  registry : JobCancellationRegistry
  file : Option (List Char)
  written : Bool

/-- A registry and the file after a recovery, which reports nothing when it raised. -/
structure Recovery where
  registry : JobCancellationRegistry
  file : Option (List Char)
  report : Option (List Cancellation)

variable {Real : Type} [FloatText Real]

/-- The journal's content, read once. -/
def journalEntries (str : Json Real → String) (registry : JobCancellationRegistry)
    (file : Option (List Char)) : Dict String String :=
  registry.entries.getD (JsonCancellationJournal.load str file)

/-- Record changed entries, or log that they could not be. -/
def persist (Real : Type) [FloatText Real] (registry : JobCancellationRegistry)
    (file : Option (List Char)) (entries : Dict String String) (fault : Bool) : Persisted where
  registry := { registry with entries := some entries }
  file :=
    if fault then file
    else if entries.size = 0 then none
    else JsonCancellationJournal.save Real entries
  written := !fault

/-- Register a job and record that it is in flight. -/
def track (str : Json Real → String) (registry : JobCancellationRegistry)
    (file : Option (List Char)) (jobId profileId : String) (fault : Bool) :
    Except String Persisted :=
  if jobId = "" then .error "job_id must be a non-empty string"
  else if jobId ∈ registry.tokens.keys then .error s!"job is already tracked: {jobId}"
  else if registry.maxTrackedJobs ≤ registry.tokens.size then
    .error s!"at most {registry.maxTrackedJobs} jobs may be tracked"
  else
    let tracked := { registry with tokens := registry.tokens.set jobId ⟨jobId, none⟩ }
    .ok (tracked.persist Real file ((tracked.journalEntries str file).set jobId profileId) fault)

/-- Cancel a job that is tracked: whether this is its first cancellation. -/
def cancel (registry : JobCancellationRegistry) (jobId : String) (reason : CancellationReason)
    (detail : String) : Bool × JobCancellationRegistry :=
  match registry.tokens.get? jobId with
  | none => (false, registry)
  | some token =>
    let (first, cancelled) := token.cancel reason detail
    (first, { registry with tokens := registry.tokens.set jobId cancelled })

/-- Cancel every job: how many cancellations were the first. -/
def cancelAll (registry : JobCancellationRegistry) (reason : CancellationReason)
    (detail : String) : Nat × JobCancellationRegistry :=
  ((registry.tokens.values.filter fun token => (token.cancel reason detail).1).length,
    { registry with tokens := registry.tokens.mapValues fun _ token => (token.cancel reason detail).2 })

/-- Forget a finished job. The journal is updated first. -/
def release (str : Json Real → String) (registry : JobCancellationRegistry)
    (file : Option (List Char)) (jobId : String) (fault : Bool) : Option Persisted :=
  if jobId ∈ registry.tokens.keys then
    let persisted := registry.persist Real file ((registry.journalEntries str file).erase jobId) fault
    some { persisted with
      registry := { persisted.registry with tokens := persisted.registry.tokens.erase jobId } }
  else none

/-- What is reported of a job that was left in flight. -/
def interrupted (jobId profile : String) : Cancellation :=
  ⟨jobId, .interrupted, "the service stopped while this job was running" ++
    if profile = "" then "" else s!" for {profile}"⟩

/-- The reports of the jobs that were left in flight, sorted by job. -/
def reports (entries : Dict String String) : List Cancellation :=
  (entries.sortBy fun first second => decide (first ≤ second)).entries.map fun entry =>
    interrupted entry.1 entry.2

/-- Reconcile the jobs that the previous process left in flight. The copy of the journal is emptied
before the journal is cleared. -/
def recover (str : Json Real → String) (registry : JobCancellationRegistry)
    (file : Option (List Char)) (fault : Bool) : Recovery :=
  let entries := registry.journalEntries str file
  if entries.size = 0 then ⟨{ registry with entries := some entries }, file, some []⟩
  else if fault then ⟨{ registry with entries := some Dict.empty }, file, none⟩
  else ⟨{ registry with entries := some Dict.empty }, none, some (reports entries)⟩

end JobCancellationRegistry

end Omnitensor
