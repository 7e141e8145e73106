/-
This file models the store of job progress and results.

A record belongs to an owner. It is replaced by the next progress report, until a terminal result
replaces it for good. Retention is bounded by age and by count: a record that has not been
touched for the time to live is dropped by the next call that looks, and the oldest record
makes room when there are too many. A caller reads its own records; the answer about a
record of someone else is the answer about no record.
-/

import Omnitensor.Dict
import Mathlib

namespace Omnitensor

/-- How a job ended. -/
inductive ResultStatus where
  | succeeded
  | cancelled
  | failed
  deriving DecidableEq

/-- A progress observation. -/
structure JobProgress where
  stage : String
  fraction : Rat
  detail : String
  observedAt : Int
  deriving DecidableEq

/-- The object a job leaves: an empty one, its own, or one made around another value. -/
inductive JobOutput where
  | empty
  | object (document : String)
  | value (document : String)
  deriving DecidableEq

/-- The one terminal result of a job. -/
structure JobResult where
  status : ResultStatus
  output : JobOutput
  detail : String
  completedAt : Int
  deriving DecidableEq

/-- What is known about one job. -/
structure JobRecord where
  jobId : String
  progress : Option JobProgress
  result : Option JobResult
  updatedAt : Rat
  deriving DecidableEq

/-- A terminal record is final. -/
def JobRecord.terminal (record : JobRecord) : Bool := record.result.isSome

/-- The records by job, the least recently stored first, each with its owner. -/
structure JobResultStore where
  maxRetainedJobs : Nat
  resultTtl : Rat
  records : Dict String (String × JobRecord)
  deriving DecidableEq

namespace JobResultStore

/-- Whether a job id and an owner are well formed; every operation refuses others. -/
def validates (jobId owner : String) : Bool :=
  decide (1 ≤ jobId.length) && decide (jobId.length ≤ 120) && decide (1 ≤ owner.length) &&
    decide (owner.length ≤ 200)

/-- A record that is young enough to keep. -/
def fresh (store : JobResultStore) (now : Rat) (record : JobRecord) : Bool :=
  decide (now - store.resultTtl ≤ record.updatedAt)

/-- Drop the records that are too old. -/
def expire (store : JobResultStore) (now : Rat) : JobResultStore :=
  { store with records := store.records.filter fun _ entry => store.fresh now entry.2 }

/-- The newest records, when there are too many. -/
def evict (store : JobResultStore) : JobResultStore :=
  { store with
    records := store.records.drop (store.records.size - store.maxRetainedJobs) }

/-- File a record as the newest. -/
def store (store : JobResultStore) (now : Rat) (jobId owner : String) (record : JobRecord) :
    JobResultStore :=
  evict { store.expire now with
    records := ((store.expire now).records.erase jobId).set jobId (owner, record) }

/-- Replace what is known about a running job's progress. -/
def recordProgress (store : JobResultStore) (now : Rat) (jobId owner : String)
    (progress : JobProgress) : Option JobResultStore :=
  if !validates jobId owner then none
  else
    match store.records.get? jobId with
    | some (_, existing) =>
      if existing.terminal then some store
      else some (store.store now jobId owner ⟨jobId, some progress, none, now⟩)
    | none => some (store.store now jobId owner ⟨jobId, some progress, none, now⟩)

/-- Record the single terminal result for a job. -/
def recordResult (store : JobResultStore) (now : Rat) (jobId owner : String) (result : JobResult) :
    Option JobResultStore :=
  if !validates jobId owner then none
  else
    let progress := (store.records.get? jobId).bind fun entry => entry.2.progress
    some (store.store now jobId owner ⟨jobId, progress, some result, now⟩)

/-- The record of a job for its owner, after old records are dropped. -/
def get (store : JobResultStore) (now : Rat) (jobId owner : String) :
    JobResultStore × Option JobRecord :=
  if !validates jobId owner then (store, none)
  else
    let expired := store.expire now
    match expired.records.get? jobId with
    | some (stored, record) => (expired, if stored = owner then some record else none)
    | none => (expired, none)

end JobResultStore

end Omnitensor
