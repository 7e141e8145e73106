/-
This file models the store of loaded models that the executors of one backend share.

A cache keeps the values built for model paths, each with the revision of the model and its
companion files that was read before it was built, and bounds their number by evicting the least
recently used. The store guards the cache with one lock. A value that leaves the cache is handed
over for release: at once when no job is in flight, and otherwise it is parked until the last job
has left. A second lock guards the count of jobs in flight and the parked values, and is dropped
before a value is released.

A step is one section under a lock, or one release after it. A lookup reads the revision, builds
and changes the cache in one step; the values it took out are handed over one by one while the
cache lock is still held, and jobs come and go in between. A releaser is taken to return, as the
one the executors use does. Built values are numbered, and the store remembers all of them.
-/

import Omnitensor.Dict
import Omnitensor.Machine
import Omnitensor.Table
import Mathlib

namespace Omnitensor

/-! ### Files -/

/-- What `stat` tells of a file: the modification time in nanoseconds and the size. -/
structure FileStamp where
  modifiedAt : Int
  size : Nat
  deriving DecidableEq

/-- Identify every file needed by a model, or nothing if one is unreadable. -/
def modelRevision (files : Dict String FileStamp) (paths : List String) :
    Option (List FileStamp) :=
  paths.mapM files.get?

/-! ### The cache -/

/-- The cached values by model path, the least recently used first, each with its revision. -/
@[ext]
structure ModelCache where
  maxEntries : Nat
  positive : 1 ≤ maxEntries
  entries : Dict String (List FileStamp × Nat)

instance : DecidableEq ModelCache := fun first second =>
  decidable_of_iff (first.maxEntries = second.maxEntries ∧ first.entries = second.entries)
    ModelCache.ext_iff.symm

namespace ModelCache

/-- An empty cache. -/
def empty (maxEntries : Nat) (positive : 1 ≤ maxEntries) : ModelCache :=
  ⟨maxEntries, positive, Dict.empty⟩

/-- The cached values. -/
def values (cache : ModelCache) : List Nat := cache.entries.values.map Prod.snd

/-- The cached value of a path, when it has the revision that was read. -/
def hit (cache : ModelCache) (modelPath : String) (revision : List FileStamp) : Option Nat :=
  match cache.entries.get? modelPath with
  | some (stored, value) => if stored = revision then some value else none
  | none => none

/-- Make a value the most recently used one. -/
def put (cache : ModelCache) (modelPath : String) (revision : List FileStamp) (value : Nat) :
    ModelCache :=
  { cache with entries := (cache.entries.erase modelPath).set modelPath (revision, value) }

/-- Keep a value that was built, and tell which values leave the cache for it. -/
def keep (cache : ModelCache) (modelPath : String) (revision : List FileStamp) (value : Nat) :
    ModelCache × List Nat :=
  let replaced := (cache.entries.get? modelPath).toList.map Prod.snd
  let grown := cache.put modelPath revision value
  let excess := grown.entries.size - cache.maxEntries
  ({ grown with entries := grown.entries.drop excess },
    replaced ++ ((grown.entries.take excess).values.map Prod.snd))

/-- The value for a path: the cached one, or one that is built now, unless building raises. The last
part is what leaves the cache to be released. -/
def getOrBuild (cache : ModelCache) (modelPath : String) (revision : Option (List FileStamp))
    (build : Option Nat) : ModelCache × Option Nat × List Nat :=
  match revision with
  | none =>
    match build with
    | none => (cache, none, [])
    -- A model whose file cannot be read is not cached, and its entry is dropped.
    | some value => ({ cache with entries := cache.entries.erase modelPath }, some value, [])
  | some revision =>
    match cache.hit modelPath revision with
    | some value => (cache.put modelPath revision value, some value, [])
    | none =>
      match build with
      | none => (cache, none, [])
      | some value =>
        let (kept, removed) := cache.keep modelPath revision value
        (kept, some value, removed)

/-- Take every value out. -/
def clear (cache : ModelCache) : ModelCache × List Nat :=
  ({ cache with entries := Dict.empty }, cache.values)

end ModelCache

/-! ### Jobs -/

/-- A job is inside its block, or it has left and still releases what was parked. -/
inductive JobPhase where
  | inside
  | left (parked : List Nat)
  deriving DecidableEq

/-- One block of `running`, and the values it obtained. -/
structure RunningJob where
  phase : JobPhase
  obtained : List Nat
  deriving DecidableEq

namespace RunningJob

/-- The job has not left its block. -/
def inside (job : RunningJob) : Bool := decide (job.phase = .inside)

/-- What the job still releases. -/
def parked (job : RunningJob) : List Nat :=
  match job.phase with
  | .inside => []
  | .left parked => parked

end RunningJob

/-! ### The store -/

/-- A value that was built: for which path, and at which revision. -/
structure BuiltValue where
  modelPath : String
  revision : Option (List FileStamp)
  deriving DecidableEq

/-- A section under the cache lock that still hands values over. -/
structure CacheSection where
  /-- The job whose lookup it is, if a job's. -/
  caller : Option Nat
  /-- A value no job was in flight for, about to be released. -/
  deciding : Option Nat
  handing : List Nat
  deriving DecidableEq

/-- The state of the store, with every job and every value there ever was, and the files. -/
structure ModelStore where
  cache : ModelCache
  inFlight : Nat
  pending : List Nat
  /-- The section that holds the cache lock, when it is held. -/
  locked : Option CacheSection
  jobs : List RunningJob
  built : List BuiltValue
  /-- The values handed to the releaser, the first one first. -/
  released : List Nat
  files : Dict String FileStamp
  deriving DecidableEq

namespace ModelStore

/-- A store nobody used yet. -/
def empty (maxEntries : Nat) (positive : 1 ≤ maxEntries) (files : Dict String FileStamp) :
    ModelStore where
  cache := ModelCache.empty maxEntries positive
  inFlight := 0
  pending := []
  locked := none
  jobs := []
  built := []
  released := []
  files := files

/-- Hold the cache lock while there are values to hand over. -/
def holding (caller : Option Nat) : List Nat → Option CacheSection
  | [] => none
  | handing => some ⟨caller, none, handing⟩

/-- A job obtains a value. -/
def obtain (jobs : List RunningJob) (caller : Option Nat) (value : Option Nat) : List RunningJob :=
  match caller, value with
  | some index, some value =>
    jobs.modify index fun job => { job with obtained := job.obtained ++ [value] }
  | _, _ => jobs

/-- The revision of a model and its companion files as they are now. -/
def revisionOf (store : ModelStore) (companions : String → List String) (modelPath : String) :
    Option (List FileStamp) :=
  modelRevision store.files (modelPath :: companions modelPath)

/-- Look a model up under the cache lock; building it raises or gives a new value. -/
def lookup (companions : String → List String) (store : ModelStore) (caller : Option Nat)
    (modelPath : String) (builds : Bool) : ModelStore × Option Nat :=
  let revision := store.revisionOf companions modelPath
  let (cache, value, removed) :=
    store.cache.getOrBuild modelPath revision (if builds then some store.built.length else none)
  ({ store with
      cache := cache
      locked := holding caller removed
      jobs := obtain store.jobs caller value
      built :=
        if value = some store.built.length then store.built ++ [⟨modelPath, revision⟩]
        else store.built },
    value)

/-- Decide under the state lock what happens to a value that left the cache. -/
def handOver (store : ModelStore) (caller : Option Nat) (value : Nat) (handing : List Nat) :
    ModelStore :=
  if store.inFlight ≠ 0 then
    { store with pending := store.pending ++ [value], locked := holding caller handing }
  else { store with locked := some ⟨caller, some value, handing⟩ }

/-- Leave a block under the state lock; the last job to leave takes what is parked. -/
def leave (store : ModelStore) (index : Nat) (job : RunningJob) : ModelStore :=
  let inFlight := store.inFlight - 1
  let parked := if inFlight = 0 then store.pending else []
  { store with
    inFlight := inFlight
    pending := if inFlight = 0 then [] else store.pending
    jobs := store.jobs.set index { job with phase := .left parked } }

/-- Something that happens to the store or to the files. -/
inductive Action where
  | replace (path : String) (stamp : FileStamp)
  | withdraw (path : String)
  | enter
  /-- A job, or another caller, looks a model up. -/
  | lookup (caller : Option Nat) (modelPath : String) (builds : Bool)
  | close
  /-- The holder of the cache lock hands the next value over. -/
  | handOver
  /-- The holder of the cache lock releases the value it decided on. -/
  | release
  | leave (index : Nat)
  /-- A job that has left releases the next parked value. -/
  | releaseParked (index : Nat)
  deriving DecidableEq

/-- A job may act: it is inside its block, and no lookup of its own is under way. -/
def free (store : ModelStore) (index : Nat) : Bool :=
  (store.jobs[index]?.any RunningJob.inside) &&
    store.locked.all fun held => decide (held.caller ≠ some index)

/-- One step of the store or its surroundings. -/
def step (companions : String → List String) (store : ModelStore) : Action → Option ModelStore
  | .replace path stamp => some { store with files := store.files.set path stamp }
  | .withdraw path => some { store with files := store.files.erase path }
  | .enter =>
    some { store with
      inFlight := store.inFlight + 1
      jobs := store.jobs ++ [⟨.inside, []⟩] }
  | .lookup caller modelPath builds =>
    if store.locked.isNone && caller.all store.free then
      some (store.lookup companions caller modelPath builds).1
    else none
  | .close =>
    if store.locked.isNone then
      let (cache, removed) := store.cache.clear
      some { store with cache := cache, locked := holding none removed }
    else none
  | .handOver =>
    match store.locked with
    | some ⟨caller, none, value :: handing⟩ => some (store.handOver caller value handing)
    | _ => none
  | .release =>
    match store.locked with
    | some ⟨caller, some value, handing⟩ =>
      some { store with
        locked := holding caller handing
        released := store.released ++ [value] }
    | _ => none
  | .leave index =>
    match store.jobs[index]? with
    | some job => if store.free index then some (store.leave index job) else none
    | none => none
  | .releaseParked index =>
    match store.jobs[index]? with
    | some ⟨.left (value :: parked), obtained⟩ =>
      some { store with
        jobs := store.jobs.set index ⟨.left parked, obtained⟩
        released := store.released ++ [value] }
    | _ => none

end ModelStore

end Omnitensor
