/-
This file models the collectors that observe a source of the host.

A collector asks for its grants, reads the source, keeps what is allowlisted and granted, and emits
it with the changes since its last output. It remembers what it emitted when the output is returned,
and not before. Grants may change while the source is read, and while a family collects its own
fields; between two suspensions they stay as they are. A hook of a family may raise.
-/

import Omnitensor.Dict
import Omnitensor.Fallible
import Omnitensor.PolicySchema

namespace Omnitensor

/-! ### Filters that may fail -/

section

variable {Failure Value : Type}

/-- Keep the values that a test accepts, in order. -/
def keepWhere (accept : Value → Except Failure Bool) : List Value → Except Failure (List Value)
  | [] => .ok []
  | value :: values => do
    let accepted ← accept value
    let kept ← keepWhere accept values
    return if accepted then value :: kept else kept

/-- The test accepts a value, and does not fail on it. -/
def accepts (accept : Value → Except Failure Bool) (value : Value) : Bool :=
  match accept value with
  | .ok accepted => accepted
  | .error _ => false

theorem eq_filter_of_keepWhere {accept : Value → Except Failure Bool} {values kept : List Value}
    (all : keepWhere accept values = .ok kept) : kept = values.filter (accepts accept) := by
  induction values generalizing kept with
  | nil => exact (Except.ok.inj all).symm
  | cons value values inductionHypothesis =>
    rw [keepWhere] at all
    obtain ⟨accepted, first, rest⟩ := bind_eq_ok.mp all
    obtain ⟨others, more, last⟩ := bind_eq_ok.mp rest
    have same : accepts accept value = accepted := by rw [accepts, first]
    cases last
    rw [inductionHypothesis more, List.filter_cons, same]

end

/-- At most eighty characters: letters and digits at both ends, and `._:@` and slashes and hyphens
between them. -/
def Pattern.stableId (text : String) : Bool :=
  match text.toList with
  | [] => false
  | first :: rest => alphanumeric first && decide (rest.length ≤ 79) &&
      (rest.all fun char => alphanumeric char || char ∈ ['.', '_', ':', '@', '/', '-']) &&
      rest.getLast?.all alphanumeric

/-! ### Collectors -/

def maxCollectedItems : Nat := 1024

/-- How a source is. -/
inductive SourceStatus where
  | ready
  | degraded
  | unavailable
  deriving DecidableEq

/-- How the hook of a family names an item. -/
inductive IdentityAnswer where
  | text (identity : String)
  | noText
  /-- It raises `AttributeError` or `TypeError`. -/
  | wrongType
  /-- It raises something else. -/
  | raised
  deriving DecidableEq

/-- A bounded observation of a source, whose status or time may be no status or time. -/
structure SourceSnapshot (Sample : Type) where
  status : Option SourceStatus
  observedAtMs : Option Int
  items : List Sample

/-- What a family supplies. A hook that gives nothing raises. -/
structure BoundedCollector (Sample Document : Type) where
  pluginId : String
  metadataPermission : String
  /-- Further grants, with the code and the detail of their refusal. -/
  consentPermissions : List (String × String × String)
  label : String
  triggerLabel : String
  sourceName : String
  itemsKey : String
  requireAllowlist : Bool
  sortChangedFields : Bool
  allowedIds : List String
  identityOf : Sample → IdentityAnswer
  documentOf : Sample → Option Document
  changedFields : Sample → Sample → Option (List String)
  itemPermission : String → Option (Option String)
  identityDocument : Sample → Option Document
  /-- Why a sample is rejected, or nothing when it is accepted. -/
  sampleError : Sample → Option String
  distinct : allowedIds.Nodup
  allowedFew : allowedIds.length ≤ maxCollectedItems
  allowedStable : ∀ identity ∈ allowedIds, Pattern.stableId identity = true

/-- How a collection fails. -/
inductive CollectFailure where
  /-- The error of the family. -/
  | rejected (code detail : String)
  /-- A hook or the source raised. -/
  | raised
  deriving DecidableEq

/-- The identity of an item with what tells of it. -/
structure Named (Document : Type) where
  identity : String
  document : Document

/-- An item that changed, with its fields that did. -/
structure ChangedItem (Document : Type) extends Named Document where
  fields : List String

/-- What changed since the last output. -/
structure Churn (Document : Type) where
  added : List (Named Document)
  removed : List (Named Document)
  changed : List (ChangedItem Document)

/-- An output: the items with their documents, the churn, and the fields of the family, which stand
under keys of their own. -/
structure CollectedOutput (Sample Document Extension : Type) where
  source : String
  sourceHealth : SourceStatus
  observedAtMs : Int
  itemsKey : String
  items : List (Sample × Document)
  churn : Churn Document
  extension : Extension

/-- What a collection meets: the trigger's plugin, if it is a trigger; the grants when it asks and
when the source has answered; the answer of the source, if it does not raise; and the fields of
the family. -/
structure CollectCall (Sample Extension : Type) where
  trigger : Option String
  asked : String → Bool
  /-- A source may answer with no snapshot. -/
  source : Option (Option (SourceSnapshot Sample))
  answered : String → Bool
  extension : Option Extension

namespace BoundedCollector

variable {Sample Document Extension : Type} (collector : BoundedCollector Sample Document)

/-- The identity of a validated item. -/
def identity (item : Sample) : String :=
  match collector.identityOf item with
  | .text identity => identity
  | _ => ""

/-- What a hook gives, unless it raises. -/
def hook {Answer : Type} : Option Answer → Except CollectFailure Answer
  | some answer => .ok answer
  | none => .error .raised

/-- The first grant that is missing. -/
def ungranted (allows : String → Bool) : Option (String × String) :=
  if !allows collector.metadataPermission then
    some ("permission-denied", collector.label ++ " permission is not granted")
  else (collector.consentPermissions.find? fun consent => !allows consent.1).map Prod.snd

def validateTrigger (trigger : Option String) : Except CollectFailure Unit :=
  let subject := if collector.triggerLabel = "" then collector.label else collector.triggerLabel
  match trigger with
  | none => .error (.rejected "trigger-invalid" (subject ++ " requires a Trigger"))
  | some pluginId =>
    if pluginId = collector.pluginId then .ok ()
    else .error (.rejected "trigger-invalid"
      (subject ++ " requires a " ++ collector.pluginId ++ " trigger"))

def validateIdentity (item : Sample) : Except CollectFailure Unit :=
  match collector.identityOf item with
  | .raised => .error .raised
  | .wrongType => .error (.rejected "source-invalid" (collector.label ++ " item has an invalid type"))
  | .noText => .error (.rejected "source-invalid" (collector.label ++ " item identity is invalid"))
  | .text identity =>
    if Pattern.stableId identity then .ok ()
    else .error (.rejected "source-invalid" (collector.label ++ " item identity is invalid"))

def validateSample (item : Sample) : Except CollectFailure Unit := do
  let error ← hook (collector.sampleError item)
  if error = "" then .ok () else .error (.rejected "source-invalid" error)

/-- The status, the time and the items of a snapshot that is accepted. -/
def validateSnapshot :
    Option (SourceSnapshot Sample) → Except CollectFailure (SourceStatus × Int × List Sample)
  | none => .error (.rejected "source-invalid" (collector.label ++ " returned no snapshot"))
  | some snapshot => do
    snapshot.items.forM collector.validateSample
    match snapshot.status with
    | none => .error (.rejected "source-invalid" (collector.label ++ " status is invalid"))
    | some status =>
      match snapshot.observedAtMs with
      | none => .error (.rejected "source-invalid" (collector.label ++ " timestamp is invalid"))
      | some observedAtMs =>
        if observedAtMs < 0 then
          .error (.rejected "source-invalid" (collector.label ++ " timestamp is invalid"))
        else do
          snapshot.items.forM collector.validateIdentity
          return (status, observedAtMs, snapshot.items)

def mayEmit (allows : String → Bool) (identity : String) : Except CollectFailure Bool :=
  if (collector.requireAllowlist || !collector.allowedIds.isEmpty) &&
      decide (identity ∉ collector.allowedIds) then .ok false
  else do
    let permission ← hook (collector.itemPermission identity)
    return permission.all allows

def validateEligible (eligible : List Sample) : Except CollectFailure Unit :=
  if maxCollectedItems < eligible.length then
    .error (.rejected "source-invalid" (collector.label ++ " returned more than " ++
      toString maxCollectedItems ++ " eligible items"))
  else .ok ()

/-- What is remembered and may still be emitted. -/
def authorizedPrevious (allows : String → Bool) (previous : Dict String Sample) :
    Except CollectFailure (Dict String Sample) := do
  let _ ← keepWhere (fun entry => collector.mayEmit allows entry.1) previous.entries
  return previous.filter fun identity _ => accepts (collector.mayEmit allows) identity

/-- The items by their identities: of equal ones, the last. -/
def byIdentity (items : List Sample) : Dict String Sample :=
  items.foldl (fun dict item => dict.set (collector.identity item) item) Dict.empty

/-- The entries of a dictionary, sorted by identity. -/
def sortedEntries {Value : Type} (dict : Dict String Value) : List (String × Value) :=
  dict.entries.insertionSort fun first second => first.1 ≤ second.1

/-- An item under its key, as the document of its identity. -/
def named (entry : String × Sample) : Except CollectFailure (Named Document) := do
  return ⟨entry.1, ← hook (collector.identityDocument entry.2)⟩

/-- The change of an item that was and is there, if a field changed. -/
def change (entry : String × Sample × Sample) :
    Except CollectFailure (Option (ChangedItem Document)) := do
  let fields ← hook (collector.changedFields entry.2.1 entry.2.2)
  if fields = [] then return none
  else
    let named ← collector.named (entry.1, entry.2.2)
    return some { named with
      fields := if collector.sortChangedFields then fields.insertionSort (· ≤ ·) else fields }

def churn (previous current : Dict String Sample) : Except CollectFailure (Churn Document) := do
  let added ← (sortedEntries (current.filter fun identity _ => !previous.contains identity)).mapM
    collector.named
  let removed ← (sortedEntries (previous.filter fun identity _ => !current.contains identity)).mapM
    collector.named
  let changed ← (sortedEntries (previous.filterMap fun identity before =>
    (current.get? identity).map (Prod.mk before))).mapM collector.change
  return ⟨added, removed, changed.reduceOption⟩

/-- Read the source once and emit what is allowed: the output, and what is remembered with it. -/
def collectOutput (violations : CollectedOutput Sample Document Extension → List String)
    (previous : Dict String Sample) (call : CollectCall Sample Extension) :
    Except CollectFailure (CollectedOutput Sample Document Extension × Dict String Sample) := do
  collector.validateTrigger call.trigger
  match collector.ungranted call.asked with
  | some (code, detail) => .error (.rejected code detail)
  | none =>
    let snapshot ← hook call.source
    let (status, observedAtMs, items) ← collector.validateSnapshot snapshot
    let kept ← keepWhere (fun item => collector.mayEmit call.answered (collector.identity item)) items
    let eligible := kept.insertionSort fun first second =>
      collector.identity first ≤ collector.identity second
    collector.validateEligible eligible
    let current := collector.byIdentity eligible
    let authorized ← collector.authorizedPrevious call.answered previous
    let churn ← collector.churn authorized current
    let documents ← eligible.mapM fun item => do return (item, ← hook (collector.documentOf item))
    let extension ← hook call.extension
    let output := ⟨collector.sourceName, status, observedAtMs, collector.itemsKey, documents, churn,
      extension⟩
    match violations output with
    | violation :: _ => .error (.rejected "output-invalid" violation)
    | [] => return (output, current)

/-- A collection: what it returns or how it fails, and what is remembered after it. -/
def collect (violations : CollectedOutput Sample Document Extension → List String)
    (previous : Dict String Sample) (call : CollectCall Sample Extension) :
    Except CollectFailure (CollectedOutput Sample Document Extension) × Dict String Sample :=
  match collector.collectOutput violations previous call with
  | .error failure => (.error failure, previous)
  | .ok (output, current) => (.ok output, current)

end BoundedCollector

end Omnitensor
