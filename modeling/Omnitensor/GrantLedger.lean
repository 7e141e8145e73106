/-
This file models the consent ledger: its state, its stored document and the calls that change it.

The ledger keeps the active grants of every plugin and the newest events of an audit, under a
revision that each change raises by one. A call checks its arguments, then the revision the caller
expects, and commits the whole state as one JSON document. Reading a document back checks
everything in it again with code of its own.

Arguments have the types the code annotates. A reason is any string of Python, which may hold halves
of a surrogate pair; the other texts are checked against patterns of ASCII characters. A file is the
text it holds; one that is not UTF-8 is unreadable like a text that is not JSON. Integers have any
number of digits, as the interpreter's limit on them refuses both the write and the read.
-/

import Omnitensor.Fallible
import Omnitensor.Dict
import Omnitensor.JsonText
import Omnitensor.PolicySchema

namespace Omnitensor

/-! ### Consent -/

/-- Where a grant came from. -/
inductive GrantOrigin where
  | user
  | admin
  | migration
  deriving DecidableEq

/-- What an audit event records. -/
inductive GrantAction where
  | granted
  | revoked
  deriving DecidableEq

/-- Who changed a grant, when and why. -/
structure GrantProvenance where
  actorId : String
  origin : GrantOrigin
  reason : PyString
  recordedAtMs : Int
  requestId : String
  deriving DecidableEq

/-- One event of the audit. -/
structure GrantAuditEvent where
  revision : Nat
  pluginId : String
  permission : String
  action : GrantAction
  provenance : GrantProvenance
  deriving DecidableEq

/-- The active grants of the plugins. -/
abbrev ActiveGrants : Type := Dict String (Dict String GrantProvenance)

/-- What a ledger holds in memory. -/
structure GrantState where
  revision : Nat
  grants : ActiveGrants
  audit : List GrantAuditEvent
  deriving DecidableEq

/-- The limits of a ledger. -/
structure GrantBounds where
  maxBytes : Nat
  auditLimit : Nat
  maxBytesPositive : 1 ≤ maxBytes
  auditLimitPositive : 1 ≤ auditLimit
  deriving DecidableEq

/-- Why a grant operation was refused. -/
inductive GrantError where
  | permissionUndeclared (pluginId permission : String)
  | revisionMismatch (expected : Int) (current : Nat)
  | stateTooLarge (size limit : Nat)
  | fileTooLarge (limit : Nat)
  | unreadable
  | invalidGrants (detail : String)
  | versionIncompatible
  | invalidDeclarations (detail : String)
  | invalidProvenance (detail : String)
  | invalidPluginId
  | invalidPermission
  | invalidInteger (label : String)
  deriving DecidableEq

/-! ### Patterns -/

namespace Pattern

/-- A letter or a digit, `[a-zA-Z0-9]`. -/
def wordChar (char : Char) : Bool := alphanumeric char || ('A' ≤ char && char ≤ 'Z')

/-- A character of a permission after its kind. -/
def permissionChar (char : Char) : Bool :=
  wordChar char || char == '*' || char == '.' || char == '_' || char == '/' || char == '-'

/-- `[a-z][a-z0-9-]*`. -/
def permissionKind : List Char → Bool
  | [] => false
  | first :: rest =>
    ('a' ≤ first && first ≤ 'z') && rest.all fun char => alphanumeric char || char == '-'

/-- The characters before the first colon, and the first colon with those after it. -/
def splitKind (text : String) : List Char × List Char :=
  text.toList.span fun char => decide (char ≠ ':')

/-- A kind, a colon and at least one more character. -/
def permission (text : String) : Bool :=
  match splitKind text with
  | (kind, ':' :: target) => permissionKind kind && !target.isEmpty && target.all permissionChar
  | _ => false

/-- `[A-Za-z0-9._:@-]{1,120}`. -/
def actor (text : String) : Bool :=
  decide (1 ≤ text.length) && decide (text.length ≤ 120) && text.toList.all fun char =>
    wordChar char || char == '.' || char == '_' || char == ':' || char == '@' || char == '-'

/-- `[A-Za-z0-9._-]{1,120}`. -/
def requestId (text : String) : Bool :=
  decide (1 ≤ text.length) && decide (text.length ≤ 120) && text.toList.all fun char =>
    wordChar char || char == '.' || char == '_' || char == '-'

end Pattern

namespace GrantLedger

/-- Whether a plugin id is one that anything in the service accepts. -/
def validPluginId (pluginId : String) : Bool :=
  decide (1 ≤ pluginId.length) && decide (pluginId.length ≤ 80) && Pattern.identifier pluginId

/-- A permission of the ledger's form. -/
def validPermission (permission : String) : Bool :=
  decide (permission.length ≤ 160) && Pattern.permission permission

/-- A reason of at most 240 characters. -/
def validReason (reason : PyString) : Bool := decide (reason.length ≤ 240)

/-! ### Checks of arguments -/

/-- Refuse what a check does not accept. -/
def check (accepted : Bool) (refusal : GrantError) : Except GrantError Unit :=
  if accepted then .ok () else .error refusal

@[simp] theorem check_eq_ok {accepted : Bool} {refusal : GrantError} {checked : Unit} :
    check accepted refusal = .ok checked ↔ accepted = true := by
  cases accepted <;> simp [check]

def validatePluginId (pluginId : String) : Except GrantError Unit :=
  check (validPluginId pluginId) .invalidPluginId

def validatePermission (permission : String) : Except GrantError Unit :=
  check (validPermission permission) .invalidPermission

def validateNonNegativeInteger (value : Int) (label : String) : Except GrantError Unit :=
  check (decide (0 ≤ value)) (.invalidInteger label)

def validateProvenance (provenance : GrantProvenance) : Except GrantError Unit := do
  check (Pattern.actor provenance.actorId) (.invalidProvenance "actor id is invalid")
  check (validReason provenance.reason)
    (.invalidProvenance "reason must contain at most 240 characters")
  validateNonNegativeInteger provenance.recordedAtMs "recorded_at_ms"
  check (Pattern.requestId provenance.requestId) (.invalidProvenance "request id is invalid")

/-- The most permissions a plugin may declare. -/
def maxDeclaredPermissions : Nat := 32

/-- The declared permissions are a set, here listed in some order. -/
def validatedDeclarations (permissions : List String) : Except GrantError Unit := do
  check (decide (permissions.length ≤ maxDeclaredPermissions))
    (.invalidDeclarations "at most 32 permissions may be declared")
  permissions.forM validatePermission

/-! ### Writing -/

/-- A document of the ledger. -/
abbrev Document (Real : Type) : Type := Json Real PyString

section

variable {Real : Type}

/-- The order of keys in a document. -/
def keyOrder (first second : String) : Bool := decide (first ≤ second)

def originText : GrantOrigin → String
  | .user => "user"
  | .admin => "admin"
  | .migration => "migration"

def actionText : GrantAction → String
  | .granted => "granted"
  | .revoked => "revoked"

def encodeProvenance (provenance : GrantProvenance) : Document Real :=
  .object [
    ("actorId", .string provenance.actorId),
    ("origin", .string (originText provenance.origin)),
    ("reason", .string provenance.reason),
    ("recordedAtMs", .int provenance.recordedAtMs),
    ("requestId", .string provenance.requestId)]

/-- The members for the active permissions of one plugin, in order. -/
def encodePluginGrants (grants : Dict String GrantProvenance) : List (PyString × Document Real) :=
  (grants.sortBy keyOrder).entries.map fun entry => (entry.1, encodeProvenance entry.2)

/-- The members for the active grants, in order. -/
def encodeGrants (grants : ActiveGrants) : List (PyString × Document Real) :=
  (grants.sortBy keyOrder).entries.map fun entry => (entry.1, .object (encodePluginGrants entry.2))

def encodeEvent (event : GrantAuditEvent) : Document Real :=
  .object [
    ("revision", .int event.revision),
    ("pluginId", .string event.pluginId),
    ("permission", .string event.permission),
    ("action", .string (actionText event.action)),
    ("provenance", encodeProvenance event.provenance)]

/-- The version of the document. -/
def grantsDocumentVersion : Int := 1

def encodeDocument (state : GrantState) : Document Real :=
  .object [
    ("documentVersion", .int grantsDocumentVersion),
    ("revision", .int state.revision),
    ("grants", .object (encodeGrants state.grants)),
    ("audit", .array (state.audit.map encodeEvent))]

/-! ### Reading -/

/-- The text of a stored value. Half of a surrogate pair fits no text that is asked for. -/
def textOf : Option (Document Real) → Option String
  | some (.string text) => text.toString?
  | _ => none

/-- A stored value that must be a text of some form. -/
def decodeText (accept : String → Bool) (refusal : GrantError) (value : Option (Document Real)) :
    Except GrantError String :=
  match textOf value with
  | some text => if accept text then .ok text else .error refusal
  | none => .error refusal

def decodeReason : Option (Document Real) → Except GrantError PyString
  | some (.string reason) =>
    if validReason reason then .ok reason
    else .error (.invalidProvenance "reason must contain at most 240 characters")
  | _ => .error (.invalidProvenance "reason must contain at most 240 characters")

/-- A stored value that must be a non-negative integer. -/
def decodeNonNegative (label : String) : Option (Document Real) → Except GrantError Nat
  | some (.int value) => if 0 ≤ value then .ok value.toNat else .error (.invalidInteger label)
  | _ => .error (.invalidInteger label)

def decodeOrigin (value : Option (Document Real)) : Except GrantError GrantOrigin :=
  match textOf value with
  | some "user" => .ok .user
  | some "admin" => .ok .admin
  | some "migration" => .ok .migration
  | _ => .error (.invalidGrants "provenance origin is invalid")

def decodeAction (value : Option (Document Real)) : Except GrantError GrantAction :=
  match textOf value with
  | some "granted" => .ok .granted
  | some "revoked" => .ok .revoked
  | _ => .error (.invalidGrants "audit action is invalid")

def decodeProvenance : Option (Document Real) → Except GrantError GrantProvenance
  | some (.object members) =>
    if Json.hasFields members ["actorId", "origin", "reason", "recordedAtMs", "requestId"] then do
      let origin ← decodeOrigin (Json.field members "origin")
      let actorId ← decodeText Pattern.actor (.invalidProvenance "actor id is invalid")
        (Json.field members "actorId")
      let reason ← decodeReason (Json.field members "reason")
      let recordedAtMs ← decodeNonNegative "recorded_at_ms" (Json.field members "recordedAtMs")
      let requestId ← decodeText Pattern.requestId (.invalidProvenance "request id is invalid")
        (Json.field members "requestId")
      return ⟨actorId, origin, reason, recordedAtMs, requestId⟩
    else .error (.invalidGrants "provenance fields do not match the contract")
  | _ => .error (.invalidGrants "provenance fields do not match the contract")

/-- Decode the members of an object under their keys, checking each key first. -/
def decodeMembers {Value : Type} (accept : String → Bool) (refusal : GrantError)
    (decode : Document Real → Except GrantError Value) :
    List (PyString × Document Real) → Except GrantError (Dict String Value)
  | members => members.foldlM
      (fun decoded member => do
        let key ← decodeText accept refusal (some (.string member.1 : Document Real))
        return decoded.set key (← decode member.2))
      Dict.empty

def decodePluginGrants : Document Real → Except GrantError (Dict String GrantProvenance)
  | .object members => decodeMembers validPermission .invalidPermission
      (fun value => decodeProvenance (some value)) members
  | _ => .error (.invalidGrants "plugin grants must be an object")

/-- A plugin without any grant is left out. -/
def decodeGrants : Option (Document Real) → Except GrantError ActiveGrants
  | some (.object members) => do
    let grants ← decodeMembers validPluginId .invalidPluginId decodePluginGrants members
    return grants.filter fun _ permissions => decide (permissions.size ≠ 0)
  | _ => .error (.invalidGrants "grants must be an object")

def decodeEvent (revision : Nat) : Document Real → Except GrantError GrantAuditEvent
  | .object members =>
    if Json.hasFields members ["revision", "pluginId", "permission", "action", "provenance"] then do
      let recorded ← decodeNonNegative "audit revision" (Json.field members "revision")
      check (decide (1 ≤ recorded) && decide (recorded ≤ revision))
        (.invalidGrants "audit revision is outside the ledger")
      let pluginId ← decodeText validPluginId .invalidPluginId (Json.field members "pluginId")
      let permission ← decodeText validPermission .invalidPermission
        (Json.field members "permission")
      let action ← decodeAction (Json.field members "action")
      let provenance ← decodeProvenance (Json.field members "provenance")
      return ⟨recorded, pluginId, permission, action, provenance⟩
    else .error (.invalidGrants "audit event fields do not match the contract")
  | _ => .error (.invalidGrants "audit event fields do not match the contract")

def decodeAudit (revision auditLimit : Nat) :
    Option (Document Real) → Except GrantError (List GrantAuditEvent)
  | some (.array items) =>
    if items.length ≤ auditLimit then items.mapM (decodeEvent revision)
    else .error (.invalidGrants "audit must contain at most the events of its limit")
  | _ => .error (.invalidGrants "audit must contain at most the events of its limit")

variable [FloatText Real]

/-- The stored version is the one the code knows. A truth value is not, though it may equal it. -/
def knownVersion : Option (Document Real) → Bool
  | some (.bool _) => false
  | some value => value.equalsInt grantsDocumentVersion
  | none => false

def decodeDocument (auditLimit : Nat) : Document Real → Except GrantError GrantState
  | .object members =>
    if Json.hasFields members ["documentVersion", "revision", "grants", "audit"] then
      if knownVersion (Json.field members "documentVersion") then do
        let revision ← decodeNonNegative "stored revision" (Json.field members "revision")
        let grants ← decodeGrants (Json.field members "grants")
        let audit ← decodeAudit revision auditLimit (Json.field members "audit")
        return ⟨revision, grants, audit⟩
      else .error .versionIncompatible
    else .error (.invalidGrants "grant document fields do not match the contract")
  | _ => .error (.invalidGrants "grant document fields do not match the contract")

end

/-! ### The file -/

/-- A ledger that has no grants. -/
def empty : GrantState := ⟨0, Dict.empty, []⟩

section

variable (Real : Type) [FloatText Real]

/-- The text a state is stored as. -/
def storedText (state : GrantState) : List Char := Json.dumps (encodeDocument state : Document Real)

/-- The state a file holds. There is none without a file. -/
def decodeFile (auditLimit : Nat) : Option (List Char) → Except GrantError GrantState
  | none => .ok empty
  | some text =>
    match (Json.loads text : Option (Document Real)) with
    | some document => decodeDocument auditLimit document
    | none => .error .unreadable

/-- The state of a ledger from its file. -/
def load (bounds : GrantBounds) (file : Option (List Char)) : Except GrantError GrantState :=
  if (file.map Json.byteLength).getD 0 ≤ bounds.maxBytes then
    decodeFile Real bounds.auditLimit file
  else .error (.fileTooLarge bounds.maxBytes)

/-- The state a change leads to. -/
def changed (auditLimit : Nat) (state : GrantState) (grants : ActiveGrants)
    (pluginId permission : String) (action : GrantAction) (provenance : GrantProvenance) :
    GrantState :=
  let revision := state.revision + 1
  let audit := state.audit ++ [⟨revision, pluginId, permission, action, provenance⟩]
  ⟨revision, grants, audit.drop (audit.length - auditLimit)⟩

/-- The state a commit leads to with the text it writes. The size is that of the document with its
keys in order; the file keeps the order of the document. -/
def commit (bounds : GrantBounds) (state : GrantState) (grants : ActiveGrants)
    (pluginId permission : String) (action : GrantAction) (provenance : GrantProvenance) :
    Except GrantError (GrantState × List Char) :=
  let next := changed bounds.auditLimit state grants pluginId permission action provenance
  let encoded := Json.dumps (Json.sortKeys (encodeDocument next : Document Real))
  if Json.byteLength encoded ≤ bounds.maxBytes then .ok (next, storedText Real next)
  else .error (.stateTooLarge (Json.byteLength encoded) bounds.maxBytes)

/-! ### Calls -/

/-- The active permissions of a plugin. -/
def pluginGrants (grants : ActiveGrants) (pluginId : String) : Dict String GrantProvenance :=
  (grants.get? pluginId).getD Dict.empty

/-- The permission is active. -/
def active (grants : ActiveGrants) (pluginId permission : String) : Bool :=
  (pluginGrants grants pluginId).contains permission

/-- The grants with one more. -/
def withGrant (grants : ActiveGrants) (pluginId permission : String)
    (provenance : GrantProvenance) : ActiveGrants :=
  grants.set pluginId ((pluginGrants grants pluginId).set permission provenance)

/-- The grants with one less. A plugin that keeps none is left out. -/
def withoutGrant (grants : ActiveGrants) (pluginId permission : String) : ActiveGrants :=
  let rest := (pluginGrants grants pluginId).erase permission
  if rest.size = 0 then grants.erase pluginId else grants.set pluginId rest

/-- The arguments of `grant` and `revoke`, the action telling which. -/
structure Request where
  action : GrantAction
  pluginId : String
  permission : String
  declared : List String
  provenance : GrantProvenance
  expectedRevision : Int
  deriving DecidableEq

/-- The checks before the lock is taken. Only a grant needs a declared permission. -/
def Request.validate (request : Request) : Except GrantError Unit := do
  validatedDeclarations request.declared
  validatePluginId request.pluginId
  validatePermission request.permission
  validateProvenance request.provenance
  validateNonNegativeInteger request.expectedRevision "expected_revision"
  check (decide (request.action = .granted → request.permission ∈ request.declared))
    (.permissionUndeclared request.pluginId request.permission)

/-- The grants a request leads to. -/
def Request.apply (request : Request) (grants : ActiveGrants) : ActiveGrants :=
  match request.action with
  | .granted => withGrant grants request.pluginId request.permission request.provenance
  | .revoked => withoutGrant grants request.pluginId request.permission

/-- The request asks for what is so already. -/
def Request.idle (request : Request) (grants : ActiveGrants) : Bool :=
  match request.action with
  | .granted => active grants request.pluginId request.permission
  | .revoked => !active grants request.pluginId request.permission

/-- The rest of a call under the lock, on the state that was read: refused, without a change, or with
the state it commits and the text it writes. -/
def Request.execute (bounds : GrantBounds) (request : Request) (state : GrantState) :
    Except GrantError (Option (GrantState × List Char)) :=
  if request.expectedRevision = state.revision then
    if request.idle state.grants then .ok none
    else
      match commit Real bounds state (request.apply state.grants) request.pluginId
          request.permission request.action request.provenance with
      | .ok committed => .ok (some committed)
      | .error refusal => .error refusal
  else .error (.revisionMismatch request.expectedRevision state.revision)

end

end GrantLedger

end Omnitensor
