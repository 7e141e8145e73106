/-
This file proves when the consent ledger reads back what it commits.

A state is valid when everything in it would pass the checks of the reader. Calls with valid
arguments keep it valid, and a valid state is decoded from the document it is encoded as, up to
the order of keys and to reasons that hold a character as its two halves: the text does not tell
them from the character, so the reader makes it of them. The size checked before a write is that of
the file, so the reader's limit does not refuse it.
-/

import Omnitensor.GrantLedger
import Omnitensor.JsonRoundTrip
import Omnitensor.Machine

namespace Omnitensor

namespace GrantLedger

/-! ### Valid states -/

/-- A provenance that passes its checks. -/
structure ValidProvenance (provenance : GrantProvenance) : Prop where
  actorId : Pattern.actor provenance.actorId = true
  reason : validReason provenance.reason = true
  recordedAtMs : 0 ≤ provenance.recordedAtMs
  requestId : Pattern.requestId provenance.requestId = true

/-- A provenance that is read back as it is. -/
structure WholeProvenance (provenance : GrantProvenance) : Prop extends ValidProvenance provenance where
  whole : Json.Whole provenance.reason

section

variable (accept : GrantProvenance → Prop)

/-- The active grants of one plugin that pass their checks, with acceptable provenances. -/
def ValidPluginGrants (grants : Dict String GrantProvenance) : Prop :=
  ∀ permission provenance, grants.get? permission = some provenance →
    validPermission permission = true ∧ accept provenance

/-- Active grants that pass their checks, with no plugin that has none. -/
def ValidGrants (grants : ActiveGrants) : Prop :=
  ∀ pluginId permissions, grants.get? pluginId = some permissions →
    validPluginId pluginId = true ∧ permissions.size ≠ 0 ∧ ValidPluginGrants accept permissions

/-- An event that passes its checks. -/
structure ValidEvent (revision : Nat) (event : GrantAuditEvent) : Prop where
  positive : 1 ≤ event.revision
  recorded : event.revision ≤ revision
  pluginId : validPluginId event.pluginId = true
  permission : validPermission event.permission = true
  provenance : accept event.provenance

/-- A state that passes the checks of a reader with this audit limit. -/
structure ValidState (auditLimit : Nat) (state : GrantState) : Prop where
  grants : ValidGrants accept state.grants
  audit : ∀ event ∈ state.audit, ValidEvent accept state.revision event
  length : state.audit.length ≤ auditLimit

theorem validState_empty (auditLimit : Nat) : ValidState accept auditLimit empty where
  grants _ _ impossible := by cases impossible
  audit _ impossible := by cases impossible
  length := Nat.zero_le _

end

/-! ### What is read back -/

/-- A provenance as it is read back. -/
def readProvenance (provenance : GrantProvenance) : GrantProvenance :=
  { provenance with reason := Json.joined provenance.reason }

/-- The active grants as they are read back. -/
def readGrants (grants : ActiveGrants) : ActiveGrants :=
  grants.mapValues fun _ permissions => permissions.mapValues fun _ => readProvenance

/-- An event as it is read back. -/
def readEvent (event : GrantAuditEvent) : GrantAuditEvent :=
  { event with provenance := readProvenance event.provenance }

/-- A state as it is read back. -/
def readState (state : GrantState) : GrantState :=
  { state with grants := readGrants state.grants, audit := state.audit.map readEvent }

variable {auditLimit : Nat} {state : GrantState} {provenance : GrantProvenance}
  {accept : GrantProvenance → Prop}

theorem readProvenance_eq_iff :
    readProvenance provenance = provenance ↔ Json.Whole provenance.reason := by
  rw [← Json.joined_eq_iff]
  exact ⟨congrArg GrantProvenance.reason, fun same => by rw [readProvenance, same]⟩

theorem ValidProvenance.read (valid : ValidProvenance provenance) :
    WholeProvenance (readProvenance provenance) where
  actorId := valid.actorId
  reason := decide_eq_true ((Json.length_joined_le _).trans (of_decide_eq_true valid.reason))
  recordedAtMs := valid.recordedAtMs
  requestId := valid.requestId
  whole := Json.whole_joined _

/-- What is read back from a valid state is valid, and is read back as it is. -/
theorem ValidState.read (valid : ValidState ValidProvenance auditLimit state) :
    ValidState WholeProvenance auditLimit (readState state) where
  grants pluginId permissions found := by
    change (readGrants state.grants).get? pluginId = some permissions at found
    rw [readGrants, Dict.get?_mapValues] at found
    obtain ⟨source, stored, rfl⟩ := Option.map_eq_some_iff.mp found
    obtain ⟨validPlugin, filled, all⟩ := valid.grants pluginId source stored
    refine ⟨validPlugin, by rwa [Dict.size_mapValues], fun permission provenance lookup => ?_⟩
    rw [Dict.get?_mapValues] at lookup
    obtain ⟨source, stored, rfl⟩ := Option.map_eq_some_iff.mp lookup
    exact ⟨(all permission source stored).1, (all permission source stored).2.read⟩
  audit event member := by
    obtain ⟨source, stored, rfl⟩ := List.mem_map.mp member
    have old := valid.audit source stored
    exact { old with provenance := old.provenance.read }
  length := (List.length_map _).trans_le valid.length

theorem ValidState.passes (valid : ValidState WholeProvenance auditLimit state) :
    ValidState ValidProvenance auditLimit state where
  grants pluginId permissions found :=
    have ⟨validPlugin, filled, all⟩ := valid.grants pluginId permissions found
    ⟨validPlugin, filled, fun permission provenance lookup =>
      (all permission provenance lookup).imp_right WholeProvenance.toValidProvenance⟩
  audit event member :=
    have old := valid.audit event member
    { old with provenance := old.provenance.toValidProvenance }
  length := valid.length

theorem readState_of_whole (valid : ValidState WholeProvenance auditLimit state) :
    readState state = state := by
  have grants : readGrants state.grants = state.grants :=
    Dict.mapValues_of_forall fun pluginId permissions found =>
      Dict.mapValues_of_forall fun permission provenance lookup =>
        readProvenance_eq_iff.mpr ((valid.grants pluginId permissions found).2.2 permission provenance
          lookup).2.whole
  have audit : state.audit.map readEvent = state.audit := by
    refine (List.map_congr_left fun event member => ?_).trans (List.map_id _)
    rw [readEvent, readProvenance_eq_iff.mpr (valid.audit event member).provenance.whole, id]
  rw [readState, grants, audit]

/-! ### Reading a document back -/

section

variable {Real : Type}

theorem decodeText_ok {accept : String → Bool} {text : String} (accepted : accept text = true)
    (refusal : GrantError) :
    decodeText accept refusal (some (.string text : Document Real)) = .ok text := by
  rw [decodeText, textOf, PyString.toString?_eq_some.mpr rfl]
  exact if_pos accepted

theorem decodeReason_ok {reason : PyString} (accepted : validReason reason = true) :
    decodeReason (some (.string reason : Document Real)) = .ok reason := if_pos accepted

theorem decodeNonNegative_natCast (label : String) (value : Nat) :
    decodeNonNegative label (some (.int value : Document Real)) = .ok value := by
  rw [decodeNonNegative, if_pos (Int.natCast_nonneg value), Int.toNat_natCast]

theorem decodeOrigin_originText (origin : GrantOrigin) :
    decodeOrigin (some (.string (originText origin) : Document Real)) = .ok origin := by
  rw [decodeOrigin, textOf, PyString.toString?_eq_some.mpr rfl]
  cases origin <;> rfl

theorem decodeAction_actionText (action : GrantAction) :
    decodeAction (some (.string (actionText action) : Document Real)) = .ok action := by
  rw [decodeAction, textOf, PyString.toString?_eq_some.mpr rfl]
  cases action <;> rfl

variable {state : GrantState} {revision auditLimit : Nat} {provenance : GrantProvenance}
  {grants : ActiveGrants} {bounds : GrantBounds}

theorem decodeProvenance_encodeProvenance (valid : ValidProvenance provenance) :
    decodeProvenance (some (encodeProvenance provenance : Document Real)) = .ok provenance := by
  obtain ⟨actorId, origin, reason, recordedAtMs, requestId⟩ := provenance
  obtain ⟨recorded, rfl⟩ := Int.eq_ofNat_of_zero_le valid.recordedAtMs
  simp [decodeProvenance, encodeProvenance, Json.hasFields, Json.field, decodeOrigin_originText,
    decodeText_ok valid.actorId, decodeReason_ok valid.reason, decodeText_ok valid.requestId,
    decodeNonNegative_natCast, bind, Except.bind, pure, Except.pure]

/-- Members are decoded under the keys of the dictionary they were encoded from. -/
theorem decodeMembers_map {Value Other : Type} (accept : String → Bool) (refusal : GrantError)
    (decode : Document Real → Except GrantError Other) (encode : Value → Document Real)
    (change : Value → Other) (dict : Dict String Value)
    (checked : ∀ entry ∈ dict.entries, accept entry.1 = true)
    (decoded : ∀ entry ∈ dict.entries, decode (encode entry.2) = .ok (change entry.2)) :
    decodeMembers accept refusal decode
        (dict.entries.map fun entry => ((entry.1 : PyString), encode entry.2)) =
      .ok (dict.mapValues fun _ value => change value) := by
  have folded (entries : List (String × Value)) (start : Dict String Other)
      (checked : ∀ entry ∈ entries, accept entry.1 = true)
      (decoded : ∀ entry ∈ entries, decode (encode entry.2) = .ok (change entry.2)) :
      (entries.map fun entry => ((entry.1 : PyString), encode entry.2)).foldlM
        (fun decoded member => do
          let key ← decodeText accept refusal (some (.string member.1 : Document Real))
          return decoded.set key (← decode member.2)) start =
        .ok ((entries.map fun entry => (entry.1, change entry.2)).foldl
          (fun dict entry => dict.set entry.1 entry.2) start) := by
    induction entries generalizing start with
    | nil => rfl
    | cons entry entries inductionHypothesis =>
      have rest := inductionHypothesis (start.set entry.1 (change entry.2))
        (fun other member => checked other (List.mem_cons_of_mem _ member))
        (fun other member => decoded other (List.mem_cons_of_mem _ member))
      rw [List.map_cons, List.foldlM_cons, List.map_cons, List.foldl_cons, ← rest,
        decodeText_ok (checked entry List.mem_cons_self), decoded entry List.mem_cons_self]
      rfl
  rw [decodeMembers, folded dict.entries Dict.empty checked decoded]
  refine congrArg Except.ok (Dict.ext ?_)
  have distinct : (dict.entries.map fun entry => (entry.1, change entry.2)).map Prod.fst =
    dict.keys := by rw [List.map_map]; rfl
  rw [Dict.entries_foldl_set (by rw [distinct]; exact dict.nodup_keys)]
  rfl

/-- The active grants of a plugin in the order of a document. -/
def sortedPluginGrants (grants : Dict String GrantProvenance) : Dict String GrantProvenance :=
  grants.sortBy keyOrder

/-- The active grants in the order of a document. -/
def sortedGrants (grants : ActiveGrants) : ActiveGrants :=
  (grants.sortBy keyOrder).mapValues fun _ permissions => sortedPluginGrants permissions

/-- The state in the order of a document. -/
def sorted (state : GrantState) : GrantState := { state with grants := sortedGrants state.grants }

theorem decodePluginGrants_encodePluginGrants {grants : Dict String GrantProvenance}
    (valid : ValidPluginGrants ValidProvenance grants) :
    decodePluginGrants (.object (encodePluginGrants grants) : Document Real) =
      .ok (sortedPluginGrants grants) := by
  have found (entry) (member : entry ∈ (grants.sortBy keyOrder).entries) :
      grants.get? entry.1 = some entry.2 := by
    rw [← Dict.get?_sortBy keyOrder grants]
    exact Dict.get?_of_mem_entries member
  have decoded := decodeMembers_map validPermission .invalidPermission
    (fun value : Document Real => decodeProvenance (some value)) encodeProvenance id
    (grants.sortBy keyOrder) (fun entry member => (valid _ _ (found entry member)).1)
    (fun entry member => decodeProvenance_encodeProvenance (valid _ _ (found entry member)).2)
  rw [decodePluginGrants, encodePluginGrants, decoded]
  refine congrArg Except.ok (Dict.ext ?_)
  exact List.map_id _

theorem size_sortedPluginGrants (grants : Dict String GrantProvenance) :
    (sortedPluginGrants grants).size = grants.size := Dict.size_sortBy keyOrder grants

theorem decodeGrants_encodeGrants (valid : ValidGrants ValidProvenance grants) :
    decodeGrants (some (.object (encodeGrants grants) : Document Real)) =
      .ok (sortedGrants grants) := by
  have found (entry) (member : entry ∈ (grants.sortBy keyOrder).entries) :
      grants.get? entry.1 = some entry.2 := by
    rw [← Dict.get?_sortBy keyOrder grants]
    exact Dict.get?_of_mem_entries member
  have decoded := decodeMembers_map validPluginId .invalidPluginId
    (decodePluginGrants : Document Real → _) (fun grants => .object (encodePluginGrants grants))
    sortedPluginGrants (grants.sortBy keyOrder)
    (fun entry member => (valid _ _ (found entry member)).1)
    (fun entry member => decodePluginGrants_encodePluginGrants (valid _ _ (found entry member)).2.2)
  have kept : (sortedGrants grants).filter (fun _ permissions => decide (permissions.size ≠ 0)) =
      sortedGrants grants := by
    refine Dict.ext (List.filter_eq_self.mpr fun entry member => ?_)
    obtain ⟨source, stored, rfl⟩ := List.mem_map.mp member
    exact decide_eq_true (by
      rw [size_sortedPluginGrants]
      exact (valid _ _ (found source stored)).2.1)
  rw [decodeGrants, encodeGrants, decoded]
  exact congrArg Except.ok kept

theorem decodeEvent_encodeEvent {event : GrantAuditEvent}
    (valid : ValidEvent ValidProvenance revision event) :
    decodeEvent revision (encodeEvent event : Document Real) = .ok event := by
  obtain ⟨recorded, pluginId, permission, action, provenance⟩ := event
  have inside : (decide (1 ≤ recorded) && decide (recorded ≤ revision)) = true :=
    Bool.and_eq_true_iff.mpr ⟨decide_eq_true valid.positive, decide_eq_true valid.recorded⟩
  simp [decodeEvent, encodeEvent, Json.hasFields, Json.field, decodeNonNegative_natCast,
    inside, check, decodeText_ok valid.pluginId, decodeText_ok valid.permission,
    decodeAction_actionText, decodeProvenance_encodeProvenance valid.provenance, bind, Except.bind, pure, Except.pure]

theorem decodeAudit_map_encodeEvent {audit : List GrantAuditEvent}
    (valid : ∀ event ∈ audit, ValidEvent ValidProvenance revision event)
    (length : audit.length ≤ auditLimit) :
    decodeAudit revision auditLimit (some (.array (audit.map encodeEvent) : Document Real)) =
      .ok audit := by
  rw [decodeAudit, if_pos (by rwa [List.length_map])]
  clear length
  induction audit with
  | nil => rfl
  | cons event audit inductionHypothesis =>
    rw [List.map_cons, List.mapM_cons, decodeEvent_encodeEvent (valid event List.mem_cons_self),
      inductionHypothesis fun other member => valid other (List.mem_cons_of_mem _ member)]
    rfl

variable [FloatText Real]

/-- A valid state is decoded from its document, up to the order of keys. -/
theorem decodeDocument_encodeDocument (valid : ValidState ValidProvenance auditLimit state) :
    decodeDocument auditLimit (encodeDocument state : Document Real) = .ok (sorted state) := by
  simp [decodeDocument, encodeDocument, Json.hasFields, Json.field, knownVersion, Json.equalsInt,
    decodeNonNegative_natCast, decodeGrants_encodeGrants valid.grants,
    decodeAudit_map_encodeEvent valid.audit valid.length, sorted, bind, Except.bind, pure,
    Except.pure]

/-! ### Reading a file back -/

omit [FloatText Real] in
theorem readable_encodeProvenance (whole : Json.Whole provenance.reason) :
    Json.Readable (encodeProvenance provenance : Document Real) := by
  simp [encodeProvenance, Json.Readable, Json.ReadableMembers, whole]

omit [FloatText Real] in
theorem readable_encodeGrants (valid : ValidGrants WholeProvenance grants) :
    Json.Readable (.object (encodeGrants grants) : Document Real) := by
  have named {Value : Type} (dict : Dict String Value) (encode : Value → Document Real) :
      ((dict.entries.map fun entry => ((entry.1 : PyString), encode entry.2)).map Prod.fst).Nodup := by
    rw [List.map_map]
    have keys := dict.nodup_keys.map fun _ _ same => PyString.ofString_inj.mp same
    rwa [Dict.keys, List.map_map] at keys
  refine ⟨named (grants.sortBy keyOrder) fun permissions => .object (encodePluginGrants permissions),
    Json.readableMembers_iff.mpr fun member stored => ?_⟩
  obtain ⟨entry, inside, rfl⟩ := List.mem_map.mp stored
  refine ⟨Json.whole_ofString _, named (entry.2.sortBy keyOrder) encodeProvenance,
    Json.readableMembers_iff.mpr fun member stored => ?_⟩
  obtain ⟨inner, among, rfl⟩ := List.mem_map.mp stored
  have found := Dict.get?_of_mem_entries inside
  have lookup := Dict.get?_of_mem_entries among
  rw [Dict.get?_sortBy] at found lookup
  exact ⟨Json.whole_ofString _,
    readable_encodeProvenance ((valid _ _ found).2.2 _ _ lookup).2.whole⟩

omit [FloatText Real] in
theorem readable_encodeDocument (valid : ValidState WholeProvenance auditLimit state) :
    Json.Readable (encodeDocument state : Document Real) := by
  have events : Json.ReadableItems (state.audit.map encodeEvent : List (Document Real)) := by
    refine Json.readableItems_iff.mpr fun item stored => ?_
    obtain ⟨event, member, rfl⟩ := List.mem_map.mp stored
    simp [encodeEvent, Json.Readable, Json.ReadableMembers,
      readable_encodeProvenance (valid.audit event member).provenance.whole]
  have grants : Json.Readable (.object (encodeGrants state.grants) : Document Real) :=
    readable_encodeGrants valid.grants
  rw [encodeDocument, Json.Readable]
  refine ⟨by simp, Json.readableMembers_iff.mpr fun member stored => ?_⟩
  simp only [List.mem_cons, List.not_mem_nil, or_false] at stored
  rcases stored with rfl | rfl | rfl | rfl
  · exact ⟨Json.whole_ofString _, trivial⟩
  · exact ⟨Json.whole_ofString _, trivial⟩
  · exact ⟨Json.whole_ofString _, grants⟩
  · exact ⟨Json.whole_ofString _, events⟩

/-! ### The text of a state -/

theorem dumps_encodeProvenance_read (provenance : GrantProvenance) :
    Json.dumps (encodeProvenance (readProvenance provenance) : Document Real) =
      Json.dumps (encodeProvenance provenance : Document Real) :=
  Json.dumps_object_congr
    (by simp [readProvenance, Json.memberTexts, Json.dumps, Json.stringText_joined])

theorem dumps_encodeEvent_read (event : GrantAuditEvent) :
    Json.dumps (encodeEvent (readEvent event) : Document Real) =
      Json.dumps (encodeEvent event : Document Real) :=
  Json.dumps_object_congr
    (by simp [readEvent, Json.memberTexts, dumps_encodeProvenance_read])

theorem dumps_encodeGrants_read (grants : ActiveGrants) :
    Json.dumps (.object (encodeGrants (readGrants grants)) : Document Real) =
      Json.dumps (.object (encodeGrants grants) : Document Real) := by
  have inner (permissions : Dict String GrantProvenance) :
      Json.dumps (.object (encodePluginGrants (permissions.mapValues fun _ => readProvenance)) :
        Document Real) = Json.dumps (.object (encodePluginGrants permissions) : Document Real) := by
    refine Json.dumps_object_congr ?_
    rw [encodePluginGrants, ← Dict.mapValues_sortBy, encodePluginGrants, Dict.mapValues, List.map_map,
      List.map_map, List.map_map]
    exact List.map_congr_left fun entry _ => Prod.ext rfl (dumps_encodeProvenance_read entry.2)
  refine Json.dumps_object_congr ?_
  rw [encodeGrants, readGrants, ← Dict.mapValues_sortBy, encodeGrants, Dict.mapValues, List.map_map,
    List.map_map, List.map_map]
  exact List.map_congr_left fun entry _ => Prod.ext rfl (inner entry.2)

/-- A state and what is read back from it have the same text. -/
theorem storedText_readState (state : GrantState) :
    storedText Real (readState state) = storedText Real state := by
  have events : Json.dumps (.array ((state.audit.map readEvent).map encodeEvent) : Document Real) =
      Json.dumps (.array (state.audit.map encodeEvent) : Document Real) := by
    refine Json.dumps_array_congr ?_
    rw [List.map_map, List.map_map, List.map_map]
    exact List.map_congr_left fun event _ => dumps_encodeEvent_read event
  refine Json.dumps_object_congr ?_
  simp only [readState, List.map_cons, Json.memberTexts, dumps_encodeGrants_read, events]

/-- A valid state is decoded from its file as it is read back, up to the order of keys. -/
theorem decodeFile_storedText (valid : ValidState ValidProvenance auditLimit state) :
    decodeFile Real auditLimit (some (storedText Real state)) = .ok (sorted (readState state)) := by
  rw [decodeFile, ← storedText_readState, storedText,
    Json.loads_dumps (readable_encodeDocument valid.read)]
  exact decodeDocument_encodeDocument valid.read.passes

/-- It is loaded when the file is within the limit. -/
theorem load_storedText (valid : ValidState ValidProvenance bounds.auditLimit state)
    (small : Json.byteLength (storedText Real state) ≤ bounds.maxBytes) :
    load Real bounds (some (storedText Real state)) = .ok (sorted (readState state)) := by
  rw [load, Option.map_some, Option.getD_some, if_pos small]
  exact decodeFile_storedText valid

/-- A file that is loaded is decoded. -/
theorem decodeFile_of_load {file : Option (List Char)} (loaded : load Real bounds file = .ok state) :
    decodeFile Real bounds.auditLimit file = .ok state := by
  rw [load] at loaded
  split at loaded
  · exact loaded
  · cases loaded

theorem load_none (bounds : GrantBounds) : load Real bounds none = .ok empty :=
  if_pos (Nat.zero_le _)

/-- What a commit writes is within the limit it checked. -/
theorem byteLength_of_commit {next : GrantState} {pluginId permission : String}
    {action : GrantAction} {text : List Char}
    (committed : commit Real bounds state grants pluginId permission action provenance =
      .ok (next, text)) :
    next = changed bounds.auditLimit state grants pluginId permission action provenance ∧
      text = storedText Real next ∧ Json.byteLength text ≤ bounds.maxBytes := by
  rw [commit] at committed
  split at committed
  · rename_i small
    obtain ⟨rfl, rfl⟩ := Prod.mk.inj (Except.ok.inj committed)
    rw [Json.byteLength_dumps_sortKeys] at small
    exact ⟨rfl, rfl, small⟩
  · cases committed

end

/-! ### What a reader accepts -/

section

variable {Real : Type}

variable {value : Option (Document Real)} {revision auditLimit : Nat} {accept : String → Bool}

theorem accepted_of_decodeText {refusal : GrantError} {text : String}
    (decoded : decodeText accept refusal value = .ok text) : accept text = true := by
  unfold decodeText at decoded
  split at decoded
  · split at decoded
    · rename_i accepted
      exact Except.ok.inj decoded ▸ accepted
    · cases decoded
  · cases decoded

theorem decodeReason_eq_ok {reason : PyString} (decoded : decodeReason value = .ok reason) :
    validReason reason = true ∧ value = some (.string reason) := by
  unfold decodeReason at decoded
  split at decoded
  · split at decoded
    · rename_i accepted
      obtain rfl := Except.ok.inj decoded
      exact ⟨accepted, rfl⟩
    · cases decoded
  · cases decoded

theorem wholeProvenance_of_decode
    (readable : ∀ document, value = some document → Json.Readable document)
    {provenance : GrantProvenance} (decoded : decodeProvenance value = .ok provenance) :
    WholeProvenance provenance := by
  unfold decodeProvenance at decoded
  split at decoded
  · split at decoded
    · simp only [bind_eq_ok] at decoded
      obtain ⟨origin, _, actorId, actorDecoded, reason, reasonDecoded, recordedAtMs, _, requestId,
        requestDecoded, built⟩ := decoded
      obtain rfl := Except.ok.inj built
      obtain ⟨accepted, found⟩ := decodeReason_eq_ok reasonDecoded
      exact ⟨⟨accepted_of_decodeText actorDecoded, accepted, Int.natCast_nonneg _,
        accepted_of_decodeText requestDecoded⟩, Json.readable_field (readable _ rfl) found⟩
    · cases decoded
  · cases decoded

/-- Whatever members are decoded has passed both checks. -/
theorem mem_of_decodeMembers {Value : Type} {refusal : GrantError}
    {decode : Document Real → Except GrantError Value} {members : List (PyString × Document Real)}
    {dict : Dict String Value} (decoded : decodeMembers accept refusal decode members = .ok dict)
    {key : String} {value : Value} (found : dict.get? key = some value) :
    accept key = true ∧ ∃ member ∈ members, decode member.2 = .ok value := by
  have folded (rest : List (PyString × Document Real)) (inside : rest ⊆ members)
      (start : Dict String Value)
      (before : ∀ key value, start.get? key = some value →
        accept key = true ∧ ∃ member ∈ members, decode member.2 = .ok value)
      (ran : rest.foldlM
        (fun decoded member => do
          let key ← decodeText accept refusal (some (.string member.1 : Document Real))
          return decoded.set key (← decode member.2)) start = .ok dict) :
      ∀ key value, dict.get? key = some value →
        accept key = true ∧ ∃ member ∈ members, decode member.2 = .ok value := by
    induction rest generalizing start with
    | nil =>
      obtain rfl := Except.ok.inj ran
      exact before
    | cons member rest inductionHypothesis =>
      simp only [List.foldlM_cons, bind_eq_ok] at ran
      obtain ⟨middle, ⟨name, named, stored, storedDecoded, set⟩, ran⟩ := ran
      obtain rfl := Except.ok.inj set
      refine inductionHypothesis (fun other later => inside (List.mem_cons_of_mem _ later))
        (start.set name stored) (fun key value lookup => ?_) ran
      rw [Dict.get?_set] at lookup
      split at lookup
      · rename_i same
        obtain rfl := Option.some.inj lookup
        exact ⟨same ▸ accepted_of_decodeText named, member, inside List.mem_cons_self, storedDecoded⟩
      · exact before key value lookup
  exact folded members (List.Subset.refl _) Dict.empty (fun _ _ impossible => by cases impossible)
    decoded key value found

theorem validPluginGrants_of_decode {value : Document Real} (readable : Json.Readable value)
    {grants : Dict String GrantProvenance} (decoded : decodePluginGrants value = .ok grants) :
    ValidPluginGrants WholeProvenance grants := by
  unfold decodePluginGrants at decoded
  split at decoded
  · intro permission provenance found
    obtain ⟨accepted, member, inside, provenanceDecoded⟩ := mem_of_decodeMembers decoded found
    have kept := (Json.readableMembers_iff.mp readable.2 member inside).2
    exact ⟨accepted, wholeProvenance_of_decode (fun _ same => Option.some.inj same ▸ kept)
      provenanceDecoded⟩
  · cases decoded

theorem validGrants_of_decode
    (readable : ∀ document, value = some document → Json.Readable document) {grants : ActiveGrants}
    (decoded : decodeGrants value = .ok grants) : ValidGrants WholeProvenance grants := by
  unfold decodeGrants at decoded
  split at decoded
  · obtain ⟨all, members, kept⟩ := bind_eq_ok.mp decoded
    obtain rfl := Except.ok.inj kept
    intro pluginId permissions found
    obtain ⟨stored, some⟩ := Dict.get?_filter_of_accept.mp found
    obtain ⟨accepted, member, inside, permissionsDecoded⟩ := mem_of_decodeMembers members stored
    exact ⟨accepted, of_decide_eq_true some, validPluginGrants_of_decode
      (Json.readableMembers_iff.mp (readable _ rfl).2 member inside).2 permissionsDecoded⟩
  · cases decoded

theorem validEvent_of_decode {value : Document Real} (readable : Json.Readable value)
    {event : GrantAuditEvent} (decoded : decodeEvent revision value = .ok event) :
    ValidEvent WholeProvenance revision event := by
  unfold decodeEvent at decoded
  split at decoded
  · split at decoded
    · simp only [bind_eq_ok, check_eq_ok, Bool.and_eq_true, decide_eq_true_eq] at decoded
      obtain ⟨recorded, _, _, ⟨positive, bounded⟩, pluginId, pluginDecoded, permission,
        permissionDecoded, action, _, provenance, provenanceDecoded, built⟩ := decoded
      obtain rfl := Except.ok.inj built
      exact ⟨positive, bounded, accepted_of_decodeText pluginDecoded,
        accepted_of_decodeText permissionDecoded,
        wholeProvenance_of_decode (fun _ => Json.readable_field readable) provenanceDecoded⟩
    · cases decoded
  · cases decoded

theorem validAudit_of_decode (readable : ∀ document, value = some document → Json.Readable document)
    {audit : List GrantAuditEvent} (decoded : decodeAudit revision auditLimit value = .ok audit) :
    (∀ event ∈ audit, ValidEvent WholeProvenance revision event) ∧ audit.length ≤ auditLimit := by
  unfold decodeAudit at decoded
  split at decoded
  · split at decoded
    · rename_i small
      refine ⟨fun event member => ?_, (length_of_mapM decoded).symm ▸ small⟩
      obtain ⟨item, inside, eventDecoded⟩ := exists_of_mem_mapM decoded event member
      exact validEvent_of_decode (Json.readableItems_iff.mp (readable _ rfl) item inside) eventDecoded
    · cases decoded
  · cases decoded

/-- Whatever a reader decodes from a file is valid, and is read back as it is. -/
theorem validState_of_decodeFile [FloatText Real] {file : Option (List Char)} {state : GrantState}
    (decoded : decodeFile Real auditLimit file = .ok state) :
    ValidState WholeProvenance auditLimit state := by
  unfold decodeFile at decoded
  split at decoded
  · obtain rfl := Except.ok.inj decoded
    exact validState_empty WholeProvenance auditLimit
  · split at decoded
    · rename_i document read
      have readable := Json.readable_loads read
      unfold decodeDocument at decoded
      split at decoded
      · split at decoded
        · split at decoded
          · simp only [bind_eq_ok] at decoded
            obtain ⟨revision, _, grants, grantsDecoded, audit, auditDecoded, built⟩ := decoded
            obtain rfl := Except.ok.inj built
            obtain ⟨events, length⟩ :=
              validAudit_of_decode (fun _ => Json.readable_field readable) auditDecoded
            exact ⟨validGrants_of_decode (fun _ => Json.readable_field readable) grantsDecoded, events,
              length⟩
          · cases decoded
        · cases decoded
      · cases decoded
    · cases decoded

end

/-! ### Valid calls -/

theorem validProvenance_of_validate (accepted : validateProvenance provenance = .ok ()) :
    ValidProvenance provenance := by
  simp only [validateProvenance, validateNonNegativeInteger, bind_eq_ok, check_eq_ok,
    decide_eq_true_eq] at accepted
  obtain ⟨_, actorId, _, reason, _, recordedAtMs, requestId⟩ := accepted
  exact ⟨actorId, reason, recordedAtMs, requestId⟩

/-- What the checks before the lock establish. -/
theorem Request.valid_of_validate {request : Request} (accepted : request.validate = .ok ()) :
    validPluginId request.pluginId = true ∧ validPermission request.permission = true ∧
      ValidProvenance request.provenance := by
  simp only [Request.validate, validatePluginId, validatePermission, bind_eq_ok,
    check_eq_ok] at accepted
  obtain ⟨_, _, _, pluginId, _, permission, _, provenance, _⟩ := accepted
  exact ⟨pluginId, permission, validProvenance_of_validate provenance⟩

section

variable {accept : GrantProvenance → Prop}

variable {grants : ActiveGrants} {pluginId permission : String}

theorem validPluginGrants_pluginGrants (valid : ValidGrants accept grants) (pluginId : String) :
    ValidPluginGrants accept (pluginGrants grants pluginId) := by
  rw [pluginGrants]
  cases found : grants.get? pluginId with
  | none => exact fun _ _ impossible => by cases impossible
  | some permissions => exact (valid pluginId permissions found).2.2

theorem validGrants_withGrant (valid : ValidGrants accept grants) {provenance : GrantProvenance}
    (validPlugin : validPluginId pluginId = true) (validName : validPermission permission = true)
    (validRecord : accept provenance) :
    ValidGrants accept (withGrant grants pluginId permission provenance) := by
  intro other permissions found
  rw [withGrant, Dict.get?_set] at found
  split at found
  · rename_i same
    subst same
    obtain rfl := Option.some.inj found
    refine ⟨validPlugin, ?_, fun name stored lookup => ?_⟩
    · rw [Dict.size_set]
      split
      · rename_i present
        exact Nat.ne_of_gt (List.length_pos_of_mem present |>.trans_eq (Dict.length_keys _))
      · exact Nat.succ_ne_zero _
    · rw [Dict.get?_set] at lookup
      split at lookup
      · rename_i same
        obtain rfl := Option.some.inj lookup
        exact ⟨same ▸ validName, validRecord⟩
      · exact validPluginGrants_pluginGrants valid _ _ _ lookup
  · exact valid other permissions found

theorem validGrants_withoutGrant (valid : ValidGrants accept grants)
    (validPlugin : validPluginId pluginId = true) :
    ValidGrants accept (withoutGrant grants pluginId permission) := by
  intro other permissions found
  rw [withoutGrant] at found
  split at found
  · rw [Dict.get?_erase] at found
    split at found
    · cases found
    · exact valid other permissions found
  · rename_i kept
    rw [Dict.get?_set] at found
    split at found
    · rename_i same
      subst same
      obtain rfl := Option.some.inj found
      refine ⟨validPlugin, kept, fun name stored lookup => ?_⟩
      rw [Dict.get?_erase] at lookup
      split at lookup
      · cases lookup
      · exact validPluginGrants_pluginGrants valid _ _ _ lookup
    · exact valid other permissions found

/-- A change by a request that passes its checks keeps the state valid. -/
theorem validState_changed {auditLimit : Nat} {state : GrantState}
    (valid : ValidState accept auditLimit state) {request : Request}
    (accepted : request.validate = .ok ()) (record : accept request.provenance) :
    ValidState accept auditLimit (changed auditLimit state (request.apply state.grants) request.pluginId
      request.permission request.action request.provenance) := by
  obtain ⟨validPlugin, validName, _⟩ := Request.valid_of_validate accepted
  refine ⟨?_, fun event member => ?_, ?_⟩
  · show ValidGrants accept (request.apply state.grants)
    rw [Request.apply]
    split
    · exact validGrants_withGrant valid.grants validPlugin validName record
    · exact validGrants_withoutGrant valid.grants validPlugin
  · rcases List.mem_append.mp (List.mem_of_mem_drop member) with earlier | new
    · have old := valid.audit event earlier
      exact { old with recorded := Nat.le_succ_of_le old.recorded }
    · rw [List.mem_singleton] at new
      subst new
      exact ⟨Nat.succ_pos _, Nat.le_refl _, validPlugin, validName, record⟩
  · show (List.drop _ _).length ≤ auditLimit
    rw [List.length_drop]
    omega

end

/-! ### Equal states -/

/-- The same permissions are active for the same plugins, with the same provenances. -/
def SameGrants (first second : ActiveGrants) : Prop :=
  ∀ pluginId, (first.get? pluginId).map Dict.get? = (second.get? pluginId).map Dict.get?

/-- Two states that Python counts as equal: the order of keys does not matter. -/
structure SameState (first second : GrantState) : Prop where
  revision : first.revision = second.revision
  grants : SameGrants first.grants second.grants
  audit : first.audit = second.audit

theorem SameState.refl (state : GrantState) : SameState state state := ⟨rfl, fun _ => rfl, rfl⟩

theorem sameState_sorted (state : GrantState) : SameState (sorted state) state := by
  refine ⟨rfl, fun pluginId => ?_, rfl⟩
  show ((sortedGrants state.grants).get? pluginId).map Dict.get? = _
  rw [sortedGrants, Dict.get?_mapValues, Dict.get?_sortBy, Option.map_map]
  refine congrArg (Option.map · _) (funext fun permissions => funext fun permission => ?_)
  exact Dict.get?_sortBy keyOrder permissions permission

theorem validGrants_sortedGrants {grants : ActiveGrants} (valid : ValidGrants accept grants) :
    ValidGrants accept (sortedGrants grants) := by
  intro pluginId permissions found
  rw [sortedGrants, Dict.get?_mapValues, Dict.get?_sortBy] at found
  obtain ⟨source, stored, rfl⟩ := Option.map_eq_some_iff.mp found
  obtain ⟨validPlugin, some, all⟩ := valid pluginId source stored
  refine ⟨validPlugin, by rwa [size_sortedPluginGrants], fun permission provenance lookup => ?_⟩
  exact all permission provenance (by rwa [sortedPluginGrants, Dict.get?_sortBy] at lookup)

theorem validState_sorted (valid : ValidState accept auditLimit state) :
    ValidState accept auditLimit (sorted state) :=
  ⟨validGrants_sortedGrants valid.grants, valid.audit, valid.length⟩

theorem sorted_readState_empty : sorted (readState empty) = empty := by
  have grants : sortedGrants (readGrants Dict.empty) = Dict.empty :=
    Dict.ext (by simp [sortedGrants, readGrants, Dict.mapValues, Dict.sortBy, Dict.empty])
  rw [sorted, readState, empty, grants]
  rfl

/-! ### Calls one after another -/

/-- The file of a ledger, and what the ledger whose call was the last holds in memory. -/
structure LedgerFile where
  file : Option (List Char)
  memory : GrantState
  deriving DecidableEq

section

variable (Real : Type) [FloatText Real]

/-- One call of `grant` or `revoke` by a ledger of the file, and whether it commits. -/
def call (bounds : GrantBounds) (state : LedgerFile) (request : Request) :
    LedgerFile × Except GrantError Bool :=
  match request.validate with
  | .error refusal => (state, .error refusal)
  | .ok _ =>
    match load Real bounds state.file with
    | .error refusal => (⟨state.file, empty⟩, .error refusal)
    | .ok loaded =>
      match request.execute Real bounds loaded with
      | .error refusal => (⟨state.file, loaded⟩, .error refusal)
      | .ok none => (⟨state.file, loaded⟩, .ok false)
      | .ok (some (next, text)) => (⟨some text, next⟩, .ok true)

/-- The calls of a run. -/
def callStep (bounds : GrantBounds) (state : LedgerFile) (request : Request) : Option LedgerFile :=
  some (call Real bounds state request).1

/-- No file yet. -/
def noFile : LedgerFile := ⟨none, empty⟩

/-- The file is absent, or holds a valid state within the limits. -/
def Stored (bounds : GrantBounds) (file : Option (List Char)) (state : GrantState) : Prop :=
  ValidState ValidProvenance bounds.auditLimit state ∧
    ((file = none ∧ state = empty) ∨
      (file = some (storedText Real state) ∧
        Json.byteLength (storedText Real state) ≤ bounds.maxBytes))

variable {Real}

variable {bounds : GrantBounds} {state next : GrantState} {request : Request} {text : List Char}

theorem load_stored {file : Option (List Char)} (stored : Stored Real bounds file state) :
    load Real bounds file = .ok (sorted (readState state)) := by
  obtain ⟨valid, ⟨rfl, rfl⟩ | ⟨rfl, small⟩⟩ := stored
  · rw [sorted_readState_empty]
    exact load_none bounds
  · exact load_storedText valid small

/-- A request that commits changes the state that was read, and stores what it changed. -/
theorem Request.execute_committed
    (executed : request.execute Real bounds state = .ok (some (next, text))) :
    next = changed bounds.auditLimit state (request.apply state.grants) request.pluginId
        request.permission request.action request.provenance ∧
      text = storedText Real next ∧ Json.byteLength text ≤ bounds.maxBytes := by
  rw [Request.execute] at executed
  split at executed
  · split at executed
    · cases executed
    · split at executed
      · rename_i committed
        obtain rfl := Option.some.inj (Except.ok.inj executed)
        exact byteLength_of_commit committed
      · cases executed
  · cases executed

/-- A request that commits does not ask for what is so already. -/
theorem Request.busy_of_execute {written : GrantState × List Char}
    (executed : request.execute Real bounds state = .ok (some written)) :
    request.idle state.grants = false := by
  rw [Request.execute] at executed
  split at executed
  · split at executed
    · cases executed
    · rename_i busy
      exact Bool.eq_false_iff.mpr busy
  · cases executed

/-- A call that commits leaves its memory stored. -/
theorem stored_execute (valid : ValidState ValidProvenance bounds.auditLimit state)
    (accepted : request.validate = .ok ())
    (executed : request.execute Real bounds state = .ok (some (next, text))) :
    Stored Real bounds (some text) next := by
  obtain ⟨rfl, rfl, small⟩ := Request.execute_committed executed
  exact ⟨validState_changed valid accepted (Request.valid_of_validate accepted).2.2,
    Or.inr ⟨rfl, small⟩⟩

/-- A call keeps a state stored; when it commits, that state is the memory. -/
theorem stored_call {state : LedgerFile} {stored : GrantState}
    (before : Stored Real bounds state.file stored) (request : Request) :
    (∃ after, Stored Real bounds (call Real bounds state request).1.file after) ∧
      ((call Real bounds state request).2 = .ok true →
        Stored Real bounds (call Real bounds state request).1.file
          (call Real bounds state request).1.memory) := by
  rw [call]
  split
  · exact ⟨⟨stored, before⟩, fun impossible => by cases impossible⟩
  · rename_i accepted
    rw [load_stored before]
    dsimp only
    split
    · exact ⟨⟨stored, before⟩, fun impossible => by cases impossible⟩
    · exact ⟨⟨stored, before⟩, fun impossible => by cases impossible⟩
    · rename_i executed
      have after := stored_execute (validState_sorted before.1.read.passes) accepted executed
      exact ⟨⟨_, after⟩, fun _ => after⟩

/-- Some state is stored in the file of every run. -/
theorem stored_of_reachable {state : LedgerFile}
    (reachable : Machine.Reachable (callStep Real bounds) noFile state) :
    ∃ stored, Stored Real bounds state.file stored := by
  refine reachable.invariant (fun state => ∃ stored, Stored Real bounds state.file stored) ?_
    ⟨empty, validState_empty _ _, Or.inl ⟨rfl, rfl⟩⟩
  rintro state request _ ⟨stored, before⟩ ⟨⟩
  exact (stored_call before request).1

/-- What commits was read before, with the arguments checked. -/
theorem call_committed {state after : LedgerFile}
    (committed : call Real bounds state request = (after, .ok true)) :
    request.validate = .ok () ∧ ∃ loaded, load Real bounds state.file = .ok loaded ∧
      ∃ text, after.file = some text ∧
        request.execute Real bounds loaded = .ok (some (after.memory, text)) := by
  rw [call] at committed
  split at committed
  · cases committed
  · rename_i accepted
    split at committed
    · cases committed
    · rename_i loaded read
      split at committed
      · cases committed
      · cases committed
      · rename_i next text executed
        obtain ⟨rfl, _⟩ := Prod.mk.inj committed
        exact ⟨accepted, loaded, read, text, rfl, executed⟩

/-- What a commit adds to a state that was read decides whether the state is read back as it is. -/
theorem sameState_read_iff {loaded : GrantState}
    (valid : ValidState WholeProvenance bounds.auditLimit loaded)
    (accepted : request.validate = .ok ())
    (executed : request.execute Real bounds loaded = .ok (some (next, text))) :
    SameState (sorted (readState next)) next ↔ Json.Whole request.provenance.reason := by
  obtain ⟨rfl, _, _⟩ := Request.execute_committed executed
  refine ⟨fun same => ?_, fun whole => ?_⟩
  · have kept : ∀ event ∈ (changed bounds.auditLimit loaded (request.apply loaded.grants)
        request.pluginId request.permission request.action request.provenance).audit,
        readEvent event = event :=
      List.map_inj_left.mp (same.audit.trans (List.map_id _).symm)
    -- The event of the commit is the newest of the audit.
    refine readProvenance_eq_iff.mp (congrArg GrantAuditEvent.provenance (kept
      ⟨loaded.revision + 1, request.pluginId, request.permission, request.action,
        request.provenance⟩ ?_))
    have positive := bounds.auditLimitPositive
    rw [changed, List.drop_append_of_le_length (by
      rw [List.length_append, List.length_singleton]
      omega)]
    exact List.mem_append_right _ List.mem_cons_self
  · have record : WholeProvenance request.provenance :=
      ⟨(Request.valid_of_validate accepted).2.2, whole⟩
    rw [readState_of_whole (validState_changed valid accepted record)]
    exact sameState_sorted _

/-- Whatever the ledger commits is loaded. It is loaded as it was exactly if the reason that the
commit adds holds no character as its two halves. -/
theorem readable_iff_whole {bounds : GrantBounds} {state after : LedgerFile} {request : Request}
    (reachable : Machine.Reachable (callStep Real bounds) noFile state)
    (committed : call Real bounds state request = (after, .ok true)) :
    (∃ loaded, load Real bounds after.file = .ok loaded) ∧
      ((∃ loaded, load Real bounds after.file = .ok loaded ∧ SameState loaded after.memory) ↔
        Json.Whole request.provenance.reason) := by
  obtain ⟨stored, before⟩ := stored_of_reachable reachable
  have kept := (stored_call before request).2
  rw [committed] at kept
  have read := load_stored (kept rfl)
  obtain ⟨accepted, loaded, decoded, text, _, executed⟩ := call_committed committed
  have valid := validState_of_decodeFile (decodeFile_of_load decoded)
  rw [← sameState_read_iff valid accepted executed]
  refine ⟨⟨_, read⟩, fun ⟨other, again, same⟩ => ?_, fun same => ⟨_, read, same⟩⟩
  obtain rfl := Except.ok.inj (again.symm.trans read)
  exact same

/-- The limits and the request of an example. -/
def exampleBounds : GrantBounds := ⟨1000, 2, by decide, Nat.two_pos⟩

@[inherit_doc exampleBounds]
def exampleRequest : Request where
  action := .granted
  pluginId := "indexer"
  permission := "filesystem-read:/home"
  declared := ["filesystem-read:/home"]
  provenance := ⟨"owner", .user, PyString.ofString "né\n" ++ [.surrogate 61], 7, "request"⟩
  expectedRevision := 0

/-- The reason holds a letter beyond ASCII and one half of a character. -/
theorem readable_iff_whole_first :
    ∃ loaded, load ExactDecimal exampleBounds
        (call ExactDecimal exampleBounds noFile exampleRequest).1.file = .ok loaded ∧
      SameState loaded (call ExactDecimal exampleBounds noFile exampleRequest).1.memory := by
  have committed : (call ExactDecimal exampleBounds noFile exampleRequest).2 = .ok true := by
    decide +kernel
  generalize outcome : call ExactDecimal exampleBounds noFile exampleRequest = result at committed
  obtain ⟨after, _⟩ := result
  obtain rfl : _ = Except.ok true := committed
  exact (readable_iff_whole (Machine.Reachable.start noFile) outcome).2.mpr (by decide)

/-- A request whose reason is a character as its two halves. -/
def splitRequest : Request :=
  { exampleRequest with
    provenance := { exampleRequest.provenance with reason := [.surrogate 61, .surrogate 1536] } }

/-- The reader makes the character of the halves, so it does not hold what was committed. -/
theorem not_readable_of_committed :
    ¬ ∀ (bounds : GrantBounds) (state after : LedgerFile) (request : Request),
      Machine.Reachable (callStep ExactDecimal bounds) noFile state →
      call ExactDecimal bounds state request = (after, .ok true) →
      ∃ loaded, load ExactDecimal bounds after.file = .ok loaded ∧ SameState loaded after.memory := by
  intro all
  have committed : (call ExactDecimal exampleBounds noFile splitRequest).2 = .ok true := by
    decide +kernel
  generalize outcome : call ExactDecimal exampleBounds noFile splitRequest = result at committed
  obtain ⟨after, _⟩ := result
  obtain rfl : _ = Except.ok true := committed
  obtain ⟨loaded, read, same⟩ := all _ _ _ _ (Machine.Reachable.start noFile) outcome
  have differ : (load ExactDecimal exampleBounds
      (call ExactDecimal exampleBounds noFile splitRequest).1.file).toOption.map GrantState.audit ≠
        some (call ExactDecimal exampleBounds noFile splitRequest).1.memory.audit := by decide +kernel
  rw [outcome, read] at differ
  exact differ (congrArg some same.audit)

end

end GrantLedger

end Omnitensor
