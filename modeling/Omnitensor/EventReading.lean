/-
This file says which replies are accepted, and what is read of them.

Every event of an accepted reply is pending and read by itself, the ids are distinct, and the events that
are kept are the first with their label, date, time and place. What is dropped is counted.
-/

import Omnitensor.EventRestatement
import Omnitensor.FirstOccurrences

namespace Omnitensor

namespace Events

open Document Schema

variable {host : EventHost}

/-! ### Events -/

/-- A part of a reply is read as an event. -/
structure Admitted (host : EventHost) (raw : Document) (event : EventCandidate) : Prop where
  pending : textField (fieldsOf raw) "confirmation" = .ofString "pending"
  parsed : parseEvent host (fieldsOf raw) = .ok event

variable {raw document : Document} {event : EventCandidate} {result : GroundedEventResult}

theorem readEvent_eq_ok {read next : EventsRead} :
    readEvent host read raw = .ok next ↔ ∃ event, Admitted host raw event ∧
      event.candidateId ∉ read.ids ∧ next = read.accept host event := by
  rw [readEvent]
  constructor
  · intro ran
    split_ifs at ran with undecided
    · cases ran
    · obtain ⟨event, parsed, ran⟩ := bind_eq_ok.mp ran
      split_ifs at ran with taken
      · cases ran
      · cases ran
        exact ⟨event, ⟨not_not.mp undecided, parsed⟩, taken, rfl⟩
  · rintro ⟨event, ⟨pending, parsed⟩, fresh, rfl⟩
    rw [if_neg (not_not.mpr pending), parsed, ok_bind, if_neg fresh]
    rfl

@[simp] theorem EventsRead.ids_accept (read : EventsRead) (event : EventCandidate) :
    (read.accept host event).ids = read.ids ++ [event.candidateId] := by
  rw [EventsRead.accept]
  split_ifs <;> rfl

/-- Events are read one after another if each can be read and no id is used twice. -/
theorem foldlM_readEvent_eq_ok {raws : List Document} {read result : EventsRead} :
    raws.foldlM (readEvent host) read = .ok result ↔ ∃ events,
      List.Forall₂ (Admitted host) raws events ∧ (events.map (·.candidateId)).Nodup ∧
        (∀ event ∈ events, event.candidateId ∉ read.ids) ∧
        result = events.foldl (EventsRead.accept host) read := by
  induction raws generalizing read with
  | nil =>
    rw [List.foldlM_nil]
    constructor
    · intro same
      cases same
      exact ⟨[], .nil, List.nodup_nil, List.forall_mem_nil _, rfl⟩
    · rintro ⟨events, all, _, _, rfl⟩
      cases all
      rfl
  | cons raw raws inductionHypothesis =>
    rw [List.foldlM_cons, bind_eq_ok]
    constructor
    · rintro ⟨next, first, rest⟩
      obtain ⟨event, admitted, unused, rfl⟩ := readEvent_eq_ok.mp first
      obtain ⟨events, all, distinct, fresh, same⟩ := inductionHypothesis.mp rest
      simp only [EventsRead.ids_accept, List.mem_append, List.mem_singleton, not_or] at fresh
      refine ⟨event :: events, .cons admitted all, List.nodup_cons.mpr ⟨fun again => ?_, distinct⟩,
        List.forall_mem_cons.mpr ⟨unused, fun other member => (fresh other member).1⟩, same⟩
      obtain ⟨other, member, equal⟩ := List.mem_map.mp again
      exact (fresh other member).2 equal
    · rintro ⟨events, all, distinct, fresh, same⟩
      cases all with
      | @cons _ event _ events admitted all =>
        obtain ⟨once, distinct⟩ := List.nodup_cons.mp distinct
        obtain ⟨unused, fresh⟩ := List.forall_mem_cons.mp fresh
        refine ⟨read.accept host event, readEvent_eq_ok.mpr ⟨event, admitted, unused, rfl⟩,
          inductionHypothesis.mpr ⟨events, all, distinct, fun other member => ?_, same⟩⟩
        rw [EventsRead.ids_accept, List.mem_append, List.mem_singleton, not_or]
        exact ⟨fresh other member, fun equal => once (List.mem_map.mpr ⟨other, member, equal⟩)⟩

/-- The first events of their keys are kept, and the others counted. -/
theorem foldl_accept (events : List EventCandidate) (read : EventsRead) :
    let kept := firstsAfter (duplicateKey host) read.keys events
    (events.foldl (EventsRead.accept host) read).events = read.events ++ kept ∧
      (events.foldl (EventsRead.accept host) read).duplicates + kept.length =
        read.duplicates + events.length := by
  induction events generalizing read with
  | nil => exact ⟨(List.append_nil _).symm, rfl⟩
  | cons event events inductionHypothesis =>
    obtain ⟨same, count⟩ := inductionHypothesis (read.accept host event)
    rw [List.foldl_cons, firstsAfter, List.length_cons]
    rw [EventsRead.accept] at same count ⊢
    split_ifs at same count ⊢ with known
    · exact ⟨same, count.trans (by ring)⟩
    · refine ⟨same.trans (List.append_assoc _ _ _), ?_⟩
      rw [List.length_cons, ← Nat.add_assoc, count]
      rfl

/-! ### Results -/

/-- The result of a reply with these events. -/
def parsedResult (host : EventHost) (fields : DocumentFields) (events : List EventCandidate) :
    GroundedEventResult where
  requestId := textField fields "requestId"
  outcome := textField fields "outcome"
  code := textField fields "code"
  detail := textField fields "detail"
  events := firsts (duplicateKey host) events
  duplicatesDropped := events.length - (firsts (duplicateKey host) events).length

/-- Outcome, state and events of a document fit together. -/
def Fitting (fields : DocumentFields) : Prop :=
  if textField fields "outcome" = .ofString "refused" then
    itemsField fields "events" = [] ∧ textField fields "confirmationState" = .ofString "refused"
  else itemsField fields "events" ≠ [] ∧ textField fields "confirmationState" = .ofString "pending"

theorem resultState_eq_ok {fields : DocumentFields} {state : PyString × List Document} :
    resultState fields = .ok state ↔ Fitting fields ∧
      state = (textField fields "outcome", itemsField fields "events") := by
  simp only [resultState, refuse, Fitting]
  constructor
  · intro ran
    split_ifs at ran ⊢ with refused some undecided none decided
    · cases ran
      exact ⟨⟨by simpa using some, not_not.mp undecided⟩, rfl⟩
    · cases ran
      exact ⟨⟨by simpa using none, not_not.mp decided⟩, rfl⟩
  · rintro ⟨fits, rfl⟩
    split_ifs at fits ⊢ with refused some undecided none decided
    · simp [fits.1] at some
    · exact absurd fits.2 undecided
    · rfl
    · exact absurd (List.isEmpty_iff.mp none) fits.1
    · exact absurd fits.2 decided
    · rfl

/-- A reply is accepted if it is valid, fits together, and each event can be read. -/
theorem parseGroundedEventResult_eq_ok :
    parseGroundedEventResult host document = .ok result ↔
      (EventSchema.result host).valid document = true ∧ Fitting (fieldsOf document) ∧ ∃ events,
        List.Forall₂ (Admitted host) (itemsField (fieldsOf document) "events") events ∧
          (events.map (·.candidateId)).Nodup ∧
          result = parsedResult host (fieldsOf document) events := by
  have counted : ∀ events : List EventCandidate,
      let read := events.foldl (EventsRead.accept host) ⟨[], [], [], 0⟩
      read.events = firsts (duplicateKey host) events ∧
        read.duplicates = events.length - (firsts (duplicateKey host) events).length := by
    intro events
    obtain ⟨same, count⟩ := @foldl_accept host events ⟨[], [], [], 0⟩
    exact ⟨same, Nat.eq_sub_of_add_eq (count.trans (Nat.zero_add _))⟩
  rw [parseGroundedEventResult]
  constructor
  · intro ran
    split_ifs at ran with invalid
    obtain ⟨state, fits, ran⟩ := bind_eq_ok.mp ran
    obtain ⟨fitting, rfl⟩ := resultState_eq_ok.mp fits
    obtain ⟨read, folded, ran⟩ := bind_eq_ok.mp ran
    obtain ⟨events, all, distinct, _, rfl⟩ := foldlM_readEvent_eq_ok.mp folded
    cases ran
    obtain ⟨same, count⟩ := counted events
    refine ⟨by simpa using invalid, fitting, events, all, distinct, ?_⟩
    rw [same, count]
    rfl
  · rintro ⟨valid, fitting, events, all, distinct, rfl⟩
    have folded := (@foldlM_readEvent_eq_ok host _ ⟨[], [], [], 0⟩ _).mpr ⟨events, all, distinct,
      fun _ _ => List.not_mem_nil, rfl⟩
    obtain ⟨same, count⟩ := counted events
    rw [if_neg (by simp [valid])]
    refine bind_eq_ok.mpr ⟨_, resultState_eq_ok.mpr ⟨fitting, rfl⟩, bind_eq_ok.mpr ⟨_, folded, ?_⟩⟩
    rw [same, count]
    rfl

/-- What is accepted holds events that were read from valid parts of the reply. -/
theorem admitted_of_accepted (accepted : parseGroundedEventResult host document = .ok result)
    (member : event ∈ result.events) :
    ∃ raw ∈ itemsField (fieldsOf document) "events",
      (EventSchema.event host).valid raw = true ∧ Admitted host raw event := by
  obtain ⟨valid, _, events, all, _, rfl⟩ := parseGroundedEventResult_eq_ok.mp accepted
  obtain ⟨fields, rfl, _, members⟩ := valid_object_iff.mp valid
  have inside := (firstsAfter_sublist [] events).subset member
  obtain ⟨raw, there, admitted⟩ := exists_of_mem_forall₂ all event inside
  refine ⟨raw, there, ?_, admitted⟩
  have items := members ("events", true, .array 0 (EventSchema.event host)) (by simp)
  rw [itemsField, show fieldsOf (.dict fields) = fields from rfl] at there
  cases found : PyValue.field fields "events" with
  | none =>
    rw [found] at there
    cases there
  | some value =>
    rw [found] at items there
    obtain ⟨values, rfl, _, each⟩ := valid_array_iff.mp items
    exact each raw there

/-! ### What is known of an event -/

/-- A document of an accepted event is valid again. -/
theorem valid_eventDocument_of_admitted (valid : (EventSchema.event host).valid raw = true)
    (admitted : Admitted host raw event) :
    (EventSchema.event host).valid (eventDocument event) = true :=
  (@restated_event ["needs", "readAs"] host raw event (by simp) valid admitted.pending admitted.parsed
    (.inl (by simp))).valid

/-- The members of a record that is valid. -/
theorem members_of_valid_record {properties : List (String × Bool × Schema)}
    {slots : List (String × Option Document)}
    (valid : (Schema.object properties).valid (record slots) = true) : ∀ property ∈ properties,
      validMember property.2.1 property.2.2 (PyValue.field (present slots) property.1) = true := by
  obtain ⟨fields, same, _, members⟩ := valid_object_iff.mp valid
  cases same
  exact members

/-- What is said of a member that may be null is valid. -/
theorem valid_of_validMember {Value : Type} {schema : Schema} {write : Value → Document}
    {value : Option Value} (rejects : schema.valid .null = false) (some : ∀ value, write value ≠ .null)
    (valid : validMember false (nullable schema) (value.map write) = true) :
    ∀ said ∈ value, schema.valid (write said) = true := by
  rintro said rfl
  rcases (valid_nullable_iff rejects).mp valid with null | valid
  · exact absurd null (some said)
  · exact valid

/-- The moments of an event match the patterns of the contract, and were checked. -/
structure WhenRead (host : EventHost) («when» : EventWhen) : Prop where
  date : ∀ text ∈ «when».date, EventPattern.found EventPattern.date text = true
  time : ∀ text ∈ «when».time, EventPattern.found EventPattern.time text = true
  endDate : ∀ text ∈ «when».endDate, EventPattern.found EventPattern.date text = true
  endTime : ∀ text ∈ «when».endTime, EventPattern.found EventPattern.time text = true
  checked : checkWhen host «when» = .ok ()

theorem whenRead_of_parsed {«when» : EventWhen}
    (valid : (EventSchema.when host).valid document = true)
    (parsed : parseWhen host (fieldsOf document) = .ok «when») : WhenRead host «when» := by
  have restated := (@restated_when ["needs"] host document «when» (by simp) valid parsed).valid
  obtain ⟨_, checked, same⟩ := bind_eq_ok.mp parsed
  have members := members_of_valid_record restated
  simp only [List.forall_mem_cons, field_present_cons, field_present_nil, reduceIte, String.reduceEq,
    Option.some_or, Option.or_none] at members
  obtain ⟨date, time, last, _⟩ := members
  have lastParts : ∀ (endDate : Option PyString) (endTime : Option PyString),
      EventSchema.moment.valid (record [("date", endDate.map .str), ("time", endTime.map .str)]) = true →
        (∀ text ∈ endDate, EventPattern.found EventPattern.date text = true) ∧
          ∀ text ∈ endTime, EventPattern.found EventPattern.time text = true := by
    intro endDate endTime accepted
    have parts := members_of_valid_record accepted
    simp only [List.forall_mem_cons, field_present_cons, field_present_nil, reduceIte,
      String.reduceEq, Option.or_none] at parts
    exact ⟨valid_of_validMember rfl str_ne_null parts.1, valid_of_validMember rfl str_ne_null parts.2.1⟩
  have ends : (∀ text ∈ «when».endDate, EventPattern.found EventPattern.date text = true) ∧
      ∀ text ∈ «when».endTime, EventPattern.found EventPattern.time text = true := by
    rw [endDocument] at last
    split_ifs at last with stated
    · refine lastParts _ _ ?_
      rcases (valid_nullable_iff (object_rejects _)).mp last with null | accepted
      · cases null
      · exact accepted
    · simp only [Bool.or_eq_true, not_or, Bool.not_eq_true, Option.isSome_eq_false_iff,
        Option.isNone_iff_eq_none] at stated
      rw [stated.1, stated.2]
      constructor <;> rintro _ ⟨⟩
  refine ⟨?_, valid_of_validMember rfl str_ne_null time, ends.1, ends.2, ?_⟩
  · rintro text stated
    have known : text ≠ .ofString "unknown" := by
      have read : readWhen (fieldsOf document) = «when» := Except.ok.inj same
      rw [← read] at stated
      exact of_decide_eq_true (Option.filter_eq_some_iff.mp stated).2
    rw [Option.mem_def.mp stated] at date
    change (EventSchema.date.valid (.str text) != (words ["unknown"]).valid (.str text)) = true at date
    have other : (words ["unknown"]).valid (.str text) = false := by
      simpa [Schema.valid, text?, isWord] using known
    rw [other, Bool.bne_false] at date
    exact date
  · rw [← Except.ok.inj same]
    exact checked

/-- An event of an accepted reply was read with its moments. -/
theorem whenRead_of_admitted (valid : (EventSchema.event host).valid raw = true)
    (admitted : Admitted host raw event) : WhenRead host event.when := by
  obtain ⟨fields, rfl, _, members⟩ := valid_object_iff.mp valid
  have required := members ("when", true, EventSchema.when host) (by simp)
  have parsed := (parseEvent_eq_ok admitted.parsed).1
  rw [show fieldsOf (.dict fields) = fields from rfl] at parsed
  cases found : PyValue.field fields "when" with
  | none =>
    rw [found] at required
    cases required
  | some value =>
    rw [found] at required parsed
    exact whenRead_of_parsed required parsed

/-! ### Replies -/

/-- A host that knows one zone; a text without capitals is folded. -/
def plainHost : EventHost where
  decimal := EventPattern.digit
  casefold := id
  zone name := decide (name = .ofString "UTC")

/-- A text in a document. -/
def textDocument (text : String) : Option Document := some (.str (.ofString text))

/-- An event that a reply may state. -/
def statedEvent (candidateId label readAs : String) («when» : List (String × Option Document))
    (more : List (String × Option Document)) : Document :=
  let digest : Document := .str (List.replicate 64 (.scalar 'a'))
  record ([
    ("candidateId", textDocument candidateId),
    ("label", some (record [("text", textDocument label), ("source", textDocument "stated")])),
    ("when", some (record (("needs", some (.list [])) :: «when»))),
    ("confirmation", textDocument "pending"),
    ("evidence", some (.list [record [
      ("sourceRef", textDocument "private:page"),
      ("sourceSha256", some digest),
      ("page", some .null),
      ("span", some (record [("start", some (.int 0)), ("end", some (.int 1))])),
      ("textSha256", some digest),
      ("readAs", textDocument readAs)]]))] ++ more)

/-- A reply that states these events. -/
def replyOf (events : List Document) : Document := record [
  ("version", some (.int 2)),
  ("requestId", textDocument "request"),
  ("outcome", textDocument "succeeded"),
  ("code", textDocument "events-extracted"),
  ("detail", textDocument ""),
  ("duplicatePolicy", textDocument "keep-first-label-date-time-place"),
  ("confirmationState", textDocument "pending"),
  ("events", some (.list events))]

end Events

end Omnitensor
