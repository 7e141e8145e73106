/-
This file proves that the parts of an event are restated when they are read and published.

A part of a valid reply is read, and what is published of it is valid again and agrees with the reply.
Of evidence this depends on one member: how the text was read is not taken over, so the published
evidence agrees if the reply says that it was read as text, or if that member is not compared.
-/

import Omnitensor.EventDocument
import Omnitensor.Fallible

namespace Omnitensor

namespace Events

open Document Schema

variable {terms : Terms}

/-! ### Members -/

theorem member_cases (fields : DocumentFields) (key : String) :
    member fields key = none ∧ (∀ path, (PyValue.field fields key).bind (stated path) = none) ∨
      ∃ value, member fields key = some value ∧ PyValue.field fields key = some value := by
  rw [member]
  cases PyValue.field fields key with
  | none => exact .inl ⟨rfl, fun _ => rfl⟩
  | some value =>
    cases value with
    | null => exact .inl ⟨rfl, stated_null⟩
    | _ => exact .inr ⟨_, rfl, rfl⟩

variable {fields : DocumentFields} {key : String} {schema : Schema} {host : EventHost}
  {write : Document → Document} {minimum maximum : Option Int} {written : Option Document}

/-- A member is valid that is there and not null. -/
theorem valid_of_member {value : Document} (rejects : schema.valid .null = false)
    (valid : validMember false (nullable schema) (PyValue.field fields key) = true)
    (said : member fields key = some value) : schema.valid value = true := by
  rcases member_cases fields key with ⟨none, _⟩ | ⟨same, equal, there⟩
  · rw [none] at said
    cases said
  · cases said.symm.trans equal
    rw [there] at valid
    rcases (valid_nullable_iff rejects).mp valid with rfl | valid
    · rw [member, there] at said
      cases said
    · exact valid

/-- A member that may be null is restated if what it says is. -/
theorem restates_member (rejects : schema.valid .null = false)
    (valid : validMember false (nullable schema) (PyValue.field fields key) = true)
    (unsaid : member fields key = none → written = none)
    (said : ∀ value, member fields key = some value → schema.valid value = true →
      ∃ document, written = some document ∧ Restated terms schema value document) :
    Restates terms (key, false, nullable schema) (PyValue.field fields key) written := by
  rcases member_cases fields key with ⟨none, silent⟩ | ⟨value, same, there⟩
  · rw [unsaid none]
    exact .omitted silent
  · obtain ⟨document, rfl, restated⟩ := said value same (valid_of_member rejects valid same)
    rw [there]
    exact (restated.nullable rejects).member key false

theorem restates_map (rejects : schema.valid .null = false)
    (each : ∀ value, schema.valid value = true → Restated terms schema value (write value))
    (valid : validMember false (nullable schema) (PyValue.field fields key) = true) :
    Restates terms (key, false, nullable schema) (PyValue.field fields key)
      ((member fields key).map write) := by
  refine restates_member rejects valid (fun none => by rw [none]; rfl) fun value said accepted => ?_
  exact ⟨write value, by rw [said]; rfl, each value accepted⟩

theorem restates_parseOptional {Value : Type}
    {parse : DocumentFields → Except EventResultError Value} {read : Option Value}
    {write : Value → Document} (rejects : schema.valid .null = false)
    (each : ∀ value result, schema.valid value = true → parse (fieldsOf value) = .ok result →
      Restated terms schema value (write result))
    (valid : validMember false (nullable schema) (PyValue.field fields key) = true)
    (parsed : parseOptional fields key parse = .ok read) :
    Restates terms (key, false, nullable schema) (PyValue.field fields key) (read.map write) := by
  rw [parseOptional] at parsed
  refine restates_member rejects valid (fun none => ?_) fun value said accepted => ?_
  · rw [none] at parsed
    cases parsed
    rfl
  · rw [said] at parsed
    obtain ⟨result, ran, same⟩ := map_eq_ok.mp parsed
    cases same
    exact ⟨write result, rfl, each value result accepted ran⟩

/-- A text is written as it was read. -/
theorem restated_text (textual : Textual schema) (value : Document)
    (valid : schema.valid value = true) : Restated terms schema value (.str (textOf value)) := by
  obtain ⟨text, rfl⟩ := textual value valid
  exact .refl valid

theorem restated_int (value : Document) (valid : (integer minimum maximum).valid value = true) :
    Restated terms (integer minimum maximum) value (.int (intOf value)) := by
  obtain ⟨number, same, _⟩ := valid_integer_iff.mp valid
  exact .integer valid (by rw [intOf, same]; rfl)

/-- A member that is required is restated if it is. -/
theorem restates_required (valid : validMember true schema (PyValue.field fields key) = true)
    (said : ∀ value, PyValue.field fields key = some value → schema.valid value = true →
      ∃ document, written = some document ∧ Restated terms schema value document) :
    Restates terms (key, true, schema) (PyValue.field fields key) written := by
  cases there : PyValue.field fields key with
  | none =>
    rw [there] at valid
    cases valid
  | some value =>
    rw [there] at valid
    obtain ⟨document, rfl, restated⟩ := said value there valid
    exact restated.member key true

theorem restates_textField (textual : Textual schema)
    (valid : validMember true schema (PyValue.field fields key) = true) :
    Restates terms (key, true, schema) (PyValue.field fields key)
      (some (.str (textField fields key))) :=
  restates_required valid fun value there accepted =>
    ⟨_, by rw [textField, there]; rfl, restated_text textual value accepted⟩

theorem restates_optionalField (textual : Textual schema)
    (valid : validMember false (nullable schema) (PyValue.field fields key) = true) :
    Restates terms (key, false, nullable schema) (PyValue.field fields key)
      ((optionalField fields key).map .str) := by
  rw [optionalField, Option.map_map]
  exact restates_map textual.rejects (restated_text textual) valid

/-- A member with a default is written out. -/
theorem restates_default {Value : Type} {read : Document → Value} {write : Value → Document}
    {default : Value} {leaf : Document.Leaf}
    (each : ∀ value, schema.valid value = true → Restated terms schema value (write (read value)))
    (accepted : schema.valid (write default) = true) (written : leaf? (write default) = some leaf)
    (known : terms.default? [.key (.ofString key)] = some leaf)
    (valid : validMember false schema (PyValue.field fields key) = true) :
    Restates terms (key, false, schema) (PyValue.field fields key)
      (some (write (((PyValue.field fields key).map read).getD default))) := by
  cases there : PyValue.field fields key with
  | none =>
    refine ⟨accepted, .of_default written (fun first path => ?_) known⟩
    change stated (first :: path) (write default) = none
    generalize write default = value at written
    cases value <;> first | rfl | cases first <;> first | rfl | cases written
  | some value =>
    rw [there] at valid
    exact (each value valid).member key false

/-- A list that may be missing is written unless it is empty. -/
theorem restates_listed {items : Schema}
    (each : ∀ value, items.valid value = true → Restated terms items value (write value))
    (valid : validMember false (.array 0 items) (PyValue.field fields key) = true) :
    Restates terms (key, false, .array 0 items) (PyValue.field fields key)
      (listed ((itemsField fields key).map write)) := by
  rw [itemsField]
  cases there : PyValue.field fields key with
  | none => exact .omitted fun _ => rfl
  | some value =>
    rw [there] at valid
    obtain ⟨values, rfl, _, all⟩ := valid_array_iff.mp valid
    cases values with
    | nil =>
      refine .omitted fun path => ?_
      cases path with
      | nil => rfl
      | cons first path => cases first <;> rfl
    | cons value values =>
      refine Restated.member (Restated.array (Nat.zero_le _) ?_) key false
      exact List.forall₂_map_right_iff.mpr (List.forall₂_same.mpr fun value inside =>
        each value (all value inside))

/-- A member that may be null is written as null where it says nothing. -/
theorem restates_orNull {required : Bool} (rejects : schema.valid .null = false)
    (each : ∀ value, schema.valid value = true → Restated terms schema value (write value))
    (valid : validMember required (nullable schema) (PyValue.field fields key) = true) :
    Restates terms (key, required, nullable schema) (PyValue.field fields key)
      (some (orNull ((member fields key).map write))) := by
  rcases member_cases fields key with ⟨none, silent⟩ | ⟨value, same, there⟩
  · rw [none]
    exact ⟨(valid_nullable_iff rejects).mpr (.inl rfl), .of_silent _ silent stated_null⟩
  · rw [there] at valid
    rw [there, same]
    have accepted : schema.valid value = true := by
      refine valid_of_member rejects ?_ same
      rw [there]
      exact valid
    exact ((each value accepted).nullable rejects).member key required

theorem restates_bool {default : Bool}
    (known : terms.default? [.key (.ofString key)] = some (.bool default))
    (valid : validMember false .boolean (PyValue.field fields key) = true) :
    Restates terms (key, false, .boolean) (PyValue.field fields key)
      (some (.bool (((PyValue.field fields key).map boolOf).getD default))) := by
  refine restates_default (fun value accepted => ?_) rfl rfl known valid
  cases value <;> first | exact .refl accepted | cases accepted

theorem restates_word {default : String} {values : List String}
    (accepted : (Schema.words values).valid (.str (.ofString default)) = true)
    (known : terms.default? [.key (.ofString key)] = some (.text (.ofString default)))
    (valid : validMember false (.words values) (PyValue.field fields key) = true) :
    Restates terms (key, false, .words values) (PyValue.field fields key)
      (some (.str (((PyValue.field fields key).map textOf).getD (.ofString default)))) :=
  restates_default (restated_text (textual_words values)) accepted rfl known valid

theorem restates_number {default : Int}
    (accepted : (Schema.integer minimum maximum).valid (.int default) = true)
    (known : terms.default? [.key (.ofString key)] = some (.number default))
    (valid : validMember false (.integer minimum maximum) (PyValue.field fields key) = true) :
    Restates terms (key, false, .integer minimum maximum) (PyValue.field fields key)
      (some (.int (((PyValue.field fields key).map intOf).getD default))) :=
  restates_default restated_int accepted rfl known valid

/-- An integer that is required is written. -/
theorem restates_intField
    (valid : validMember true (.integer minimum maximum) (PyValue.field fields key) = true) :
    Restates terms (key, true, .integer minimum maximum) (PyValue.field fields key)
      (some (.int (((PyValue.field fields key).map intOf).getD 0))) :=
  restates_required valid fun value there accepted =>
    ⟨_, by rw [there]; rfl, restated_int value accepted⟩

/-! ### Records -/

theorem textual_source : Textual EventSchema.source := textual_words _

theorem textual_date : Textual EventSchema.date := textual_pattern _

theorem textual_time : Textual EventSchema.time := textual_pattern _

theorem restated_stated (document : Document) (valid : EventSchema.text.valid document = true) :
    Restated terms EventSchema.text document (statedDocument (parseStated (fieldsOf document))) := by
  obtain ⟨fields, rfl, _, members⟩ := valid_object_iff.mp valid
  refine Restated.object valid (by simp) ?_
  simp only [List.forall_mem_cons, field_present_cons, reduceIte, String.reduceEq, Option.some_or]
    at members ⊢
  obtain ⟨text, source, _⟩ := members
  exact ⟨restates_textField (textual_string _ _) text, restates_textField textual_source source, nofun⟩

theorem restated_timezone (document : Document)
    (valid : (EventSchema.timezone host).valid document = true) :
    Restated terms (EventSchema.timezone host) document
      (timezoneDocument (parseTimezone (fieldsOf document))) := by
  obtain ⟨fields, rfl, _, members⟩ := valid_object_iff.mp valid
  refine Restated.object valid (by simp) ?_
  simp only [List.forall_mem_cons, field_present_cons, reduceIte, String.reduceEq, Option.some_or]
    at members ⊢
  obtain ⟨name, utcOffset, source, _⟩ := members
  refine ⟨restates_textField (textual_string _ _) name, ?_, restates_textField textual_source source,
    nofun⟩
  have same : (parseTimezone (fieldsOf (.dict fields))).utcOffset.map PyValue.str =
      (member fields "utcOffset").map fun value => (.str (textOf value) : Document) := by
    rw [parseTimezone, optionalField, Option.map_map]
    rfl
  rw [same]
  exact restates_orNull (textual_pattern _).rejects (restated_text (textual_pattern _)) utcOffset

theorem restated_address (document : Document) (valid : EventSchema.address.valid document = true) :
    Restated terms EventSchema.address document
      (addressDocument (parseAddress (fieldsOf document))) := by
  obtain ⟨fields, rfl, _, members⟩ := valid_object_iff.mp valid
  refine Restated.object valid (by simp) ?_
  simp only [List.forall_mem_cons, field_present_cons, field_present_nil, reduceIte, String.reduceEq,
    Option.some_or, Option.or_none] at members ⊢
  obtain ⟨street, postalCode, city, region, country, full, _⟩ := members
  exact ⟨restates_optionalField (textual_string _ _) street,
    restates_optionalField (textual_string _ _) postalCode,
    restates_optionalField (textual_string _ _) city,
    restates_optionalField (textual_string _ _) region,
    restates_optionalField (textual_string _ _) country,
    restates_textField (textual_string _ _) full, nofun⟩

theorem restated_person (document : Document) (valid : EventSchema.person.valid document = true) :
    Restated terms EventSchema.person document (personDocument (parsePerson (fieldsOf document))) := by
  obtain ⟨fields, rfl, _, members⟩ := valid_object_iff.mp valid
  refine Restated.object valid (by simp) ?_
  simp only [List.forall_mem_cons, field_present_cons, field_present_nil, reduceIte, String.reduceEq,
    Option.some_or, Option.or_none] at members ⊢
  obtain ⟨name, email, source, _⟩ := members
  exact ⟨restates_textField (textual_string _ _) name,
    restates_optionalField (textual_string _ _) email,
    restates_textField textual_source source, nofun⟩

theorem restated_people (document : Document) (valid : EventSchema.people.valid document = true) :
    Restated terms EventSchema.people document (peopleDocument (parsePeople (fieldsOf document))) := by
  obtain ⟨fields, rfl, _, members⟩ := valid_object_iff.mp valid
  refine Restated.object valid (by simp) ?_
  simp only [List.forall_mem_cons, field_present_cons, field_present_nil, reduceIte, String.reduceEq,
    Option.or_none] at members ⊢
  obtain ⟨organiser, participants, _⟩ := members
  refine ⟨?_, ?_, nofun⟩
  · rw [parsePeople, Option.map_map]
    exact restates_map (object_rejects _) restated_person organiser
  · rw [parsePeople, List.map_map]
    exact restates_listed restated_person participants

theorem restated_cost (document : Document) (valid : (EventSchema.cost host).valid document = true) :
    Restated terms (EventSchema.cost host) document (costDocument (parseCost (fieldsOf document))) := by
  obtain ⟨fields, rfl, _, members⟩ := valid_object_iff.mp valid
  refine Restated.object valid (by simp) ?_
  simp only [List.forall_mem_cons, field_present_cons, reduceIte, String.reduceEq, Option.some_or]
    at members ⊢
  obtain ⟨amount, currency, _⟩ := members
  exact ⟨restates_textField (textual_pattern _) amount, restates_textField (textual_pattern _) currency,
    nofun⟩

theorem restated_contact (document : Document) (valid : EventSchema.contact.valid document = true) :
    Restated terms EventSchema.contact document
      (contactDocument (parseContact (fieldsOf document))) := by
  obtain ⟨fields, rfl, _, members⟩ := valid_object_iff.mp valid
  refine Restated.object valid (by simp) ?_
  simp only [List.forall_mem_cons, field_present_cons, field_present_nil, reduceIte, String.reduceEq,
    Option.some_or, Option.or_none] at members ⊢
  obtain ⟨email, phone, source, _⟩ := members
  exact ⟨restates_optionalField (textual_string _ _) email,
    restates_optionalField (textual_string _ _) phone,
    restates_textField textual_source source, nofun⟩

/-! ### Records with defaults -/

/-- What an event says where a member is left out. -/
def eventDefaults : List (String × Document.Leaf) := [
  ("allDay", .bool false), ("isPast", .bool false), ("status", .text (.ofString "scheduled")),
  ("interval", .number (1 : Int)), ("required", .bool false)]

/-- Agreement of events, apart from members that are recomputed. -/
def eventTerms (recomputed : List String) : Terms := ⟨recomputed, eventDefaults⟩

variable {recomputed : List String}

theorem default?_eventTerms {leaf : Document.Leaf} (known : (key, leaf) ∈ eventDefaults) :
    (eventTerms recomputed).default? [.key (.ofString key)] = some leaf := by
  simp only [eventDefaults, List.mem_cons, List.not_mem_nil, or_false, Prod.mk.injEq] at known
  rcases known with ⟨rfl, rfl⟩ | ⟨rfl, rfl⟩ | ⟨rfl, rfl⟩ | ⟨rfl, rfl⟩ | ⟨rfl, rfl⟩ <;>
    simp [Terms.default?, eventTerms, eventDefaults, ofString_inj]

theorem restated_registration (document : Document)
    (valid : (EventSchema.registration host).valid document = true) :
    Restated (eventTerms recomputed) (EventSchema.registration host) document
      (registrationDocument (parseRegistration (fieldsOf document))) := by
  obtain ⟨fields, rfl, _, members⟩ := valid_object_iff.mp valid
  refine Restated.object valid (by simp) ?_
  simp only [List.forall_mem_cons, field_present_cons, field_present_nil, reduceIte, String.reduceEq,
    Option.some_or, Option.or_none] at members ⊢
  obtain ⟨required, deadline, url, cost, source, _⟩ := members
  refine ⟨restates_bool (default?_eventTerms (by simp [eventDefaults])) required,
    restates_optionalField textual_date deadline, restates_optionalField (textual_string _ _) url, ?_,
    restates_textField textual_source source, nofun⟩
  rw [parseRegistration, Option.map_map]
  exact restates_map (object_rejects _) restated_cost cost

theorem restated_recurrence (document : Document) (repeats : Recurrence)
    (valid : EventSchema.repeats.valid document = true)
    (parsed : parseRecurrence (fieldsOf document) = .ok repeats) :
    Restated (eventTerms recomputed) EventSchema.repeats document (recurrenceDocument repeats) := by
  obtain ⟨fields, rfl, _, members⟩ := valid_object_iff.mp valid
  simp only [parseRecurrence, refuse] at parsed
  split_ifs at parsed
  cases parsed
  refine Restated.object valid (by simp) ?_
  simp only [List.forall_mem_cons, field_present_cons, field_present_nil, reduceIte, String.reduceEq,
    Option.some_or, Option.or_none, List.map_map, Option.map_map] at members ⊢
  obtain ⟨freq, interval, byDay, byMonthDay, byMonth, bySetPos, count, «until», exceptions, text,
    source, _⟩ := members
  refine ⟨restates_textField (textual_words _) freq,
    restates_number rfl (default?_eventTerms (by simp [eventDefaults])) interval,
    restates_listed (restated_text (textual_pattern _)) byDay,
    restates_listed restated_int byMonthDay, restates_listed restated_int byMonth,
    restates_listed restated_int bySetPos, restates_map rfl restated_int count,
    restates_optionalField textual_date «until»,
    restates_listed (restated_text textual_date) exceptions,
    restates_textField (textual_string _ _) text, ?_, nofun⟩
  exact restates_required source fun value there accepted =>
    ⟨_, by rw [fieldsOf, fields?, Option.getD_some, there]; rfl,
      restated_text (textual_words _) value accepted⟩

theorem restated_place (document : Document) (place : EventPlace)
    (valid : EventSchema.place.valid document = true)
    (parsed : parsePlace (fieldsOf document) = .ok place) :
    Restated terms EventSchema.place document (placeDocument place) := by
  obtain ⟨fields, rfl, _, members⟩ := valid_object_iff.mp valid
  simp only [parsePlace, refuse] at parsed
  split_ifs at parsed
  cases parsed
  refine Restated.object valid (by simp) ?_
  simp only [List.forall_mem_cons, field_present_cons, field_present_nil, reduceIte, String.reduceEq,
    Option.some_or, Option.or_none] at members ⊢
  obtain ⟨kind, venue, address, url, joining, source, _⟩ := members
  refine ⟨restates_textField (textual_words _) kind, restates_optionalField (textual_string _ _) venue, ?_,
    restates_optionalField (textual_string _ _) url, restates_optionalField (textual_string _ _) joining,
    restates_textField textual_source source, nofun⟩
  rw [readPlace, Option.map_map]
  exact restates_map (object_rejects _) restated_address address

theorem restated_span
    (valid : validMember true EventSchema.span (PyValue.field fields "span") = true) :
    let span := ((PyValue.field fields "span").map fieldsOf).getD []
    Restates terms ("span", true, EventSchema.span) (PyValue.field fields "span")
      (some (record [
        ("start", some (.int (((PyValue.field span "start").map intOf).getD 0))),
        ("end", some (.int (((PyValue.field span "end").map intOf).getD 0)))])) := by
  refine restates_required valid fun value there accepted => ⟨_, rfl, ?_⟩
  rw [there]
  obtain ⟨span, rfl, _, members⟩ := valid_object_iff.mp accepted
  refine Restated.object accepted (by simp) ?_
  simp only [List.forall_mem_cons, field_present_cons, reduceIte, String.reduceEq, Option.some_or]
    at members ⊢
  obtain ⟨first, last, _⟩ := members
  exact ⟨restates_intField first, restates_intField last, nofun⟩

/-- Evidence is restated, except perhaps how its text was read. -/
theorem restated_evidence (document : Document) (evidence : SourceEvidence)
    (valid : EventSchema.evidence.valid document = true)
    (parsed : parseEvidence (fieldsOf document) = .ok evidence)
    (read : "readAs" ∈ terms.recomputed ∨
      textField (fieldsOf document) "readAs" = .ofString "text") :
    Restated terms EventSchema.evidence document (evidenceDocument evidence) := by
  obtain ⟨fields, rfl, _, members⟩ := valid_object_iff.mp valid
  simp only [parseEvidence, refuse] at parsed
  obtain ⟨_, _, parsed⟩ := bind_eq_ok.mp parsed
  split_ifs at parsed
  cases parsed
  refine Restated.object valid (by simp) ?_
  simp only [List.forall_mem_cons, field_present_cons, reduceIte, String.reduceEq, Option.some_or,
    Option.map_map] at members ⊢
  obtain ⟨sourceRef, sourceSha256, page, span, textSha256, readAs, _⟩ := members
  refine ⟨restates_textField (textual_string _ _) sourceRef,
    restates_textField (textual_pattern _) sourceSha256, restates_orNull rfl restated_int page,
    restated_span span, restates_textField (textual_pattern _) textSha256, ?_, nofun⟩
  rcases read with recomputed | same
  · exact ⟨rfl, .of_recomputed recomputed _ _⟩
  · rw [← same]
    exact restates_textField (textual_words _) readAs

/-! ### Moments -/

/-- A record that holds nothing says nothing. -/
theorem stated_dict_nil (path : List Step) : stated path (.dict []) = none := by
  cases path with
  | nil => rfl
  | cons first path => cases first <;> rfl

/-- The date of a moment is written as it was read, also where it is unknown. -/
theorem restates_date (valid : validMember true (.oneOf EventSchema.date (.words ["unknown"]))
      (PyValue.field fields "date") = true) :
    Restates terms ("date", true, .oneOf EventSchema.date (.words ["unknown"]))
      (PyValue.field fields "date")
      (some (.str (((optionalField fields "date").filter
        fun text => decide (text ≠ .ofString "unknown")).getD (.ofString "unknown")))) := by
  have textual := textual_date.oneOf (textual_words ["unknown"])
  refine restates_required valid fun value there accepted => ⟨_, rfl, ?_⟩
  obtain ⟨text, rfl⟩ := textual value accepted
  have stated : optionalField fields "date" = some text := by
    rw [optionalField, member, there]
    rfl
  rw [stated, Option.filter_some]
  split_ifs with known
  · exact .refl accepted
  · have unknown : text = .ofString "unknown" := by simpa using known
    rw [Option.getD_none, ← unknown]
    exact .refl accepted

/-- The end of an event is restated, and left out where it says nothing. -/
theorem restates_end {«when» : EventWhen}
    (endDate : «when».endDate = optionalField (((member fields "end").map fieldsOf).getD []) "date")
    (endTime : «when».endTime = optionalField (((member fields "end").map fieldsOf).getD []) "time")
    (valid : validMember false (nullable EventSchema.moment) (PyValue.field fields "end") = true) :
    Restates terms ("end", false, nullable EventSchema.moment) (PyValue.field fields "end")
      (endDocument «when») := by
  rcases member_cases fields "end" with ⟨none, silent⟩ | ⟨value, said, there⟩
  · rw [endDocument, endDate, endTime, none]
    exact .omitted silent
  · have accepted := valid_of_member (object_rejects _) valid said
    obtain ⟨last, rfl, _, members⟩ := valid_object_iff.mp accepted
    have restated : Restated terms EventSchema.moment (.dict last) (record [
        ("date", «when».endDate.map .str), ("time", «when».endTime.map .str)]) := by
      refine Restated.object accepted (by simp) ?_
      simp only [List.forall_mem_cons, field_present_cons, field_present_nil, reduceIte,
        String.reduceEq, Option.or_none] at members ⊢
      obtain ⟨date, time, _⟩ := members
      rw [endDate, endTime, said]
      exact ⟨restates_optionalField textual_date date, restates_optionalField textual_time time, nofun⟩
    rw [there, endDocument]
    split_ifs with stated
    · exact (restated.nullable (object_rejects _)).member "end" false
    · have empty : «when».endDate = none ∧ «when».endTime = none := by
        simpa only [Bool.or_eq_true, Option.isSome_iff_ne_none, ne_eq, not_or, not_not] using stated
      have nothing := (restated.agrees.members "end")
      rw [empty.1, empty.2] at nothing
      refine ⟨rfl, fun path compares => ?_⟩
      have agree := nothing path compares
      have silent : present [("date", none), ("time", none)] = [] := rfl
      rwa [record, Option.map_none, silent, Option.bind_some, Option.bind_some, stated_dict_nil]
        at agree

/-- What a person may have to supply is in the contract. -/
theorem valid_needs («when» : EventWhen) : (wordSet EventSchema.neededParts 3).valid
    (.list («when».needs.map fun part => .str (.ofString part))) = true := by
  rw [EventWhen.needs]
  cases «when».date.isNone <;> cases («when».time.isNone && !«when».allDay) <;>
    cases («when».timezone.isNone && «when».time.isSome) <;> rfl

theorem restated_when {host : EventHost} (document : Document) («when» : EventWhen)
    (needs : "needs" ∈ recomputed)
    (valid : (EventSchema.when host).valid document = true)
    (parsed : parseWhen host (fieldsOf document) = .ok «when») :
    Restated (eventTerms recomputed) (EventSchema.when host) document (whenDocument «when») := by
  obtain ⟨fields, rfl, _, members⟩ := valid_object_iff.mp valid
  obtain ⟨_, _, same⟩ := bind_eq_ok.mp parsed
  cases same
  refine Restated.object valid (by simp) ?_
  simp only [List.forall_mem_cons, field_present_cons, field_present_nil, reduceIte, String.reduceEq,
    Option.some_or, Option.or_none] at members ⊢
  obtain ⟨date, time, last, allDay, timezone, _, isPast, _⟩ := members
  refine ⟨restates_date date, restates_optionalField textual_time time, restates_end rfl rfl last,
    restates_bool (default?_eventTerms (by simp [eventDefaults])) allDay, ?_,
    ⟨valid_needs _, .of_recomputed needs _ _⟩,
    restates_bool (default?_eventTerms (by simp [eventDefaults])) isPast, nofun⟩
  rw [readWhen, Option.map_map]
  exact restates_map (object_rejects _) restated_timezone timezone

/-! ### Events -/

/-- The evidence of an event says that it was read as text. -/
def ReadAsText (fields : DocumentFields) : Prop :=
  ∀ item ∈ itemsField fields "evidence", textField (fieldsOf item) "readAs" = .ofString "text"

/-- What it takes to read an event. -/
theorem parseEvent_eq_ok {event : EventCandidate} (parsed : parseEvent host fields = .ok event) :
    parseWhen host (((PyValue.field fields "when").map fieldsOf).getD []) = .ok event.when ∧
      ((itemsField fields "evidence").mapM fun value => parseEvidence (fieldsOf value)) =
        .ok event.evidence ∧
      parseOptional fields "repeats" parseRecurrence = .ok event.repeats ∧
      parseOptional fields "where" parsePlace = .ok event.place ∧
      event = {
        candidateId := textField fields "candidateId"
        label := parseStated (((PyValue.field fields "label").map fieldsOf).getD [])
        «when» := event.when, confirmation := .pending, evidence := event.evidence
        what := (member fields "what").map fun value => parseStated (fieldsOf value)
        repeats := event.repeats, place := event.place
        people := (member fields "people").map fun value => parsePeople (fieldsOf value)
        status := ((PyValue.field fields "status").map textOf).getD (.ofString "scheduled")
        registration := (member fields "registration").map fun value =>
          parseRegistration (fieldsOf value)
        contact := (member fields "contact").map fun value => parseContact (fieldsOf value)
        reference := optionalField fields "reference"
        language := optionalField fields "language" } := by
  obtain ⟨«when», readWhen, parsed⟩ := bind_eq_ok.mp parsed
  obtain ⟨evidence, readEvidence, parsed⟩ := bind_eq_ok.mp parsed
  obtain ⟨repeats, readRepeats, parsed⟩ := bind_eq_ok.mp parsed
  obtain ⟨place, readPlace, parsed⟩ := bind_eq_ok.mp parsed
  cases parsed
  exact ⟨readWhen, readEvidence, readRepeats, readPlace, rfl⟩

theorem restates_evidence {evidence : List SourceEvidence}
    (valid : validMember true (.array 1 EventSchema.evidence) (PyValue.field fields "evidence") = true)
    (parsed : ((itemsField fields "evidence").mapM fun value => parseEvidence (fieldsOf value)) =
      .ok evidence) (read : "readAs" ∈ terms.recomputed ∨ ReadAsText fields) :
    Restates terms ("evidence", true, .array 1 EventSchema.evidence) (PyValue.field fields "evidence")
      (some (.list (evidence.map evidenceDocument))) := by
  refine restates_required valid fun value there accepted => ⟨_, rfl, ?_⟩
  obtain ⟨items, rfl, long, all⟩ := valid_array_iff.mp accepted
  have same : itemsField fields "evidence" = items := by
    rw [itemsField, there]
    rfl
  rw [ReadAsText, same] at read
  rw [same] at parsed
  refine .array long (List.forall₂_map_right_iff.mpr ?_)
  refine List.forall₂_iff_get.mpr ⟨(mapM_eq_ok.mp parsed).length_eq, fun position inside within => ?_⟩
  have member : items.get ⟨position, inside⟩ ∈ items := List.get_mem _ _
  exact restated_evidence _ _ (all _ member)
    ((List.forall₂_iff_get.mp (mapM_eq_ok.mp parsed)).2 position inside within)
    (read.imp_right fun text => text _ member)

theorem restated_event {host : EventHost} (document : Document) (event : EventCandidate)
    (needs : "needs" ∈ recomputed)
    (valid : (EventSchema.event host).valid document = true)
    (pending : textField (fieldsOf document) "confirmation" = .ofString "pending")
    (parsed : parseEvent host (fieldsOf document) = .ok event)
    (read : "readAs" ∈ recomputed ∨ ReadAsText (fieldsOf document)) :
    Restated (eventTerms recomputed) (EventSchema.event host) document (eventDocument event) := by
  obtain ⟨fields, rfl, _, members⟩ := valid_object_iff.mp valid
  obtain ⟨readWhen, readEvidence, readRepeats, readPlace, same⟩ := parseEvent_eq_ok parsed
  refine Restated.object valid (by simp) ?_
  simp only [List.forall_mem_cons, field_present_cons, field_present_nil, reduceIte, String.reduceEq,
    Option.some_or, Option.or_none] at members ⊢
  obtain ⟨candidateId, label, what, «when», repeats, place, people, status, registration, contact,
    reference, language, confirmation, evidence, _⟩ := members
  have decided : event.confirmation.word = "pending" := by rw [same]; rfl
  refine ⟨?_, ?_, ?_, ?_, restates_parseOptional (object_rejects _) restated_recurrence repeats readRepeats,
    restates_parseOptional (object_rejects _) restated_place place readPlace, ?_, ?_, ?_, ?_, ?_, ?_, ?_,
    restates_evidence evidence readEvidence read, nofun⟩
  · rw [same]
    exact restates_textField (textual_pattern _) candidateId
  · refine restates_required label fun value there accepted => ⟨_, rfl, ?_⟩
    rw [same, show fieldsOf (.dict fields) = fields from rfl, there]
    exact restated_stated value accepted
  · rw [same, Option.map_map]
    exact restates_map (object_rejects _) restated_stated what
  · refine restates_required «when» fun value there accepted => ⟨_, rfl, ?_⟩
    rw [show fieldsOf (.dict fields) = fields from rfl, there] at readWhen
    exact restated_when value _ needs accepted readWhen
  · rw [same, Option.map_map]
    exact restates_map (object_rejects _) restated_people people
  · rw [same]
    exact restates_word rfl (default?_eventTerms (by simp [eventDefaults])) status
  · rw [same, Option.map_map]
    exact restates_map (object_rejects _) restated_registration registration
  · rw [same, Option.map_map]
    exact restates_map (object_rejects _) restated_contact contact
  · rw [same]
    exact restates_optionalField (textual_string _ _) reference
  · rw [same]
    exact restates_optionalField (textual_pattern _) language
  · rw [decided, ← pending]
    exact restates_textField (textual_words _) confirmation

end Events

end Omnitensor
