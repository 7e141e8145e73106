/-
This file proves that an event is read again as it was published.

Each part is read back from its document. What was checked when a part was read holds of the part itself,
so it is checked with the same answer when the published document is read.
-/

import Omnitensor.EventReading

namespace Omnitensor

namespace Events

open Document Schema

/-! ### Members -/

@[simp] theorem fieldsOf_record (slots : List (String × Option Document)) :
    fieldsOf (record slots) = present slots := rfl

@[simp] theorem textOf_str (text : PyString) : textOf (.str text) = text := rfl

@[simp] theorem intOf_int (number : Int) : intOf (.int number) = number := rfl

@[simp] theorem boolOf_bool (value : Bool) : boolOf (.bool value) = value := rfl

@[simp] theorem itemsOf_list (items : List Document) : itemsOf (.list items) = items := rfl

/-- What a member says, unless it is null. -/
def said : Option Document → Option Document
  | some .null => none
  | value => value

theorem member_eq_said (fields : DocumentFields) (key : String) :
    member fields key = said (PyValue.field fields key) := by
  rw [member]
  cases PyValue.field fields key with
  | none => rfl
  | some value => cases value <;> rfl

@[simp] theorem said_none : said none = none := rfl

theorem said_map {Value : Type} {write : Value → Document} (value : Option Value)
    (some : ∀ value, write value ≠ .null) : said (value.map write) = value.map write := by
  cases value with
  | none => rfl
  | some value =>
    have there := some value
    rw [Option.map_some]
    cases written : write value <;> first | rfl | exact absurd written there

@[simp] theorem said_map_str (text : Option PyString) : said (text.map .str) = text.map .str :=
  said_map text str_ne_null

@[simp] theorem said_map_int (number : Option Int) : said (number.map .int) = number.map .int :=
  said_map number nofun

@[simp] theorem said_orNull (text : Option PyString) :
    said (some (orNull (text.map .str))) = text.map .str := by
  cases text <;> rfl

@[simp] theorem said_orNull_int (number : Option Int) :
    said (some (orNull (number.map .int))) = number.map .int := by
  cases number <;> rfl

@[simp] theorem textOf_comp_str : textOf ∘ PyValue.str = id := rfl

@[simp] theorem intOf_comp_int : intOf ∘ PyValue.int = id := rfl

@[simp] theorem map_itemsOf_listed (items : List Document) :
    ((listed items).map itemsOf).getD [] = items := by
  cases items <;> rfl

/-- A record that may be missing is read back. -/
theorem map_read_said {Value : Type} {write : Value → Document} {read : DocumentFields → Value}
    (back : ∀ value, read (fieldsOf (write value)) = value) (some : ∀ value, write value ≠ .null)
    (value : Option Value) :
    (said (value.map write)).map (fun value => read (fieldsOf value)) = value := by
  rw [said_map value some]
  cases value with
  | none => rfl
  | some value => exact congrArg Option.some (back value)

/-! ### Records -/

theorem parseStated_document (value : Stated) : parseStated (fieldsOf (statedDocument value)) = value := by
  simp [parseStated, statedDocument, textField]

theorem parseTimezone_document (timezone : EventTimezone) :
    parseTimezone (fieldsOf (timezoneDocument timezone)) = timezone := by
  simp [parseTimezone, timezoneDocument, textField, optionalField, member_eq_said]

theorem parseAddress_document (address : PostalAddress) :
    parseAddress (fieldsOf (addressDocument address)) = address := by
  simp [parseAddress, addressDocument, textField, optionalField, member_eq_said]

theorem parsePerson_document (person : Person) :
    parsePerson (fieldsOf (personDocument person)) = person := by
  simp [parsePerson, personDocument, textField, optionalField, member_eq_said]

theorem parsePeople_document (people : EventPeople) :
    parsePeople (fieldsOf (peopleDocument people)) = people := by
  have participants : (people.participants.map personDocument).map
      (fun value => parsePerson (fieldsOf value)) = people.participants := by
    rw [List.map_map]
    exact (List.map_congr_left fun person _ => parsePerson_document person).trans (List.map_id _)
  simp only [parsePeople, peopleDocument, fieldsOf_record, itemsField, member_eq_said,
    field_present_cons, field_present_nil, reduceIte, String.reduceEq, Option.or_none,
    map_itemsOf_listed, participants, map_read_said parsePerson_document fun _ => record_ne_null _]

theorem parseCost_document (cost : Cost) : parseCost (fieldsOf (costDocument cost)) = cost := by
  simp [parseCost, costDocument, textField]

theorem parseRegistration_document (registration : Registration) :
    parseRegistration (fieldsOf (registrationDocument registration)) = registration := by
  simp [parseRegistration, registrationDocument, textField, optionalField, member_eq_said,
    map_read_said parseCost_document fun _ => record_ne_null _]

theorem parseContact_document (contact : Contact) :
    parseContact (fieldsOf (contactDocument contact)) = contact := by
  simp [parseContact, contactDocument, textField, optionalField, member_eq_said]

/-! ### Records that are checked -/

theorem readPlace_document (place : EventPlace) :
    readPlace (fieldsOf (placeDocument place)) = place := by
  simp [readPlace, placeDocument, textField, optionalField, member_eq_said,
    map_read_said parseAddress_document fun _ => record_ne_null _]

variable {fields : DocumentFields} {evidence : SourceEvidence}

theorem parsePlace_document {place : EventPlace} (parsed : parsePlace fields = .ok place) :
    parsePlace (fieldsOf (placeDocument place)) = .ok place := by
  have same : readPlace fields = place := by
    simp only [parsePlace, refuse] at parsed
    split_ifs at parsed
    exact Except.ok.inj parsed
  rw [parsePlace, same] at parsed
  rw [parsePlace, readPlace_document]
  exact parsed

theorem parseRecurrence_document {repeats : Recurrence}
    (parsed : parseRecurrence fields = .ok repeats) :
    parseRecurrence (fieldsOf (recurrenceDocument repeats)) = .ok repeats := by
  have once : ¬ (repeats.count.isSome && repeats.until.isSome) = true := by
    simp only [parseRecurrence, refuse] at parsed
    split_ifs at parsed with both
    cases parsed
    simpa [optionalField] using both
  have count : member (fieldsOf (recurrenceDocument repeats)) "count" = repeats.count.map .int := by
    simp [recurrenceDocument, member_eq_said]
  have «until» : member (fieldsOf (recurrenceDocument repeats)) "until" = repeats.until.map .str := by
    simp [recurrenceDocument, member_eq_said]
  rw [parseRecurrence, count, «until», Option.isSome_map, Option.isSome_map, if_neg once]
  simp [recurrenceDocument, textField, optionalField, itemsField, member_eq_said]
  rfl

theorem readWhen_document {«when» : EventWhen} (known : «when».date ≠ some (.ofString "unknown")) :
    readWhen (fieldsOf (whenDocument «when»)) = «when» := by
  have date : ((said (some (.str («when».date.getD (.ofString "unknown"))))).map textOf).filter
      (fun text => decide (text ≠ .ofString "unknown")) = «when».date := by
    cases stated : «when».date with
    | none => rfl
    | some date =>
      rw [stated] at known
      exact Option.filter_some_pos (decide_eq_true fun unknown => known (congrArg some unknown))
  have last : said (endDocument «when») = endDocument «when» := by
    rw [endDocument]
    split_ifs <;> rfl
  have ends : ∀ (key : String) (value : Option PyString),
      PyValue.field (((endDocument «when»).map fieldsOf).getD []) key = value.map .str →
        optionalField (((endDocument «when»).map fieldsOf).getD []) key = value := by
    intro key value found
    rw [optionalField, member_eq_said, found, said_map_str, Option.map_map, textOf_comp_str,
      Option.map_id]
    rfl
  have endDate := ends "date" «when».endDate (by
    rw [endDocument]
    cases «when».endDate <;> cases «when».endTime <;> first | rfl | simp)
  have endTime := ends "time" «when».endTime (by
    rw [endDocument]
    cases «when».endDate <;> cases «when».endTime <;> first | rfl | simp)
  simp only [readWhen, whenDocument, fieldsOf_record, optionalField, member_eq_said,
    field_present_cons, field_present_nil, reduceIte, String.reduceEq, Option.some_or,
    Option.or_none, said_map_str, Option.map_map, textOf_comp_str, Option.map_id_fun, id_eq,
    Option.map_some, Option.getD_some, boolOf_bool, map_read_said parseTimezone_document fun _ => record_ne_null _]
  simp only [optionalField, member_eq_said] at endDate endTime
  rw [last, endDate, endTime, date]

theorem parseWhen_document {host : EventHost} {«when» : EventWhen}
    (parsed : parseWhen host fields = .ok «when») :
    parseWhen host (fieldsOf (whenDocument «when»)) = .ok «when» := by
  obtain ⟨_, checked, same⟩ := bind_eq_ok.mp parsed
  have read : readWhen fields = «when» := Except.ok.inj same
  have known : «when».date ≠ some (.ofString "unknown") := by
    rw [← read]
    intro stated
    have kept := (Option.filter_eq_some_iff.mp stated).2
    simp at kept
  rw [parseWhen, readWhen_document known, ← read, checked]
  rfl

/-- What is checked of evidence, and how its text is taken to have been read. -/
theorem parseEvidence_facts (parsed : parseEvidence fields = .ok evidence) :
    validateSourceIdentity evidence.sourceRef evidence.sourceSha256 = .ok () ∧
      evidence.spanStart < evidence.spanEnd ∧ evidence.readAs = .ofString "text" := by
  simp only [parseEvidence, refuse] at parsed
  obtain ⟨_, identified, parsed⟩ := bind_eq_ok.mp parsed
  split_ifs at parsed with order
  cases parsed
  exact ⟨identified, Int.not_le.mp order, rfl⟩

theorem parseEvidence_document (parsed : parseEvidence fields = .ok evidence) :
    parseEvidence (fieldsOf (evidenceDocument evidence)) = .ok evidence := by
  obtain ⟨identified, order, read⟩ := parseEvidence_facts parsed
  refine bind_eq_ok.mpr ⟨(), ?_, ?_⟩
  · simpa [evidenceDocument, textField] using identified
  · simp [evidenceDocument, textField, member_eq_said, Int.not_le.mpr order, ← read]
    rfl

/-! ### Events -/

theorem parseOptional_document {Value : Type} {published : DocumentFields} {key : String}
    {parse : DocumentFields → Except EventResultError Value} {write : Value → Document}
    {value : Option Value}
    (back : ∀ {fields value}, parse fields = .ok value → parse (fieldsOf (write value)) = .ok value)
    (some : ∀ value, write value ≠ .null) (parsed : parseOptional fields key parse = .ok value)
    (written : PyValue.field published key = value.map write) :
    parseOptional published key parse = .ok value := by
  rw [parseOptional, member_eq_said, written, said_map value some]
  rw [parseOptional] at parsed
  cases there : member fields key with
  | none =>
    rw [there] at parsed
    cases parsed
    rfl
  | some raw =>
    rw [there] at parsed
    obtain ⟨result, read, same⟩ := map_eq_ok.mp parsed
    cases same
    exact map_eq_ok.mpr ⟨result, back read, rfl⟩

/-- An event is read again as it was published. -/
theorem parseEvent_document {host : EventHost} {event : EventCandidate}
    (parsed : parseEvent host fields = .ok event) :
    parseEvent host (fieldsOf (eventDocument event)) = .ok event := by
  obtain ⟨readWhen, readEvidence, readRepeats, readPlace, same⟩ := parseEvent_eq_ok parsed
  have pending : event.confirmation = .pending := by rw [same]
  have evidence : (itemsField (fieldsOf (eventDocument event)) "evidence").mapM
      (fun value => parseEvidence (fieldsOf value)) = .ok event.evidence := by
    have items : itemsField (fieldsOf (eventDocument event)) "evidence" =
        event.evidence.map evidenceDocument := by
      simp [eventDocument, itemsField]
    rw [items, mapM_eq_ok, List.forall₂_map_left_iff, List.forall₂_same]
    intro item member
    obtain ⟨raw, _, read⟩ := exists_of_mem_forall₂ (mapM_eq_ok.mp readEvidence) item member
    exact parseEvidence_document read
  refine bind_eq_ok.mpr ⟨event.when, ?_, bind_eq_ok.mpr ⟨event.evidence, evidence,
    bind_eq_ok.mpr ⟨event.repeats, parseOptional_document
      parseRecurrence_document (fun _ => record_ne_null _) readRepeats ?_,
      bind_eq_ok.mpr ⟨event.place, parseOptional_document
        parsePlace_document (fun _ => record_ne_null _) readPlace ?_, ?_⟩⟩⟩⟩
  · simpa [eventDocument] using parseWhen_document readWhen
  · simp [eventDocument]
  · simp [eventDocument]
  · simp [eventDocument, textField, optionalField, member_eq_said,
      map_read_said parseStated_document fun _ => record_ne_null _,
      map_read_said parsePeople_document fun _ => record_ne_null _,
      map_read_said parseRegistration_document fun _ => record_ne_null _,
      map_read_said parseContact_document fun _ => record_ne_null _,
      parseStated_document, ← pending, pure, Except.pure]

end Events

end Omnitensor
