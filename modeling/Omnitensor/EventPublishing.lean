/-
This file proves what parsing a result of an extraction of events and publishing it again preserves.

The published document of an accepted reply without duplicates is valid, it is parsed to the same result,
and it agrees with the reply on everything but what is recomputed. How the text of evidence was read is
not parsed: evidence is always published as read from text. So the document agrees with the reply exactly
if no evidence of the reply was read otherwise.
-/

import Omnitensor.EventRoundTrip

namespace Omnitensor

namespace Events

open Document Schema

variable {host : EventHost} {recomputed : List String}

/-! ### Restating a result -/

variable {result : GroundedEventResult} {fields : DocumentFields} {document : Document}

theorem restated_version {terms : Terms}
    (valid : validMember true (.number 2) (PyValue.field fields "version") = true) :
    Restates terms ("version", true, .number 2) (PyValue.field fields "version") (some (.int 2)) := by
  refine restates_required valid fun value there accepted => ⟨_, rfl, rfl, ?_⟩
  have whole : (integer none none).valid value = true :=
    valid_integer_iff.mpr ⟨2, of_decide_eq_true accepted, nofun, nofun⟩
  exact (Restated.integer whole (of_decide_eq_true accepted)).agrees

/-- The published state is the one that the reply had to state. -/
theorem confirmationState_of_fitting (fitting : Fitting fields)
    (outcome : result.outcome = textField fields "outcome")
    (pending : ∀ event ∈ result.events, event.confirmation = .pending) :
    PyString.ofString result.confirmationState = textField fields "confirmationState" := by
  rw [Fitting, ← outcome] at fitting
  have undecided : (result.events.all fun event => decide (event.confirmation = .pending)) = true :=
    List.all_eq_true.mpr fun event member => decide_eq_true (pending event member)
  rw [GroundedEventResult.confirmationState, undecided, if_pos rfl]
  split_ifs at fitting ⊢
  · exact fitting.2.symm
  · exact fitting.2.symm

/-- The valid items of a list that is a member. -/
theorem valid_of_mem_itemsField {key : String} {required : Bool} {shortest : Nat} {items : Schema}
    {item : Document}
    (valid : validMember required (.array shortest items) (PyValue.field fields key) = true)
    (member : item ∈ itemsField fields key) : items.valid item = true := by
  rw [itemsField] at member
  cases found : PyValue.field fields key with
  | none =>
    rw [found] at member
    cases member
  | some value =>
    rw [found] at valid member
    obtain ⟨values, rfl, _, each⟩ := valid_array_iff.mp valid
    exact each item member

/-- Without duplicates every event of a reply is kept, and one by one it is read from the reply. -/
theorem admitted_of_once (accepted : parseGroundedEventResult host document = .ok result)
    (once : result.duplicatesDropped = 0) :
    List.Forall₂ (Admitted host) (itemsField (fieldsOf document) "events") result.events ∧
      (result.events.map (·.candidateId)).Nodup ∧
      result = parsedResult host (fieldsOf document) result.events := by
  obtain ⟨_, _, events, all, distinct, rfl⟩ := parseGroundedEventResult_eq_ok.mp accepted
  have same : firsts (duplicateKey host) events = events :=
    (firstsAfter_sublist [] events).eq_of_length_le (Nat.le_of_sub_eq_zero once)
  change List.Forall₂ _ _ (firsts (duplicateKey host) events) ∧
    ((firsts (duplicateKey host) events).map _).Nodup ∧
      _ = parsedResult host _ (firsts (duplicateKey host) events)
  rw [same]
  exact ⟨all, distinct, rfl⟩

/-- A result is restated, except perhaps how the text of its evidence was read. -/
theorem restated_resultDocument {document : Document} {result : GroundedEventResult}
    (accepted : parseGroundedEventResult host document = .ok result)
    (once : result.duplicatesDropped = 0) (needs : "needs" ∈ recomputed)
    (read : "readAs" ∈ recomputed ∨
      ∀ raw ∈ itemsField (fieldsOf document) "events", ReadAsText (fieldsOf raw)) :
    Restated (eventTerms recomputed) (EventSchema.result host) document (resultDocument result) := by
  obtain ⟨all, _, same⟩ := admitted_of_once accepted once
  obtain ⟨valid, fitting, _⟩ := parseGroundedEventResult_eq_ok.mp accepted
  obtain ⟨fields, rfl, _, members⟩ := valid_object_iff.mp valid
  have pending : ∀ event ∈ result.events, event.confirmation = .pending := by
    intro event member
    obtain ⟨raw, _, admitted⟩ := exists_of_mem_forall₂ all event member
    rw [(parseEvent_eq_ok admitted.parsed).2.2.2.2]
  have state := confirmationState_of_fitting fitting (by rw [same]; rfl) pending
  refine Restated.object valid (by simp) ?_
  simp only [List.forall_mem_cons, field_present_cons, field_present_nil, reduceIte, String.reduceEq,
    Option.some_or, Option.or_none] at members ⊢
  obtain ⟨version, requestId, outcome, code, detail, policy, confirmationState, events, _⟩ := members
  refine ⟨restated_version version, ?_, ?_, ?_, ?_, ?_, ?_, ?_, nofun⟩
  · rw [same]
    exact restates_textField (textual_pattern _) requestId
  · rw [same]
    exact restates_textField (textual_words _) outcome
  · rw [same]
    exact restates_textField (textual_pattern _) code
  · rw [same]
    exact restates_textField (textual_string _ _) detail
  · refine restates_required policy fun value there valid => ⟨_, rfl, ?_⟩
    obtain ⟨text, rfl⟩ := textual_words _ value valid
    have only : text = .ofString "keep-first-label-date-time-place" := by
      simpa [Schema.valid, text?, isWord] using valid
    rw [only]
    exact .refl rfl
  · rw [state]
    exact restates_textField (textual_words _) confirmationState
  · refine restates_required events fun value there valid => ⟨_, rfl, ?_⟩
    obtain ⟨raws, rfl, _, each⟩ := valid_array_iff.mp valid
    have items : itemsField (fieldsOf (.dict fields)) "events" = raws := by
      rw [itemsField, fieldsOf, fields?, Option.getD_some, there]
      rfl
    rw [items] at all read
    refine .array (Nat.zero_le _) (List.forall₂_map_right_iff.mpr ?_)
    refine List.forall₂_iff_get.mpr ⟨all.length_eq, fun position inside within => ?_⟩
    have member : raws.get ⟨position, inside⟩ ∈ raws := List.get_mem _ _
    have admitted := (List.forall₂_iff_get.mp all).2 position inside within
    exact restated_event _ _ needs (each _ member) admitted.pending admitted.parsed
      (read.imp_right fun text => text _ member)

/-! ### Publishing -/

/-- What is published of a result without duplicates is parsed to that result. -/
theorem parse_resultDocument (accepted : parseGroundedEventResult host document = .ok result)
    (once : result.duplicatesDropped = 0) :
    groundedEventDocument host result = .ok (resultDocument result) ∧
      parseGroundedEventResult host (resultDocument result) = .ok result := by
  obtain ⟨all, distinct, same⟩ := admitted_of_once accepted once
  obtain ⟨_, fitting, _⟩ := parseGroundedEventResult_eq_ok.mp accepted
  have valid := (@restated_resultDocument host ["needs", "readAs"] document result accepted once
    (by simp) (.inl (by simp))).valid
  have pending : ∀ event ∈ result.events, event.confirmation = .pending := by
    intro event member
    obtain ⟨raw, _, admitted⟩ := exists_of_mem_forall₂ all event member
    rw [(parseEvent_eq_ok admitted.parsed).2.2.2.2]
  have state := confirmationState_of_fitting fitting (by rw [same]; rfl) pending
  have items : itemsField (fieldsOf (resultDocument result)) "events" =
      result.events.map eventDocument := by
    simp [resultDocument, itemsField]
  have texts : ∀ key value, PyValue.field (fieldsOf (resultDocument result)) key =
      some (.str value) → textField (fieldsOf (resultDocument result)) key = value := by
    intro key value found
    rw [textField, found]
    rfl
  have outcome := texts "outcome" result.outcome (by simp [resultDocument])
  have published := texts "confirmationState" (.ofString result.confirmationState)
    (by simp [resultDocument])
  refine ⟨if_neg (by simp [valid]), parseGroundedEventResult_eq_ok.mpr
    ⟨valid, ?_, result.events, ?_, distinct, ?_⟩⟩
  · have empty : result.events = [] ↔ itemsField (fieldsOf document) "events" = [] := by
      rw [← List.length_eq_zero_iff, ← List.length_eq_zero_iff, all.length_eq]
    have known : result.outcome = textField (fieldsOf document) "outcome" := by rw [same]; rfl
    rw [Fitting, ← known] at fitting
    rw [Fitting, items, outcome, published, state, List.map_eq_nil_iff, ne_eq, List.map_eq_nil_iff,
      empty]
    exact fitting
  · rw [items, List.forall₂_map_left_iff, List.forall₂_same]
    intro event member
    obtain ⟨raw, _, admitted⟩ := exists_of_mem_forall₂ all event member
    refine ⟨?_, parseEvent_document admitted.parsed⟩
    simp [eventDocument, textField, pending event member, Confirmation.word]
  · have requestId := texts "requestId" result.requestId (by simp [resultDocument])
    have code := texts "code" result.code (by simp [resultDocument])
    have detail := texts "detail" result.detail (by simp [resultDocument])
    rw [parsedResult, requestId, outcome, code, detail]
    conv_lhs => rw [same]
    rw [parsedResult]
    congr 1 <;> rw [same] <;> rfl

/-! ### How a text was read -/

/-- What a document says of the items of a list that is a member. -/
theorem stated_item (document : Document) (key : String) (position : Nat) (path : List Step) :
    stated (.key (.ofString key) :: .item position :: path) document =
      (itemsField (fieldsOf document) key)[position]?.bind (stated path) := by
  cases document with
  | dict fields =>
    rw [itemsField, show fieldsOf (.dict fields) = fields from rfl]
    change (PyValue.field fields key).bind (stated (.item position :: path)) = _
    cases PyValue.field fields key with
    | none => rfl
    | some value => cases value <;> rfl
  | _ => rfl

/-- If the published document agrees, the reply says of all evidence that it was read as text. -/
theorem readAsText_of_agrees (accepted : parseGroundedEventResult host document = .ok result)
    (once : result.duplicatesDropped = 0)
    (agrees : (eventTerms ["needs"]).Agrees document (resultDocument result)) :
    ∀ raw ∈ itemsField (fieldsOf document) "events", ReadAsText (fieldsOf raw) := by
  obtain ⟨all, _, _⟩ := admitted_of_once accepted once
  obtain ⟨valid, _, _⟩ := parseGroundedEventResult_eq_ok.mp accepted
  obtain ⟨fields, rfl, _, members⟩ := valid_object_iff.mp valid
  intro raw rawMember item itemMember
  have rawValid : (EventSchema.event host).valid raw = true :=
    valid_of_mem_itemsField (members ("events", true, .array 0 (EventSchema.event host)) (by simp))
      rawMember
  obtain ⟨rawFields, rfl, _, rawMembers⟩ := valid_object_iff.mp rawValid
  have itemValid : EventSchema.evidence.valid item = true :=
    valid_of_mem_itemsField (rawMembers ("evidence", true, .array 1 EventSchema.evidence) (by simp))
      itemMember
  obtain ⟨itemFields, rfl, _, itemMembers⟩ := valid_object_iff.mp itemValid
  obtain ⟨first, firstInside, firstSame⟩ := List.mem_iff_getElem.mp rawMember
  obtain ⟨second, secondInside, secondSame⟩ := List.mem_iff_getElem.mp itemMember
  have within : first < result.events.length := all.length_eq ▸ firstInside
  have admitted := (List.forall₂_iff_get.mp all).2 first firstInside within
  rw [List.get_eq_getElem, List.get_eq_getElem, firstSame] at admitted
  have parsed := mapM_eq_ok.mp (parseEvent_eq_ok admitted.parsed).2.1
  have inner : second < result.events[first].evidence.length := parsed.length_eq ▸ secondInside
  have evidence := (List.forall₂_iff_get.mp parsed).2 second secondInside inner
  rw [List.get_eq_getElem, List.get_eq_getElem, secondSame] at evidence
  have text := (parseEvidence_facts evidence).2.2
  have agree := agrees [.key (.ofString "events"), .item first, .key (.ofString "evidence"),
    .item second, .key (.ofString "readAs")] (by simp [Terms.Compares, eventTerms, ofString_inj])
  have published : itemsField (fieldsOf (resultDocument result)) "events" =
      result.events.map eventDocument := by
    simp [resultDocument, itemsField]
  have publishedEvidence : itemsField (fieldsOf (eventDocument result.events[first])) "evidence" =
      result.events[first].evidence.map evidenceDocument := by
    simp [eventDocument, itemsField]
  have written : stated [.key (.ofString "readAs")]
      (evidenceDocument result.events[first].evidence[second]) = some (.text (.ofString "text")) := by
    change (PyValue.field (fieldsOf (evidenceDocument _)) "readAs").bind leaf? = _
    simp [evidenceDocument, text, leaf?]
  rw [stated_item, stated_item, published, List.getElem?_map, List.getElem?_eq_getElem within,
    List.getElem?_eq_getElem firstInside, firstSame] at agree
  simp only [Option.map_some, Option.bind_some] at agree
  rw [stated_item, stated_item, publishedEvidence, List.getElem?_map,
    List.getElem?_eq_getElem inner, List.getElem?_eq_getElem secondInside, secondSame] at agree
  simp only [Option.map_some, Option.bind_some] at agree
  rw [written] at agree
  have readAs := itemMembers ("readAs", true, .words ["text", "ocr"]) (by simp)
  change textField itemFields "readAs" = _
  have read : stated [.key (.ofString "readAs")] (.dict itemFields) =
      (PyValue.field itemFields "readAs").bind leaf? := rfl
  rw [read] at agree
  rw [textField]
  cases found : PyValue.field itemFields "readAs" with
  | none =>
    rw [found] at readAs
    cases readAs
  | some value =>
    rw [found] at readAs agree
    obtain ⟨text, rfl⟩ := textual_words _ value readAs
    rcases agree with same | ⟨silent, _⟩
    · cases same
      rfl
    · cases silent

/-- Parsing an accepted reply without duplicates and publishing the result loses nothing if and only if
the reply says of all evidence that it was read as text. -/
theorem publishes_iff_readAsText {document : Document} {result : GroundedEventResult}
    (accepted : parseGroundedEventResult host document = .ok result)
    (once : result.duplicatesDropped = 0) :
    (∃ published, groundedEventDocument host result = .ok published ∧
        (eventTerms ["needs"]).Agrees document published ∧
        parseGroundedEventResult host published = .ok result) ↔
      ∀ raw ∈ itemsField (fieldsOf document) "events", ReadAsText (fieldsOf raw) := by
  obtain ⟨written, again⟩ := parse_resultDocument accepted once
  constructor
  · rintro ⟨published, same, agrees, _⟩
    cases written.symm.trans same
    exact readAsText_of_agrees accepted once agrees
  · intro read
    exact ⟨resultDocument result, written,
      (restated_resultDocument accepted once (by simp) (.inr read)).agrees, again⟩

theorem publishes_iff_readAsText_read :
    let document := replyOf [statedEvent "e" "a" "text" [("date", textDocument "unknown")] []]
    ∃ result, parseGroundedEventResult plainHost document = .ok result ∧
      ∃ published, groundedEventDocument plainHost result = .ok published ∧
        (eventTerms ["needs"]).Agrees document published ∧
        parseGroundedEventResult plainHost published = .ok result :=
  ⟨_, rfl, (@publishes_iff_readAsText plainHost _ _ rfl rfl).mpr
    (List.forall_mem_singleton.mpr (List.forall_mem_singleton.mpr rfl))⟩

/-- Evidence that was read from an image is published as read from text. -/
theorem not_publishes_scanned : ¬ ∀ (host : EventHost) (document : Document)
    (result : GroundedEventResult), parseGroundedEventResult host document = .ok result →
      result.duplicatesDropped = 0 → ∃ published, groundedEventDocument host result = .ok published ∧
        (eventTerms ["needs"]).Agrees document published ∧
        parseGroundedEventResult host published = .ok result := by
  intro claim
  have accepted := (rfl : parseGroundedEventResult plainHost
    (replyOf [statedEvent "e" "a" "ocr" [("date", textDocument "unknown")] []]) = .ok _)
  obtain ⟨published, same, agrees, _⟩ := claim _ _ _ accepted rfl
  cases (parse_resultDocument accepted rfl).1.symm.trans same
  have read := readAsText_of_agrees accepted rfl agrees _ List.mem_cons_self _ List.mem_cons_self
  exact absurd read (by decide)

end Events

end Omnitensor
