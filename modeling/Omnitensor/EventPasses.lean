/-
This file models how the results of several passes over the sources are merged.

An event that was extracted before is counted and dropped, on the same key as within one pass. The passes
number their candidates independently, so an event whose id is taken gets the first free suffix. The
outcome is refused if nothing was found, and partial if any pass was.
-/

import Omnitensor.EventPublishing

namespace Omnitensor

namespace Events

/-! ### Ids -/

/-- An id with a suffix. -/
def suffixed (identity : PyString) (suffix : Nat) : PyString :=
  identity ++ .ofChars ('-' :: Nat.toDigits 10 suffix)

/-- The first suffix that is free, looked for so many times at most. -/
def freeSuffix (taken : List PyString) (identity : PyString) : Nat → Nat → Nat
  | 0, suffix => suffix
  | tries + 1, suffix =>
    if suffixed identity suffix ∈ taken then freeSuffix taken identity tries (suffix + 1) else suffix

/-- Keep candidate ids unique across passes. One of more suffixes than ids are taken is free. -/
def withUniqueId (event : EventCandidate) (taken : List PyString) : EventCandidate × List PyString :=
  let identity := event.candidateId
  if identity ∉ taken then (event, taken ++ [identity])
  else
    let identity := suffixed identity (freeSuffix taken identity taken.length 2)
    ({ event with candidateId := identity }, taken ++ [identity])

/-! ### Merging -/

/-- What was merged so far: the events, the keys and ids that occurred, and how many were dropped. -/
structure Merged where
  events : List EventCandidate
  seen : List DuplicateKey
  ids : List PyString
  duplicates : Nat

namespace Merged

def empty : Merged := ⟨[], [], [], 0⟩

/-- Merge one more event. -/
def add (host : EventHost) (merged : Merged) (event : EventCandidate) : Merged :=
  let key := duplicateKey host event
  if key ∈ merged.seen then { merged with duplicates := merged.duplicates + 1 }
  else
    let (event, ids) := withUniqueId event merged.ids
    { merged with events := merged.events ++ [event], seen := merged.seen ++ [key], ids }

/-- Merge the events of one more pass. -/
def addPass (host : EventHost) (merged : Merged) (result : GroundedEventResult) : Merged :=
  result.events.foldl (add host) merged

end Merged

/-- One result from many passes. -/
def merge (host : EventHost) (results : List GroundedEventResult) (requestId : PyString) :
    Except EventResultError GroundedEventResult :=
  if results.isEmpty then refuse "source-invalid" "no extraction pass was run"
  else
    let outcomes := results.map (·.outcome)
    let merged := results.foldl (Merged.addPass host) .empty
    if merged.events.isEmpty then
      let detail := ((results.find? fun result => !result.detail.isEmpty).map (·.detail)).getD []
      return ⟨requestId, .ofString "refused", .ofString "no-event-found", detail, [],
        merged.duplicates⟩
    else
      let partly := decide (PyString.ofString "partial" ∈ outcomes)
      let outcome := if partly then "partial" else "succeeded"
      let detail := if partly then "some selected material could not be read" else ""
      return ⟨requestId, .ofString outcome, .ofString "events-extracted", .ofString detail,
        merged.events, merged.duplicates⟩

/-! ### Free suffixes -/

theorem suffixed_injective (identity : PyString) : Function.Injective (suffixed identity) := by
  intro first second same
  have digits := List.append_cancel_left same
  have chars := congrArg PyString.chars? digits
  rw [PyString.chars?_ofChars, PyString.chars?_ofChars] at chars
  have texts := (List.cons.inj (Option.some.inj chars)).2
  have values := congrArg (Nat.ofDigitChars 10 · 0) texts
  simpa only [Nat.ofDigitChars_ten_toDigits] using values

variable {merged : GroundedEventResult} {event : EventCandidate} {identity : PyString}
  {passes : List (Document × GroundedEventResult)} {processed : List EventCandidate}

/-- What is found is free, and not after a free suffix that is near enough. -/
theorem freeSuffix_spec {taken : List PyString} {tries first free : Nat} (after : first ≤ free)
    (near : free ≤ first + tries) (unused : suffixed identity free ∉ taken) :
    suffixed identity (freeSuffix taken identity tries first) ∉ taken ∧
      first ≤ freeSuffix taken identity tries first ∧
      freeSuffix taken identity tries first ≤ free := by
  induction tries generalizing first with
  | zero =>
    have same : first = free := Nat.le_antisymm after near
    exact ⟨same ▸ unused, Nat.le_refl first, after⟩
  | succ tries inductionHypothesis =>
    rw [freeSuffix]
    split_ifs with used
    · have other : first ≠ free := fun same => unused (same ▸ used)
      have later : first + 1 ≤ free := Nat.lt_of_le_of_ne after other
      obtain ⟨fresh, above, below⟩ := inductionHypothesis later (by omega)
      exact ⟨fresh, Nat.le_of_succ_le above, below⟩
    · exact ⟨used, Nat.le_refl first, after⟩

/-- Among more suffixes than ids are taken one is free. -/
theorem exists_free (taken : List PyString) (identity : PyString) (first : Nat) :
    ∃ free, first ≤ free ∧ free ≤ first + taken.length ∧ suffixed identity free ∉ taken := by
  by_contra! all
  have inside : ((Finset.Icc first (first + taken.length)).image (suffixed identity)) ⊆
      taken.toFinset := by
    intro text member
    obtain ⟨suffix, range, rfl⟩ := Finset.mem_image.mp member
    obtain ⟨low, high⟩ := Finset.mem_Icc.mp range
    exact List.mem_toFinset.mpr (all suffix low high)
  have many := Finset.card_le_card inside
  rw [Finset.card_image_of_injective _ (suffixed_injective identity), Nat.card_Icc] at many
  have few := List.toFinset_card_le taken
  omega

/-- The suffix that is found is free, and no free one is before it. -/
theorem freeSuffix_first (taken : List PyString) (identity : PyString) :
    let suffix := freeSuffix taken identity taken.length 2
    suffixed identity suffix ∉ taken ∧ 2 ≤ suffix ∧
      ∀ free, 2 ≤ free → suffixed identity free ∉ taken → suffix ≤ free := by
  obtain ⟨near, after, within, unused⟩ := exists_free taken identity 2
  obtain ⟨fresh, least, below⟩ := freeSuffix_spec after within unused
  refine ⟨fresh, least, fun free atLeast other => ?_⟩
  rcases Nat.le_total free near with before | beyond
  · exact (freeSuffix_spec atLeast (before.trans within) other).2.2
  · exact below.trans beyond

/-! ### Valid ids -/

/-- A text can be the id of a candidate. -/
def ValidId (text : PyString) : Prop := EventPattern.found EventPattern.identifier text = true

/-- An id with a suffix is valid if its characters are, and it is short enough. -/
theorem validId_suffixed_iff {suffix : Nat} :
    ValidId (suffixed identity suffix) ↔ ∃ chars, identity = .ofChars chars ∧
      chars.all EventPattern.identifierChar = true ∧
      chars.length + 1 + (Nat.toDigits 10 suffix).length ≤ 120 := by
  have shape : ∀ chars : List Char, ValidId (suffixed (.ofChars chars) suffix) ↔
      chars.all EventPattern.identifierChar = true ∧
        chars.length + 1 + (Nat.toDigits 10 suffix).length ≤ 120 := by
    intro chars
    have digits : ∀ char ∈ Nat.toDigits 10 suffix, EventPattern.identifierChar char = true := by
      intro char member
      have isDigit := Numeral.digit_of_mem_toDigits member
      have same : EventPattern.digit char = true := by
        simpa [EventPattern.digit, Numeral.digit] using isDigit
      simp [EventPattern.identifierChar, EventPattern.alphanumeric, same]
    have last : (chars ++ '-' :: Nat.toDigits 10 suffix).getLast? ≠ some '\n' := by
      intro newline
      have member : '\n' ∈ Nat.toDigits 10 suffix := by
        obtain ⟨first, rest, same⟩ := List.exists_cons_of_ne_nil (@Nat.toDigits_ne_nil suffix 10)
        rw [same, List.getLast?_append_cons, List.getLast?_cons_cons] at newline
        rw [same]
        exact List.mem_of_getLast? newline
      exact absurd (digits _ member) (by decide)
    rw [ValidId, suffixed, ← PyString.ofChars_append, EventPattern.found, PyString.chars?_ofChars,
      Option.any_some, decide_eq_false last, Bool.false_and, Bool.or_false, EventPattern.identifier,
      EventPattern.repeated, List.all_append, List.all_cons, List.all_eq_true.mpr digits]
    simp only [Bool.and_eq_true, decide_eq_true_eq, List.length_append, List.length_cons]
    constructor
    · rintro ⟨⟨_, short⟩, all, _⟩
      exact ⟨all, by omega⟩
    · rintro ⟨all, short⟩
      exact ⟨⟨by omega, by omega⟩, all, rfl, trivial⟩
  constructor
  · intro valid
    have encodable : PyString.Encodable identity := by
      cases known : PyString.chars? (suffixed identity suffix) with
      | none =>
        rw [ValidId, EventPattern.found, known] at valid
        cases valid
      | some chars =>
        have whole := PyString.eq_ofChars_of_chars? known
        have all : PyString.Encodable (suffixed identity suffix) :=
          whole ▸ PyString.encodable_ofChars chars
        exact (PyString.encodable_append.mp all).1
    obtain ⟨chars, rfl⟩ := PyString.encodable_iff.mp encodable
    exact ⟨chars, rfl, (shape chars).mp valid⟩
  · rintro ⟨chars, rfl, fits⟩
    exact (shape chars).mpr fits

/-- A smaller suffix is as good as a larger one. -/
theorem ValidId.of_le {first second : Nat} (valid : ValidId (suffixed identity second))
    (le : first ≤ second) : ValidId (suffixed identity first) := by
  obtain ⟨chars, rfl, all, short⟩ := validId_suffixed_iff.mp valid
  have positive : 0 < (Nat.toDigits 10 second).length := Nat.length_toDigits_pos
  have shorter : (Nat.toDigits 10 first).length ≤ (Nat.toDigits 10 second).length :=
    (Nat.length_toDigits_le_iff (by decide) positive).mpr
      (le.trans_lt ((Nat.length_toDigits_le_iff (by decide) positive).mp (Nat.le_refl _)))
  exact validId_suffixed_iff.mpr ⟨chars, rfl, all, by omega⟩

/-! ### The events that are kept -/

/-- An event that is the same as another, except perhaps for its id. -/
def Renumbered (event other : EventCandidate) : Prop :=
  other = { event with candidateId := other.candidateId }

variable {host : EventHost}

theorem withUniqueId_fst (event : EventCandidate) (taken : List PyString) :
    Renumbered event (withUniqueId event taken).1 := by
  rw [Renumbered, withUniqueId]
  split_ifs <;> rfl

/-- The id that an event gets was free, and is taken from then on. -/
theorem withUniqueId_snd (event : EventCandidate) (taken : List PyString) :
    (withUniqueId event taken).1.candidateId ∉ taken ∧
      (withUniqueId event taken).2 = taken ++ [(withUniqueId event taken).1.candidateId] := by
  rw [withUniqueId]
  split_ifs with used
  · exact ⟨(freeSuffix_first taken event.candidateId).1, rfl⟩
  · exact ⟨used, rfl⟩

/-- What was merged of the events so far. -/
structure Merged.Sound (host : EventHost) (processed : List EventCandidate) (merged : Merged) :
    Prop where
  kept : List.Forall₂ Renumbered (firsts (duplicateKey host) processed) merged.events
  seen : merged.seen = (firsts (duplicateKey host) processed).map (duplicateKey host)
  ids : merged.ids = merged.events.map (·.candidateId)
  distinct : merged.ids.Nodup
  counted : merged.events.length + merged.duplicates = processed.length

theorem Merged.Sound.add {merged : Merged} (sound : merged.Sound host processed)
    (event : EventCandidate) : (merged.add host event).Sound host (processed ++ [event]) := by
  have concat := @firsts_concat _ _ _ (duplicateKey host) processed event
  rw [← sound.seen] at concat
  have counted := sound.counted
  rw [Merged.add]
  split_ifs with known
  · rw [if_pos known] at concat
    refine ⟨concat ▸ sound.kept, concat ▸ sound.seen, sound.ids, sound.distinct, ?_⟩
    rw [List.length_append, List.length_singleton, ← counted, Nat.add_assoc]
  · rw [if_neg known] at concat
    obtain ⟨free, taken⟩ := withUniqueId_snd event merged.ids
    refine ⟨?_, ?_, ?_, ?_, ?_⟩
    · rw [concat]
      exact List.rel_append sound.kept (.cons (withUniqueId_fst event merged.ids) .nil)
    · rw [concat, List.map_append, ← sound.seen]
      rfl
    · change (withUniqueId event merged.ids).2 = _
      rw [taken, List.map_append, ← sound.ids]
      rfl
    · change (withUniqueId event merged.ids).2.Nodup
      rw [taken, List.nodup_append]
      refine ⟨sound.distinct, List.nodup_singleton _, fun first member second last => ?_⟩
      rw [List.mem_singleton.mp last]
      exact fun same => free (same ▸ member)
    · rw [List.length_append, List.length_append, List.length_singleton, List.length_singleton,
        Nat.add_right_comm, counted]

theorem Merged.sound_foldl (events : List EventCandidate) {merged : Merged}
    (sound : merged.Sound host processed) :
    (events.foldl (Merged.add host) merged).Sound host (processed ++ events) := by
  induction events generalizing processed merged with
  | nil => rwa [List.append_nil]
  | cons event events inductionHypothesis =>
    rw [List.foldl_cons, ← List.singleton_append, ← List.append_assoc]
    exact inductionHypothesis (sound.add event)

/-- Merging passes is merging their events one after another. -/
theorem foldl_addPass (results : List GroundedEventResult) (merged : Merged) :
    results.foldl (Merged.addPass host) merged =
      (results.flatMap (·.events)).foldl (Merged.add host) merged := by
  rw [List.foldl_flatMap]
  rfl

theorem sound_merged (results : List GroundedEventResult) :
    (results.foldl (Merged.addPass host) .empty).Sound host (results.flatMap (·.events)) := by
  rw [foldl_addPass]
  have start : Merged.empty.Sound host [] := ⟨.nil, rfl, rfl, List.nodup_nil, rfl⟩
  exact Merged.sound_foldl _ start

/-! ### Ids that stay valid -/

/-- An event whose id is taken finds a suffix that is free and gives a valid id. -/
def Merged.HasRoom (host : EventHost) (merged : Merged) (event : EventCandidate) : Prop :=
  duplicateKey host event ∉ merged.seen → event.candidateId ∈ merged.ids →
    ∃ suffix, 2 ≤ suffix ∧ suffixed event.candidateId suffix ∉ merged.ids ∧
      ValidId (suffixed event.candidateId suffix)

/-- The ids stay valid with one more event exactly if there is room for it. -/
theorem validIds_add_iff {merged : Merged} (valid : ValidId event.candidateId) :
    (∀ identity ∈ (merged.add host event).ids, ValidId identity) ↔
      (∀ identity ∈ merged.ids, ValidId identity) ∧ merged.HasRoom host event := by
  rw [Merged.add, Merged.HasRoom]
  split_ifs with known
  · exact ⟨fun all => ⟨all, fun fresh => absurd known fresh⟩, And.left⟩
  · obtain ⟨fresh, least, first⟩ := freeSuffix_first merged.ids event.candidateId
    change (∀ identity ∈ (withUniqueId event merged.ids).2, ValidId identity) ↔ _
    rw [withUniqueId]
    split_ifs with used
    · change (∀ identity ∈ merged.ids ++ [suffixed event.candidateId
        (freeSuffix merged.ids event.candidateId merged.ids.length 2)], ValidId identity) ↔ _
      rw [List.forall_mem_append, List.forall_mem_singleton]
      refine and_congr_right fun _ => ⟨fun fits _ _ => ?_, fun room => ?_⟩
      · exact ⟨_, least, fresh, fits⟩
      · obtain ⟨suffix, after, unused, fits⟩ := room known used
        exact fits.of_le (first suffix after unused)
    · change (∀ identity ∈ merged.ids ++ [event.candidateId], ValidId identity) ↔ _
      rw [List.forall_mem_append, List.forall_mem_singleton]
      exact ⟨fun all => ⟨all.1, fun _ taken => absurd taken used⟩, fun all => ⟨all.1, valid⟩⟩

/-- The ids stay valid over a run exactly if there is room in every state. -/
theorem validIds_foldl_iff (events : List EventCandidate) {merged : Merged}
    (valid : ∀ event ∈ events, ValidId event.candidateId) :
    (∀ identity ∈ (events.foldl (Merged.add host) merged).ids, ValidId identity) ↔
      (∀ identity ∈ merged.ids, ValidId identity) ∧ ∀ before event after,
        events = before ++ event :: after →
          (before.foldl (Merged.add host) merged).HasRoom host event := by
  induction events generalizing merged with
  | nil => exact ⟨fun all => ⟨all, fun before _ _ same => by simp at same⟩, And.left⟩
  | cons first events inductionHypothesis =>
    obtain ⟨firstValid, valid⟩ := List.forall_mem_cons.mp valid
    rw [List.foldl_cons, inductionHypothesis valid, validIds_add_iff firstValid, and_assoc]
    refine and_congr_right fun _ => ⟨?_, fun all => ⟨all [] first events rfl, ?_⟩⟩
    · rintro ⟨room, rest⟩ before event after same
      cases before with
      | nil =>
        cases same
        exact room
      | cons other before =>
        cases same
        exact rest before event after rfl
    · intro before event after same
      exact all (first :: before) event after (by rw [same, List.cons_append])

/-! ### Publishing what was merged -/

open Document Schema

/-- The first member of a record is valid by itself. -/
theorem valid_record_cons_iff {name : String} {schema : Schema} {value : Document}
    {properties : List (String × Bool × Schema)} {slots : List (String × Option Document)}
    (other : name ∉ properties.map Prod.fst) :
    (object ((name, true, schema) :: properties)).valid (record ((name, some value) :: slots)) = true ↔
      schema.valid value = true ∧
        (∀ member ∈ present slots,
          member.1 ∈ (name :: properties.map Prod.fst).map PyString.ofString) ∧
        ∀ property ∈ properties,
          validMember property.2.1 property.2.2 (PyValue.field (present slots) property.1) = true := by
  have first : PyValue.field (present ((name, some value) :: slots)) name = some value := by simp
  have later : ∀ property ∈ properties, PyValue.field (present ((name, some value) :: slots)) property.1 =
      PyValue.field (present slots) property.1 := by
    intro property member
    have apart : name ≠ property.1 := fun same => other (same ▸ List.mem_map_of_mem member)
    simp [apart]
  rw [valid_object_iff]
  constructor
  · rintro ⟨fields, same, known, members⟩
    cases same
    obtain ⟨valid, members⟩ := List.forall_mem_cons.mp members
    rw [first] at valid
    exact ⟨valid, fun member inside => known member (List.mem_cons_of_mem _ inside),
      fun property member => later property member ▸ members property member⟩
  · rintro ⟨valid, known, members⟩
    refine ⟨_, rfl, fun member inside => ?_, List.forall_mem_cons.mpr ⟨?_, fun property member => ?_⟩⟩
    · rcases List.mem_cons.mp inside with rfl | inside
      · exact List.mem_cons_self
      · exact known member inside
    · rw [first]
      exact valid
    · rw [later property member]
      exact members property member

/-- A document of an event is valid with another id exactly if that is one. -/
theorem valid_renumbered_iff {other : EventCandidate} (renumbered : Renumbered event other)
    (valid : (EventSchema.event host).valid (eventDocument event) = true) :
    (EventSchema.event host).valid (eventDocument other) = true ↔ ValidId other.candidateId := by
  obtain ⟨identity, rfl⟩ : ∃ identity, other = { event with candidateId := identity } :=
    ⟨_, renumbered⟩
  have rest := ((valid_record_cons_iff (by simp)).mp valid).2
  exact ⟨fun accepted => ((valid_record_cons_iff (by simp)).mp accepted).1,
    fun identity => (valid_record_cons_iff (by simp)).mpr ⟨identity, rest⟩⟩

/-! ### Passes -/

/-- A pass ended with an accepted reply to a request. -/
structure Returned (host : EventHost) (requestId : PyString) (pass : Document × GroundedEventResult) :
    Prop where
  accepted : parseGroundedEventResult host pass.1 = .ok pass.2
  requested : pass.2.requestId = requestId

/-- How many events a reply contained. -/
def contained (document : Document) : Nat := (itemsField (fieldsOf document) "events").length

variable {requestId : PyString} {pass : Document × GroundedEventResult}

/-- A pass is refused exactly if it has no event. -/
theorem Returned.refused_iff (returned : Returned host requestId pass) :
    pass.2.outcome = .ofString "refused" ↔ pass.2.events = [] := by
  obtain ⟨_, fitting, events, all, _, same⟩ := parseGroundedEventResult_eq_ok.mp returned.accepted
  have none : pass.2.events = [] ↔ itemsField (fieldsOf pass.1) "events" = [] := by
    have length := all.length_eq
    rw [same]
    change firsts _ events = [] ↔ _
    rw [firsts_eq_nil, ← List.length_eq_zero_iff, ← length, List.length_eq_zero_iff]
  have outcome : pass.2.outcome = textField (fieldsOf pass.1) "outcome" := by rw [same]; rfl
  rw [none, outcome]
  rw [Fitting] at fitting
  split_ifs at fitting with refused
  · exact iff_of_true refused fitting.1
  · exact iff_of_false refused fitting.1

/-- The events of a pass, and those that it dropped, are the events of the reply. -/
theorem Returned.contained_eq (returned : Returned host requestId pass) :
    contained pass.1 = pass.2.events.length + pass.2.duplicatesDropped := by
  obtain ⟨_, _, events, all, _, same⟩ := parseGroundedEventResult_eq_ok.mp returned.accepted
  have fewer := (@firstsAfter_sublist _ _ _ (duplicateKey host) [] events).length_le
  rw [contained, all.length_eq, same]
  exact (Nat.add_sub_cancel' fewer).symm

/-- The events of a pass have valid documents. -/
theorem Returned.valid_event (returned : Returned host requestId pass)
    (member : event ∈ pass.2.events) :
    (EventSchema.event host).valid (eventDocument event) = true := by
  obtain ⟨raw, _, valid, admitted⟩ := admitted_of_accepted returned.accepted member
  exact (@restated_event ["needs", "readAs"] host raw event (by simp) valid admitted.pending
    admitted.parsed (.inl (by simp))).valid

theorem Returned.validId (returned : Returned host requestId pass) (member : event ∈ pass.2.events) :
    ValidId event.candidateId :=
  (valid_renumbered_iff (show Renumbered event event from rfl) (returned.valid_event member)).mp
    (returned.valid_event member)

/-- The members of a reply that a merged result takes over are valid. -/
theorem Returned.valid_texts (returned : Returned host requestId pass) :
    EventPattern.found EventPattern.identifier requestId = true ∧
      (Schema.string 0 (some 500)).valid (.str pass.2.detail) = true := by
  obtain ⟨valid, _, events, _, _, same⟩ := parseGroundedEventResult_eq_ok.mp returned.accepted
  obtain ⟨fields, dict, _, members⟩ := valid_object_iff.mp valid
  have text : ∀ key schema, Textual schema →
      validMember true schema (PyValue.field fields key) = true →
        schema.valid (.str (textField fields key)) = true := by
    intro key schema textual accepted
    rw [textField]
    cases found : PyValue.field fields key with
    | none =>
      rw [found] at accepted
      cases accepted
    | some value =>
      rw [found] at accepted
      obtain ⟨text, rfl⟩ := textual value accepted
      exact accepted
  have requested := text "requestId" _ (textual_pattern _)
    (members ("requestId", true, .pattern (EventPattern.found EventPattern.identifier)) (by simp))
  have detail := text "detail" _ (textual_string _ _)
    (members ("detail", true, .string 0 (some 500)) (by simp))
  rw [← returned.requested, same, dict]
  exact ⟨requested, detail⟩

/-! ### Merging well -/

/-- A result merges passes well. -/
structure MergesWell (host : EventHost) (passes : List (Document × GroundedEventResult))
    (merged : GroundedEventResult) : Prop where
  /-- The events are the first of each key, in order. -/
  kept : List.Forall₂ Renumbered
    (firsts (duplicateKey host) (passes.flatMap fun pass => pass.2.events)) merged.events
  distinct : (merged.events.map (·.candidateId)).Nodup
  valid : ∀ event ∈ merged.events, ValidId event.candidateId
  published : ∃ document, groundedEventDocument host merged = .ok document
  refused : merged.outcome = .ofString "refused" ↔
    ∀ pass ∈ passes, pass.2.outcome = .ofString "refused"
  partly : merged.outcome = .ofString "partial" ↔
    (∃ pass ∈ passes, pass.2.outcome = .ofString "partial") ∧ ∃ pass ∈ passes, pass.2.events ≠ []
  /-- No event of a reply is lost from the count. -/
  counted : merged.events.length + merged.duplicatesDropped =
    (passes.map fun pass => contained pass.1).sum

/-- What merging returns: the events and the count of what was merged, and an outcome that says what was
found. -/
theorem merge_eq_ok {results : List GroundedEventResult} (nonempty : results ≠ [])
    (ran : merge host results requestId = .ok merged) :
    let run := results.foldl (Merged.addPass host) .empty
    merged.requestId = requestId ∧ merged.events = run.events ∧
      merged.duplicatesDropped = run.duplicates ∧
      (merged.outcome = .ofString "refused" ↔ run.events = []) ∧
      (merged.outcome = .ofString "partial" ↔
        (∃ result ∈ results, result.outcome = .ofString "partial") ∧ run.events ≠ []) ∧
      merged.outcome ∈ ["succeeded", "partial", "refused"].map PyString.ofString ∧
      merged.code ∈ ["events-extracted", "no-event-found"].map PyString.ofString ∧
      (merged.detail ∈ ["", "some selected material could not be read"].map PyString.ofString ∨
        ∃ result ∈ results, merged.detail = result.detail) := by
  intro run
  rw [merge, if_neg (by simpa using nonempty)] at ran
  dsimp only at ran
  have apart : ∀ first second : String, first ≠ second →
      PyString.ofString first ≠ PyString.ofString second := fun _ _ other same => other (ofString_inj.mp same)
  have found : PyString.ofString "partial" ∈ results.map (·.outcome) ↔
      ∃ result ∈ results, result.outcome = .ofString "partial" := List.mem_map
  split_ifs at ran with none partly
  · cases ran
    have nothing : run.events = [] := List.isEmpty_iff.mp none
    refine ⟨rfl, nothing.symm, rfl, iff_of_true rfl nothing,
      iff_of_false (apart _ _ (by decide)) fun both => both.2 nothing, by simp, by simp, ?_⟩
    cases first : results.find? fun result => !result.detail.isEmpty with
    | none => exact .inl List.mem_cons_self
    | some result => exact .inr ⟨result, List.mem_of_find?_eq_some first, rfl⟩
  · cases ran
    have something : run.events ≠ [] := fun nothing => none (List.isEmpty_iff.mpr nothing)
    exact ⟨rfl, rfl, rfl, iff_of_false (apart _ _ (by decide)) something,
      iff_of_true rfl ⟨found.mp (of_decide_eq_true partly), something⟩, by simp, by simp,
      .inl (by simp)⟩
  · cases ran
    have something : run.events ≠ [] := fun nothing => none (List.isEmpty_iff.mpr nothing)
    exact ⟨rfl, rfl, rfl, iff_of_false (apart _ _ (by decide)) something,
      iff_of_false (apart _ _ (by decide)) fun both => partly (decide_eq_true (found.mpr both.1)),
      by simp, by simp, .inl (by simp)⟩

theorem exists_merge {results : List GroundedEventResult} (nonempty : results ≠ []) :
    ∃ merged, merge host results requestId = .ok merged := by
  rw [merge, if_neg (by simpa using nonempty)]
  dsimp only
  split_ifs
  · exact ⟨_, rfl⟩
  · exact ⟨_, rfl⟩
  · exact ⟨_, rfl⟩

/-- A merged result is published exactly if its ids are valid. -/
theorem published_merged_iff (nonempty : passes ≠ [])
    (returned : ∀ pass ∈ passes, Returned host requestId pass)
    (ran : merge host (passes.map Prod.snd) requestId = .ok merged) :
    (∃ document, groundedEventDocument host merged = .ok document) ↔
      ∀ event ∈ merged.events, ValidId event.candidateId := by
  obtain ⟨requested, events, _, refused, _, outcome, code, detail⟩ :=
    merge_eq_ok (by simpa using nonempty) ran
  have kept := (@sound_merged host (passes.map Prod.snd)).kept
  have renumbered : ∀ event ∈ merged.events, ∃ pass ∈ passes, ∃ first ∈ pass.2.events,
      Renumbered first event := by
    intro event member
    obtain ⟨first, inside, same⟩ := exists_of_mem_forall₂ kept event (events ▸ member)
    obtain ⟨result, there, within⟩ := List.mem_flatMap.mp ((firstsAfter_sublist [] _).subset inside)
    obtain ⟨pass, passMember, rfl⟩ := List.mem_map.mp there
    exact ⟨pass, passMember, first, within, same⟩
  have valid : ∀ event ∈ merged.events,
      ((EventSchema.event host).valid (eventDocument event) = true ↔ ValidId event.candidateId) := by
    intro event member
    obtain ⟨pass, passMember, first, within, same⟩ := renumbered event member
    exact valid_renumbered_iff same ((returned pass passMember).valid_event within)
  have pending : ∀ event ∈ merged.events, event.confirmation = .pending := by
    intro event member
    obtain ⟨pass, passMember, first, within, same⟩ := renumbered event member
    obtain ⟨_, _, _, admitted⟩ := admitted_of_accepted (returned pass passMember).accepted within
    rw [same]
    exact congrArg EventCandidate.confirmation (parseEvent_eq_ok admitted.parsed).2.2.2.2
  have state : merged.confirmationState ∈ ["pending", "refused"] := by
    have undecided : (merged.events.all fun event => decide (event.confirmation = .pending)) = true :=
      List.all_eq_true.mpr fun event member => decide_eq_true (pending event member)
    rw [GroundedEventResult.confirmationState, undecided, if_pos rfl]
    split_ifs
    · exact List.mem_cons_of_mem _ List.mem_cons_self
    · exact List.mem_cons_self
  have published : (EventSchema.result host).valid (resultDocument merged) = true ↔
      ∀ event ∈ merged.events, ValidId event.candidateId := by
    constructor
    · intro accepted event member
      obtain ⟨fields, same, _, members⟩ := valid_object_iff.mp accepted
      cases same
      have items := members ("events", true, .array 0 (EventSchema.event host)) (by simp)
      refine (valid event member).mp (valid_of_mem_itemsField items ?_)
      simpa [itemsField] using ⟨event, member, rfl⟩
    · intro identities
      obtain ⟨first, firstMember⟩ := List.exists_mem_of_ne_nil _ nonempty
      have identified := (returned first firstMember).valid_texts.1
      have detailed : (Schema.string 0 (some 500)).valid (.str merged.detail) = true := by
        rcases detail with fixed | ⟨result, member, same⟩
        · simp only [List.map_cons, List.map_nil, List.mem_cons, List.not_mem_nil, or_false] at fixed
          rcases fixed with same | same <;> rw [same] <;> rfl
        · obtain ⟨pass, inside, rfl⟩ := List.mem_map.mp member
          rw [same]
          exact (returned pass inside).valid_texts.2
      refine valid_present (by simp) ?_
      simp only [List.forall_mem_cons, field_present_cons, field_present_nil, reduceIte,
        String.reduceEq, Option.some_or, Option.or_none]
      refine ⟨rfl, ?_, ?_, ?_, detailed, rfl, ?_, ?_, List.forall_mem_nil _⟩
      · rw [requested]
        exact identified
      · exact decide_eq_true outcome
      · simp only [List.map_cons, List.map_nil, List.mem_cons, List.not_mem_nil, or_false] at code
        rcases code with same | same <;> rw [same] <;> rfl
      · simp only [List.mem_cons, List.not_mem_nil, or_false] at state
        rcases state with same | same <;> rw [same] <;> rfl
      · refine valid_array_iff.mpr ⟨_, rfl, Nat.zero_le _, fun item member => ?_⟩
        obtain ⟨event, inside, rfl⟩ := List.mem_map.mp member
        exact (valid event inside).mpr (identities event inside)
  rw [← published, groundedEventDocument]
  constructor
  · rintro ⟨document, written⟩
    split_ifs at written with invalid
    simpa using invalid
  · intro accepted
    exact ⟨_, if_neg (by simp [accepted])⟩

/-- What merging always does well. -/
theorem mergesWell_iff (nonempty : passes ≠ [])
    (returned : ∀ pass ∈ passes, Returned host requestId pass)
    (ran : merge host (passes.map Prod.snd) requestId = .ok merged) :
    MergesWell host passes merged ↔
      (∀ event ∈ merged.events, ValidId event.candidateId) ∧
        merged.events.length + merged.duplicatesDropped =
          (passes.map fun pass => contained pass.1).sum := by
  refine ⟨fun well => ⟨well.valid, well.counted⟩, fun ⟨valid, counted⟩ => ?_⟩
  have published := (published_merged_iff nonempty returned ran).mpr valid
  obtain ⟨_, events, _, refused, partly, _⟩ := merge_eq_ok (by simpa using nonempty) ran
  have sound := @sound_merged host (passes.map Prod.snd)
  have flat : (passes.map Prod.snd).flatMap (·.events) = passes.flatMap fun pass => pass.2.events :=
    List.flatMap_map _ _ _
  have none : merged.events = [] ↔ ∀ pass ∈ passes, pass.2.events = [] := by
    rw [events, ← List.length_eq_zero_iff, ← sound.kept.length_eq, List.length_eq_zero_iff,
      firsts_eq_nil, flat, List.flatMap_eq_nil_iff]
  refine ⟨flat ▸ events ▸ sound.kept, ?_, valid, published, ?_, ?_, counted⟩
  · rw [events, ← sound.ids]
    exact sound.distinct
  · rw [refused, ← events, none]
    exact forall₂_congr fun pass member => (returned pass member).refused_iff.symm
  · rw [partly, ← events, ne_eq, none]
    refine and_congr ⟨?_, ?_⟩ (by simp only [not_forall, exists_prop, ne_eq])
    · rintro ⟨result, member, same⟩
      obtain ⟨pass, inside, rfl⟩ := List.mem_map.mp member
      exact ⟨pass, inside, same⟩
    · rintro ⟨pass, inside, same⟩
      exact ⟨pass.2, List.mem_map_of_mem inside, same⟩

/-- Merging counts every event of the replies exactly if no pass had dropped one. -/
theorem counted_iff (nonempty : passes ≠ [])
    (returned : ∀ pass ∈ passes, Returned host requestId pass)
    (ran : merge host (passes.map Prod.snd) requestId = .ok merged) :
    merged.events.length + merged.duplicatesDropped = (passes.map fun pass => contained pass.1).sum ↔
      ∀ pass ∈ passes, pass.2.duplicatesDropped = 0 := by
  obtain ⟨_, events, dropped, _⟩ := merge_eq_ok (by simpa using nonempty) ran
  have sound := @sound_merged host (passes.map Prod.snd)
  have total : (passes.map fun pass => contained pass.1).sum =
      ((passes.map Prod.snd).flatMap (·.events)).length +
        (passes.map fun pass => pass.2.duplicatesDropped).sum := by
    rw [List.length_flatMap, List.map_map, ← List.sum_map_add]
    exact congrArg List.sum (List.map_congr_left fun pass member => (returned pass member).contained_eq)
  rw [events, dropped, sound.counted, total, Nat.left_eq_add, List.sum_eq_zero_iff]
  exact List.forall_mem_map

/-- Merging the passes of a request keeps every event once, can be published and loses no count, if and
only if no pass had dropped a duplicate, and the first event of a key always finds room for its id. -/
theorem merge_well_iff {passes : List (Document × GroundedEventResult)} (nonempty : passes ≠ [])
    (returned : ∀ pass ∈ passes, Returned host requestId pass) :
    (∃ merged, merge host (passes.map Prod.snd) requestId = .ok merged ∧
        MergesWell host passes merged) ↔
      (∀ pass ∈ passes, pass.2.duplicatesDropped = 0) ∧ ∀ before event after,
        (passes.flatMap fun pass => pass.2.events) = before ++ event :: after →
          (before.foldl (Merged.add host) .empty).HasRoom host event := by
  have flat : (passes.map Prod.snd).flatMap (·.events) = passes.flatMap fun pass => pass.2.events :=
    List.flatMap_map _ _ _
  have identities : ∀ event ∈ passes.flatMap fun pass => pass.2.events, ValidId event.candidateId := by
    intro event member
    obtain ⟨pass, inside, within⟩ := List.mem_flatMap.mp member
    exact (returned pass inside).validId within
  have room : ∀ merged, merge host (passes.map Prod.snd) requestId = .ok merged →
      ((∀ event ∈ merged.events, ValidId event.candidateId) ↔ ∀ before event after,
        (passes.flatMap fun pass => pass.2.events) = before ++ event :: after →
          (before.foldl (Merged.add host) .empty).HasRoom host event) := by
    intro merged ran
    obtain ⟨_, events, _⟩ := merge_eq_ok (by simpa using nonempty) ran
    have sound := @sound_merged host (passes.map Prod.snd)
    have valid := @validIds_foldl_iff host _ .empty identities
    rw [← flat, ← foldl_addPass, sound.ids, List.forall_mem_map, ← events] at valid
    rw [valid, ← flat]
    exact and_iff_right nofun
  constructor
  · rintro ⟨merged, ran, well⟩
    obtain ⟨valid, counted⟩ := (mergesWell_iff nonempty returned ran).mp well
    exact ⟨(counted_iff nonempty returned ran).mp counted, (room merged ran).mp valid⟩
  · rintro ⟨once, rooms⟩
    obtain ⟨merged, ran⟩ := @exists_merge host requestId (passes.map Prod.snd) (by simpa using nonempty)
    exact ⟨merged, ran, (mergesWell_iff nonempty returned ran).mpr
      ⟨(room merged ran).mpr rooms, (counted_iff nonempty returned ran).mpr once⟩⟩

/-- A reply with one event, whose id is always the same. -/
def numberedReply (label : String) : Document :=
  replyOf [statedEvent "event-1" label "text" [("date", textDocument "unknown")] []]

/-- The passes of one request over two sources that number their one event alike. -/
theorem merge_well_iff_numbered :
    ∃ first second merged, parseGroundedEventResult plainHost (numberedReply "a") = .ok first ∧
      parseGroundedEventResult plainHost (numberedReply "b") = .ok second ∧
      merge plainHost [first, second] (.ofString "request") = .ok merged ∧
      MergesWell plainHost [(numberedReply "a", first), (numberedReply "b", second)] merged := by
  have first := (rfl : parseGroundedEventResult plainHost (numberedReply "a") = .ok _)
  have second := (rfl : parseGroundedEventResult plainHost (numberedReply "b") = .ok _)
  have returned : ∀ pass ∈ [(numberedReply "a", _), (numberedReply "b", _)],
      Returned plainHost (.ofString "request") pass :=
    List.forall_mem_cons.mpr ⟨⟨first, rfl⟩, List.forall_mem_singleton.mpr ⟨second, rfl⟩⟩
  obtain ⟨merged, ran, well⟩ := (merge_well_iff (List.cons_ne_nil _ _) returned).mpr (by
    refine ⟨List.forall_mem_cons.mpr ⟨rfl, List.forall_mem_singleton.mpr rfl⟩, ?_⟩
    intro before event after same
    rcases before with _ | ⟨one, _ | ⟨two, before⟩⟩
    · exact fun _ taken => absurd taken List.not_mem_nil
    · cases same
      exact fun _ _ => ⟨2, Nat.le_refl 2, by decide, rfl⟩
    · have length := congrArg List.length same
      simp only [List.length_append, List.length_cons] at length
      change 2 = _ at length
      omega)
  exact ⟨_, _, merged, first, second, ran, well⟩

/-- What a pass dropped itself is not counted when it is merged. -/
theorem not_merge_well : ¬ ∀ (host : EventHost) (requestId : PyString)
    (passes : List (Document × GroundedEventResult)), passes ≠ [] →
      (∀ pass ∈ passes, Returned host requestId pass) →
      ∃ merged, merge host (passes.map Prod.snd) requestId = .ok merged ∧
        MergesWell host passes merged := by
  intro claim
  have repeated := (rfl : parseGroundedEventResult plainHost (replyOf [
    statedEvent "event-1" "a" "text" [("date", textDocument "unknown")] [],
    statedEvent "event-2" "a" "text" [("date", textDocument "unknown")] []]) = .ok _)
  have returned : ∀ pass ∈ [(_, _)], Returned plainHost (.ofString "request") pass :=
    List.forall_mem_singleton.mpr ⟨repeated, rfl⟩
  obtain ⟨merged, ran, well⟩ := claim plainHost _ _ (List.cons_ne_nil _ _) returned
  have once := (counted_iff (List.cons_ne_nil _ _) returned ran).mp well.counted
  exact absurd (once _ List.mem_cons_self) (by decide)

end Events

end Omnitensor
