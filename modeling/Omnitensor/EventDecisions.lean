/-
This file proves what reaches a calendar, over any sequence of calls.

Every event that is passed to a calendar or rendered was named in the confirmed ids of a decision, and
since that decision its result was only merged. What a person rejected or left undecided stays back, and a
reply cannot claim a decision. The identity of a rendered event is made of its id, date and time: two
events of different label or place share it if they share these, so they are kept apart exactly as far as
every call of the renderer keeps them apart.
-/

import Omnitensor.EventConfirmation
import Omnitensor.EventPatterns

namespace Omnitensor

namespace Events

open Document Schema

/-! ### Decisions -/

variable {event first second : EventCandidate} {result decided : GroundedEventResult}
  {text : PyString} {confirmedIds rejectedIds : List PyString}

/-- What it takes to decide the candidates of a result. -/
theorem confirmEventCandidates_eq_ok
    (ran : confirmEventCandidates result confirmedIds rejectedIds = .ok decided) :
    (∀ identity ∈ confirmedIds, identity ∉ rejectedIds) ∧
      decided = { result with events := result.events.map fun event => { event with
        confirmation := if event.candidateId ∈ confirmedIds then .confirmed else .rejected } } := by
  have same : ∀ {values ids : List PyString} {label : String},
      decisionIds values label = .ok ids → ids = values := by
    intro values ids label read
    rw [decisionIds] at read
    split_ifs at read
    · cases read
    · exact (Except.ok.inj read).symm
  rw [confirmEventCandidates] at ran
  split_ifs at ran with refused
  · cases ran
  obtain ⟨confirmed, readConfirmed, next⟩ := bind_eq_ok.mp ran
  obtain ⟨rejected, readRejected, last⟩ := bind_eq_ok.mp next
  obtain rfl := same readConfirmed
  obtain rfl := same readRejected
  dsimp only at last
  split_ifs at last with both every
  · cases last
  · cases last
    exact ⟨fun identity member rejected => both ⟨identity, member, rejected⟩, rfl⟩
  · cases last

/-- An event that a decision confirmed was named by it. -/
theorem named_of_confirmed
    (ran : confirmEventCandidates result confirmedIds rejectedIds = .ok decided)
    (member : event ∈ decided.events) (state : event.confirmation = .confirmed) :
    event.candidateId ∈ confirmedIds ∧ event.candidateId ∉ rejectedIds ∧
      ∃ origin ∈ result.events, origin.candidateId = event.candidateId ∧
        event = { origin with confirmation := .confirmed } := by
  obtain ⟨apart, rfl⟩ := confirmEventCandidates_eq_ok ran
  obtain ⟨origin, inside, rfl⟩ := List.mem_map.mp member
  have named : origin.candidateId ∈ confirmedIds := by
    by_contra other
    exact absurd ((if_neg other).symm.trans state) nofun
  refine ⟨named, apart _ named, origin, inside, rfl, ?_⟩
  rw [if_pos named]

theorem mem_of_confirmedEvents {events : List EventCandidate}
    (ran : confirmedEvents result = .ok events) : ∀ event ∈ events,
      event ∈ result.events ∧ event.confirmation = .confirmed := by
  rw [confirmedEvents] at ran
  dsimp only at ran
  split_ifs at ran with undecided none
  · cases ran
  · cases ran
  · cases ran
    intro event member
    obtain ⟨inside, confirmed⟩ := List.mem_filter.mp member
    exact ⟨inside, of_decide_eq_true confirmed⟩

/-! ### Provenance -/

/-- One result comes from another by merging alone. -/
inductive Descends (merges : List (List GroundedEventResult × GroundedEventResult))
    (origin : GroundedEventResult) : GroundedEventResult → Prop where
  | refl : Descends merges origin origin
  | merged {results : List GroundedEventResult} {result merged : GroundedEventResult}
      (descends : Descends merges origin result) (member : result ∈ results)
      (known : (results, merged) ∈ merges) : Descends merges origin merged

theorem Descends.mono {merges later : List (List GroundedEventResult × GroundedEventResult)}
    {origin : GroundedEventResult} (descends : Descends merges origin result)
    (more : merges ⊆ later) : Descends later origin result := by
  induction descends with
  | refl => exact .refl
  | merged _ member known inductionHypothesis => exact .merged inductionHypothesis member (more known)

theorem Renumbered.trans {third : EventCandidate} (one : Renumbered first second)
    (two : Renumbered second third) : Renumbered first third := by
  rw [Renumbered] at one two ⊢
  rw [two, one]

namespace Desk

/-- A person confirmed an event of a result: a decision named it, under the id it had, and since then its
result was only merged. -/
def Confirmed (desk : Desk) (result : GroundedEventResult) (event : EventCandidate) : Prop :=
  ∃ decision ∈ desk.decisions, Descends desk.merges decision.after result ∧
    ∃ origin ∈ decision.before.events, origin.candidateId ∈ decision.confirmedIds ∧
      origin.candidateId ∉ decision.rejectedIds ∧
      Renumbered { origin with confirmation := .confirmed } event

/-- An event of a result may leave: it was confirmed, and by every decision that made this result. -/
structure Released (desk : Desk) (result : GroundedEventResult) (event : EventCandidate) : Prop where
  state : event.confirmation = .confirmed
  confirmed : desk.Confirmed result event
  decided : ∀ decision ∈ desk.decisions, decision.after = result →
    event.candidateId ∈ decision.confirmedIds ∧ event.candidateId ∉ decision.rejectedIds

/-- What was returned and done is traced to decisions. -/
structure Traced (desk : Desk) : Prop where
  results : ∀ result ∈ desk.results, ∀ event ∈ result.events,
    event.confirmation = .confirmed → desk.Confirmed result event
  decisions : ∀ decision ∈ desk.decisions,
    confirmEventCandidates decision.before decision.confirmedIds decision.rejectedIds =
      .ok decision.after
  sent : ∀ entry ∈ desk.written ++ desk.rendered,
    entry.1 ∈ desk.results ∧ entry.2 ∈ entry.1.events ∧ entry.2.confirmation = .confirmed

variable {desk later : Desk} {result : GroundedEventResult} {event : EventCandidate}

theorem Confirmed.mono (confirmed : desk.Confirmed result event)
    (decisions : desk.decisions ⊆ later.decisions) (merges : desk.merges ⊆ later.merges) :
    later.Confirmed result event := by
  obtain ⟨decision, member, descends, origin⟩ := confirmed
  exact ⟨decision, decisions member, descends.mono merges, origin⟩

variable {digest : List UInt8 → PyString} {host : EventHost}

/-- An event that is merged was one of a pass. -/
theorem renumbered_of_merge {results : List GroundedEventResult} {requestId : PyString}
    {merged : GroundedEventResult} (ran : Events.merge host results requestId = .ok merged)
    (member : event ∈ merged.events) :
    ∃ result ∈ results, ∃ first ∈ result.events, Renumbered first event := by
  have nonempty : results ≠ [] := by
    rintro rfl
    cases ran
  obtain ⟨_, events, _⟩ := merge_eq_ok nonempty ran
  obtain ⟨first, inside, same⟩ :=
    exists_of_mem_forall₂ (@sound_merged host results).kept event (events ▸ member)
  obtain ⟨result, there, within⟩ := List.mem_flatMap.mp ((firstsAfter_sublist [] _).subset inside)
  exact ⟨result, there, first, within, same⟩

/-- A result with what is known of its events is added to what was returned. -/
theorem Traced.add (traced : desk.Traced) (results : later.results = desk.results ++ [result])
    (decisions : desk.decisions ⊆ later.decisions) (merges : desk.merges ⊆ later.merges)
    (known : ∀ event ∈ result.events, event.confirmation = .confirmed → later.Confirmed result event)
    (decided : ∀ decision ∈ later.decisions, decision ∈ desk.decisions ∨
      confirmEventCandidates decision.before decision.confirmedIds decision.rejectedIds =
        .ok decision.after) (written : later.written = desk.written)
    (rendered : later.rendered = desk.rendered) : later.Traced := by
  refine ⟨fun other member event inside state => ?_, fun decision member => ?_, fun entry member => ?_⟩
  · rw [results] at member
    rcases List.mem_append.mp member with member | last
    · exact (traced.results other member event inside state).mono decisions merges
    · obtain rfl := List.mem_singleton.mp last
      exact known event inside state
  · exact (decided decision member).elim (traced.decisions decision) id
  · rw [written, rendered] at member
    obtain ⟨there, rest⟩ := traced.sent entry member
    exact ⟨results ▸ List.mem_append_left _ there, rest⟩

theorem Traced.step (traced : desk.Traced) (call : Call) : (desk.step digest host call).Traced := by
  cases call with
  | parse document =>
    rw [Desk.step]
    split
    · exact traced
    · rename_i result accepted
      refine traced.add rfl (List.Subset.refl _) (List.Subset.refl _) (fun event inside state => ?_)
        (fun decision member => .inl member) rfl rfl
      obtain ⟨raw, _, _, admitted⟩ := admitted_of_accepted accepted inside
      have pending : event.confirmation = .pending :=
        congrArg EventCandidate.confirmation (parseEvent_eq_ok admitted.parsed).2.2.2.2
      exact absurd (pending.symm.trans state) nofun
  | merge results requestId =>
    rw [Desk.step]
    split_ifs with there
    · split
      · exact traced
      · rename_i merged ran
        refine traced.add rfl (List.Subset.refl _) (List.subset_append_left _ _)
          (fun event inside state => ?_) (fun decision member => .inl member) rfl rfl
        obtain ⟨result, member, first, within, same⟩ := renumbered_of_merge ran inside
        have firstState : first.confirmation = .confirmed := by
          rw [same] at state
          exact state
        obtain ⟨decision, decided, descends, origin, originMember, named, kept, renumbered⟩ :=
          traced.results result (there result member) first within firstState
        exact ⟨decision, decided,
          .merged (descends.mono (List.subset_append_left _ _)) member
            (List.mem_append_right _ (List.mem_singleton_self _)),
          origin, originMember, named, kept, renumbered.trans same⟩
    · exact traced
  | confirm result confirmedIds rejectedIds =>
    rw [Desk.step]
    split_ifs with there
    · split
      · exact traced
      · rename_i decided ran
        refine traced.add rfl (List.subset_append_left _ _) (List.Subset.refl _)
          (fun event inside state => ?_) (fun decision member => ?_) rfl rfl
        · obtain ⟨named, kept, origin, member, same, made⟩ := named_of_confirmed ran inside state
          rw [← same] at named kept
          refine ⟨_, List.mem_append_right _ (List.mem_singleton_self _), .refl, origin, member,
            named, kept, ?_⟩
          rw [made]
          rfl
        · rcases List.mem_append.mp member with member | last
          · exact .inl member
          · obtain rfl := List.mem_singleton.mp last
            exact .inr ran
    · exact traced
  | write result taken =>
    rw [Desk.step]
    split_ifs with there
    · split
      · exact traced
      · rename_i events ran
        refine ⟨traced.results, traced.decisions, fun entry member => ?_⟩
        rcases List.mem_append.mp member with member | member
        · rcases List.mem_append.mp member with member | new
          · exact traced.sent entry (List.mem_append_left _ member)
          · obtain ⟨event, inside, rfl⟩ := List.mem_map.mp new
            exact ⟨there, mem_of_confirmedEvents ran event (List.mem_of_mem_take inside)⟩
        · exact traced.sent entry (List.mem_append_right _ member)
    · exact traced
  | render result =>
    rw [Desk.step]
    split_ifs with there
    · split
      · rename_i events _ ran _
        refine ⟨traced.results, traced.decisions, fun entry member => ?_⟩
        rcases List.mem_append.mp member with member | member
        · exact traced.sent entry (List.mem_append_left _ member)
        · rcases List.mem_append.mp member with member | new
          · exact traced.sent entry (List.mem_append_right _ member)
          · obtain ⟨event, inside, rfl⟩ := List.mem_map.mp new
            exact ⟨there, mem_of_confirmedEvents ran event inside⟩
      · exact traced
    · exact traced

theorem traced_run (calls : List Call) {desk : Desk} (traced : desk.Traced) :
    (desk.run digest host calls).Traced := by
  induction calls generalizing desk with
  | nil => exact traced
  | cons call calls inductionHypothesis => exact inductionHypothesis (traced.step call)

theorem traced_empty : empty.Traced where
  results _ member := absurd member List.not_mem_nil
  decisions _ member := absurd member List.not_mem_nil
  sent _ member := absurd member List.not_mem_nil

/-- What was passed on was released. -/
theorem Traced.released (traced : desk.Traced) :
    ∀ entry ∈ desk.written ++ desk.rendered, desk.Released entry.1 entry.2 := by
  intro entry member
  obtain ⟨there, inside, state⟩ := traced.sent entry member
  refine ⟨state, traced.results _ there _ inside state, fun decision known same => ?_⟩
  obtain ⟨named, kept, _⟩ :=
    named_of_confirmed (traced.decisions decision known) (same ▸ inside) state
  exact ⟨named, kept⟩

end Desk

/-! ### Identities -/

/-- A text that has bytes, none of which is null. -/
def Clean (text : PyString) : Prop := ∃ chars : List Char, text = .ofChars chars ∧ '\x00' ∉ chars

theorem clean_of_found {pattern : List Char → Bool}
    (nonnull : ∀ chars, pattern chars = true → '\x00' ∉ chars ∧ chars ≠ [])
    (found : EventPattern.found pattern text = true) : Clean text ∧ text ≠ [] := by
  obtain ⟨chars, matched, rfl | rfl⟩ := EventPattern.found_iff.mp found
  · obtain ⟨null, some⟩ := nonnull chars matched
    exact ⟨⟨chars, rfl, null⟩, by simpa [PyString.ofChars] using some⟩
  · refine ⟨⟨_, rfl, ?_⟩, by simp [PyString.ofChars]⟩
    simpa using (nonnull chars matched).1

/-- Characters of a class without the null character. -/
theorem null_notMem_of_all {accepts : Char → Bool} {chars : List Char}
    (rejects : accepts '\x00' = false) (all : chars.all accepts = true) : '\x00' ∉ chars := by
  intro member
  have accepted := List.all_eq_true.mp all _ member
  rw [rejects] at accepted
  cases accepted

theorem ValidId.clean (valid : ValidId text) : Clean text := by
  refine (clean_of_found (fun chars matched => ?_) valid).1
  rw [EventPattern.identifier, EventPattern.repeated, Bool.and_eq_true, Bool.and_eq_true] at matched
  obtain ⟨⟨long, _⟩, all⟩ := matched
  refine ⟨null_notMem_of_all (by decide) all, ?_⟩
  rintro rfl
  cases long

theorem Clean.suffixed {identity : PyString} (clean : Clean identity) (suffix : Nat) :
    Clean (suffixed identity suffix) := by
  obtain ⟨chars, rfl, null⟩ := clean
  refine ⟨chars ++ '-' :: Nat.toDigits 10 suffix, (PyString.ofChars_append _ _).symm, fun member => ?_⟩
  rcases List.mem_append.mp member with member | member
  · exact null member
  · rcases List.mem_cons.mp member with same | member
    · exact absurd same (by decide)
    · exact absurd (Numeral.digit_of_mem_toDigits member) (by decide)

/-- The parts of the identity of an event are clean. -/
structure Plain (event : EventCandidate) : Prop where
  candidateId : Clean event.candidateId
  date : ∀ text ∈ event.when.date, Clean text ∧ text ≠ []
  time : ∀ text ∈ event.when.time, Clean text ∧ text ≠ []

variable {host : EventHost}

theorem plain_of_admitted {raw : Document} (valid : (EventSchema.event host).valid raw = true)
    (admitted : Admitted host raw event) : Plain event := by
  have read := whenRead_of_admitted valid admitted
  have identity : ValidId event.candidateId :=
    (valid_renumbered_iff (show Renumbered event event from rfl)
      (valid_eventDocument_of_admitted valid admitted)).mp
      (valid_eventDocument_of_admitted valid admitted)
  refine ⟨identity.clean, fun text stated => clean_of_found (fun chars matched => ?_)
    (read.date text stated), fun text stated => clean_of_found (fun chars matched => ?_)
    (read.time text stated)⟩
  · obtain ⟨length, all⟩ := EventPattern.date_eq_true matched
    exact ⟨null_notMem_of_all (by decide) all, fun empty => by simp [empty] at length⟩
  · obtain ⟨length, all⟩ := EventPattern.time_eq_true matched
    exact ⟨null_notMem_of_all (by decide) all, fun empty => by simp [empty] at length⟩

theorem Plain.renumbered (plain : Plain first) (same : Renumbered first second)
    (clean : Clean second.candidateId) : Plain second := by
  refine ⟨clean, ?_, ?_⟩ <;> rw [same]
  · exact plain.date
  · exact plain.time

theorem clean_foldl_add (events : List EventCandidate) {merged : Merged}
    (clean : ∀ event ∈ merged.events, Clean event.candidateId)
    (more : ∀ event ∈ events, Clean event.candidateId) :
    ∀ event ∈ (events.foldl (Merged.add host) merged).events, Clean event.candidateId := by
  induction events generalizing merged with
  | nil => exact clean
  | cons event events inductionHypothesis =>
    obtain ⟨first, more⟩ := List.forall_mem_cons.mp more
    refine inductionHypothesis (fun other member => ?_) more
    rw [Merged.add] at member
    split_ifs at member
    · exact clean other member
    · rcases List.mem_append.mp member with member | new
      · exact clean other member
      · rw [List.mem_singleton.mp new, withUniqueId]
        split_ifs
        · exact first.suffixed _
        · exact first

/-- Merged events are plain if those of the passes are. -/
theorem plain_of_merge {results : List GroundedEventResult} {requestId : PyString}
    {merged : GroundedEventResult} (ran : merge host results requestId = .ok merged)
    (plain : ∀ result ∈ results, ∀ event ∈ result.events, Plain event) :
    ∀ event ∈ merged.events, Plain event := by
  intro event member
  obtain ⟨result, there, first, within, same⟩ := Desk.renumbered_of_merge ran member
  refine (plain result there first within).renumbered same ?_
  have nonempty : results ≠ [] := List.ne_nil_of_mem there
  obtain ⟨_, events, _⟩ := merge_eq_ok nonempty ran
  rw [events, foldl_addPass] at member
  refine clean_foldl_add _ (fun _ inside => absurd inside List.not_mem_nil) (fun other inside => ?_)
    event member
  obtain ⟨result, there, within⟩ := List.mem_flatMap.mp inside
  exact (plain result there other within).candidateId

/-- Two events have the same id, date and time. -/
def SameIdentity (first second : EventCandidate) : Prop :=
  first.candidateId = second.candidateId ∧ first.when.date = second.when.date ∧
    first.when.time = second.when.time

/-- Texts up to a separator that they do not hold are the same if the whole texts are. -/
theorem append_separator_inj {Value : Type} {separator : Value} {first second : List Value}
    {rest other : List Value} (firstFree : separator ∉ first) (secondFree : separator ∉ second)
    (same : first ++ separator :: rest = second ++ separator :: other) :
    first = second ∧ rest = other := by
  induction first generalizing second with
  | nil =>
    cases second with
    | nil => exact ⟨rfl, List.tail_eq_of_cons_eq same⟩
    | cons value second =>
      exact absurd (List.mem_cons.mpr (.inl (List.head_eq_of_cons_eq same))) secondFree
  | cons value first inductionHypothesis =>
    cases second with
    | nil => exact absurd (List.mem_cons.mpr (.inl (List.head_eq_of_cons_eq same).symm)) firstFree
    | cons next second =>
      obtain ⟨rfl, later⟩ := List.cons_eq_cons.mp same
      obtain ⟨rfl, tails⟩ := inductionHypothesis (fun member => firstFree (List.mem_cons_of_mem _ member))
        (fun member => secondFree (List.mem_cons_of_mem _ member)) later
      exact ⟨rfl, tails⟩

theorem Clean.null_notMem (clean : Clean text) : CodePoint.scalar '\x00' ∉ text := by
  obtain ⟨chars, rfl, null⟩ := clean
  intro member
  obtain ⟨char, inside, same⟩ := List.mem_map.mp member
  cases same
  exact null inside

theorem clean_getD {text : Option PyString} (clean : ∀ said ∈ text, Clean said ∧ said ≠ []) :
    Clean (text.getD []) := by
  cases text with
  | none => exact ⟨[], rfl, List.not_mem_nil⟩
  | some text => exact (clean text rfl).1

theorem getD_inj {first second : Option PyString} (firstSome : ∀ said ∈ first, Clean said ∧ said ≠ [])
    (secondSome : ∀ said ∈ second, Clean said ∧ said ≠ [])
    (same : first.getD [] = second.getD []) : first = second := by
  cases first with
  | none =>
    cases second with
    | none => rfl
    | some text => exact absurd same.symm (secondSome text rfl).2
  | some text =>
    cases second with
    | none => exact absurd same (firstSome text rfl).2
    | some other => exact congrArg some same

/-- The text of an identity says which it is. -/
theorem sameIdentity_of_identityText (firstPlain : Plain first) (secondPlain : Plain second)
    (same : identityText first = identityText second) : SameIdentity first second := by
  simp only [identityText, List.append_assoc, List.singleton_append] at same
  obtain ⟨identity, rest⟩ := append_separator_inj firstPlain.candidateId.null_notMem
    secondPlain.candidateId.null_notMem same
  obtain ⟨date, time⟩ := append_separator_inj (clean_getD firstPlain.date).null_notMem
    (clean_getD secondPlain.date).null_notMem rest
  exact ⟨identity, getD_inj firstPlain.date secondPlain.date date,
    getD_inj firstPlain.time secondPlain.time time⟩

theorem encodable_identityText (plain : Plain event) : PyString.Encodable (identityText event) := by
  have encodable : ∀ {text}, Clean text → PyString.Encodable text := by
    rintro _ ⟨chars, rfl, _⟩
    exact PyString.encodable_ofChars chars
  have null : PyString.Encodable [.scalar '\x00'] := PyString.encodable_ofChars ['\x00']
  simp only [identityText, PyString.encodable_append]
  exact ⟨⟨⟨⟨encodable plain.candidateId, null⟩, encodable (clean_getD plain.date)⟩, null⟩,
    encodable (clean_getD plain.time)⟩

/-- Events have the same identity in a calendar exactly if they share id, date and time. -/
theorem calendarUid_eq_iff {digest : List UInt8 → PyString} (injective : Function.Injective digest)
    (firstPlain : Plain first) (secondPlain : Plain second) :
    calendarUid digest first = calendarUid digest second ↔ SameIdentity first second := by
  constructor
  · intro same
    obtain ⟨firstBytes, firstEncoded, _, firstBack⟩ :=
      PyString.encodeUtf8_of_encodable (encodable_identityText firstPlain)
    obtain ⟨secondBytes, secondEncoded, _, secondBack⟩ :=
      PyString.encodeUtf8_of_encodable (encodable_identityText secondPlain)
    rw [calendarUid, calendarUid, firstEncoded, secondEncoded, Option.map_some, Option.map_some,
      Option.some.injEq] at same
    have bytes := injective (List.append_cancel_right same)
    rw [bytes, secondBack] at firstBack
    exact sameIdentity_of_identityText firstPlain secondPlain (Option.some.inj firstBack).symm
  · rintro ⟨identity, date, time⟩
    rw [calendarUid, calendarUid, identityText, identityText, identity, date, time]

/-! ### Runs -/

namespace Desk

variable (host) in
/-- The events that a call renders differ in id, date or time from each other, and from what was rendered
before, if they are different events. -/
def Separates (desk : Desk) : Call → Prop
  | .render result => ∀ first ∈ result.events, first.confirmation = .confirmed → ∀ second,
      (second ∈ result.events ∧ second.confirmation = .confirmed ∨
        ∃ entry ∈ desk.rendered, entry.2 = second) →
      duplicateKey host first ≠ duplicateKey host second → ¬ SameIdentity first second
  | _ => True

/-- Nothing reached a calendar without a decision, and different events stayed different. -/
structure Guarded (host : EventHost) (digest : List UInt8 → PyString) (desk : Desk) : Prop where
  written : ∀ entry ∈ desk.written, desk.Released entry.1 entry.2
  rendered : ∀ entry ∈ desk.rendered, desk.Released entry.1 entry.2
  apart : ∀ first ∈ desk.rendered, ∀ second ∈ desk.rendered,
    duplicateKey host first.2 ≠ duplicateKey host second.2 →
      calendarUid digest first.2 ≠ calendarUid digest second.2

variable {digest : List UInt8 → PyString}

/-- The events of all results are plain. -/
def PlainResults (desk : Desk) : Prop := ∀ result ∈ desk.results, ∀ event ∈ result.events, Plain event

variable {desk : Desk}

theorem PlainResults.step (plain : desk.PlainResults) (call : Call) :
    (desk.step digest host call).PlainResults := by
  have add : ∀ {later : Desk} {result : GroundedEventResult}, later.results = desk.results ++ [result] →
      (∀ event ∈ result.events, Plain event) → later.PlainResults := by
    intro later result same known other member
    rw [same] at member
    rcases List.mem_append.mp member with member | last
    · exact plain other member
    · obtain rfl := List.mem_singleton.mp last
      exact known
  cases call with
  | parse document =>
    rw [Desk.step]
    split
    · exact plain
    · rename_i result accepted
      refine add rfl fun event inside => ?_
      obtain ⟨raw, _, valid, admitted⟩ := admitted_of_accepted accepted inside
      exact plain_of_admitted valid admitted
  | merge results requestId =>
    rw [Desk.step]
    split_ifs with there
    · split
      · exact plain
      · rename_i merged ran
        exact add rfl (plain_of_merge ran fun result member => plain result (there result member))
    · exact plain
  | confirm result confirmedIds rejectedIds =>
    rw [Desk.step]
    split_ifs with there
    · split
      · exact plain
      · rename_i decided ran
        refine add rfl fun event inside => ?_
        obtain ⟨_, rfl⟩ := confirmEventCandidates_eq_ok ran
        obtain ⟨origin, member, rfl⟩ := List.mem_map.mp inside
        obtain ⟨identity, date, time⟩ := plain result there origin member
        exact ⟨identity, date, time⟩
    · exact plain
  | write result taken =>
    rw [Desk.step]
    split_ifs
    · split <;> exact plain
    · exact plain
  | render result =>
    rw [Desk.step]
    split_ifs
    · split <;> exact plain
    · exact plain

/-- What was rendered is kept apart. -/
def Apart (host : EventHost) (desk : Desk) : Prop :=
  ∀ first ∈ desk.rendered, ∀ second ∈ desk.rendered,
    duplicateKey host first.2 ≠ duplicateKey host second.2 → ¬ SameIdentity first.2 second.2

theorem SameIdentity.symm {first second : EventCandidate} (same : SameIdentity first second) :
    SameIdentity second first := ⟨same.1.symm, same.2.1.symm, same.2.2.symm⟩

theorem Apart.step (apart : desk.Apart host) {call : Call} (separates : desk.Separates host call) :
    (desk.step digest host call).Apart host := by
  cases call with
  | render result =>
    rw [Desk.step]
    split_ifs with there
    · split
      · rename_i events _ ran _
        have confirmed := mem_of_confirmedEvents ran
        intro first firstMember second secondMember other
        rcases List.mem_append.mp firstMember with firstOld | firstNew
        · rcases List.mem_append.mp secondMember with secondOld | secondNew
          · exact apart first firstOld second secondOld other
          · obtain ⟨event, inside, rfl⟩ := List.mem_map.mp secondNew
            obtain ⟨member, state⟩ := confirmed event inside
            exact fun same => separates event member state first.2 (.inr ⟨first, firstOld, rfl⟩)
              other.symm (SameIdentity.symm same)
        · obtain ⟨event, inside, rfl⟩ := List.mem_map.mp firstNew
          obtain ⟨member, state⟩ := confirmed event inside
          refine separates event member state second.2 ?_ other
          rcases List.mem_append.mp secondMember with secondOld | secondNew
          · exact .inr ⟨second, secondOld, rfl⟩
          · obtain ⟨last, within, rfl⟩ := List.mem_map.mp secondNew
            exact .inl (confirmed last within)
      · exact apart
    · exact apart
  | parse document =>
    rw [Desk.step]
    split <;> exact apart
  | merge results requestId =>
    rw [Desk.step]
    split_ifs
    · split <;> exact apart
    · exact apart
  | confirm result confirmedIds rejectedIds =>
    rw [Desk.step]
    split_ifs
    · split <;> exact apart
    · exact apart
  | write result taken =>
    rw [Desk.step]
    split_ifs
    · split <;> exact apart
    · exact apart

/-- A run in which every call keeps its events apart. -/
def Separating (digest : List UInt8 → PyString) (host : EventHost) (desk : Desk) (calls : List Call) :
    Prop :=
  ∀ before call after, calls = before ++ call :: after → (desk.run digest host before).Separates host call

theorem invariants_run (calls : List Call) (plain : desk.PlainResults) (apart : desk.Apart host)
    (separating : desk.Separating digest host calls) :
    (desk.run digest host calls).PlainResults ∧ (desk.run digest host calls).Apart host := by
  induction calls generalizing desk with
  | nil => exact ⟨plain, apart⟩
  | cons call calls inductionHypothesis =>
    refine inductionHypothesis (plain.step call) (apart.step (separating [] call calls rfl)) ?_
    intro before next after same
    exact separating (call :: before) next after (by rw [same, List.cons_append])

/-- A reply cannot claim a decision. -/
theorem refuses_claim {document : Document}
    (claims : (∃ raw ∈ itemsField (fieldsOf document) "events",
        textField (fieldsOf raw) "confirmation" ≠ .ofString "pending") ∨
      textField (fieldsOf document) "confirmationState" ∈
        ["confirmed", "mixed"].map PyString.ofString) :
    ∃ error, parseGroundedEventResult host document = .error error := by
  cases ran : parseGroundedEventResult host document with
  | error error => exact ⟨error, rfl⟩
  | ok result =>
    obtain ⟨_, fitting, events, all, _⟩ := parseGroundedEventResult_eq_ok.mp ran
    rcases claims with ⟨raw, member, decided⟩ | decided
    · obtain ⟨position, inside, rfl⟩ := List.mem_iff_getElem.mp member
      have admitted := (List.forall₂_iff_get.mp all).2 position inside (all.length_eq ▸ inside)
      exact absurd admitted.pending decided
    · rw [Fitting] at fitting
      split_ifs at fitting
      · rw [fitting.2] at decided
        exact absurd decided (by decide)
      · rw [fitting.2] at decided
        exact absurd decided (by decide)

/-- In a run whose renderings keep different events apart, nothing reaches a calendar without a decision,
a reply cannot claim one, and different events stay different. -/
theorem guarded_of_separating (injective : Function.Injective digest) {calls : List Call}
    (separating : empty.Separating digest host calls) :
    (empty.run digest host calls).Guarded host digest ∧
      ∀ document : Document, ((∃ raw ∈ itemsField (fieldsOf document) "events",
          textField (fieldsOf raw) "confirmation" ≠ .ofString "pending") ∨
        textField (fieldsOf document) "confirmationState" ∈
          ["confirmed", "mixed"].map PyString.ofString) →
        ∃ error, parseGroundedEventResult host document = .error error := by
  have traced := @traced_run digest host calls _ traced_empty
  obtain ⟨plain, apart⟩ := invariants_run calls (fun _ member => absurd member List.not_mem_nil)
    (fun _ member => absurd member List.not_mem_nil) separating
  refine ⟨⟨fun entry member => traced.released entry (List.mem_append_left _ member),
    fun entry member => traced.released entry (List.mem_append_right _ member), ?_⟩,
    fun document claims => refuses_claim claims⟩
  intro first firstMember second secondMember other same
  have sent := fun entry member => traced.sent entry (List.mem_append_right _ member)
  have firstPlain := plain _ (sent first firstMember).1 _ (sent first firstMember).2.1
  have secondPlain := plain _ (sent second secondMember).1 _ (sent second secondMember).2.1
  exact apart first firstMember second secondMember other
    ((calendarUid_eq_iff injective firstPlain secondPlain).mp same)

/-! ### Two requests -/

/-- The result of a reply. -/
def parsedReply (document : Document) : GroundedEventResult :=
  (parseGroundedEventResult plainHost document).toOption.getD ⟨[], [], [], [], [], 0⟩

/-- The result of a reply of which these events, and no other, were confirmed. -/
def decidedReply (document : Document) (ids : List PyString) : GroundedEventResult :=
  (confirmEventCandidates (parsedReply document) ids []).toOption.getD (parsedReply document)

/-- A digest without collisions, which has the SHA-256 of the ids that are used here. -/
def sampleDigest (bytes : List UInt8) : PyString :=
  if bytes = "event-1\x00\x00".toUTF8.toList then
    .ofString "85a7ae9258cf015151dd113a5f58e62b3ab88c2b920898ba09922dfe809dec98"
  else if bytes = "event-2\x00\x00".toUTF8.toList then
    .ofString "94fb8f0b8db99cffe85e022ea427f57ca6888f41eff6776b552a27b63ba93dc4"
  else bytes.map fun byte => .surrogate (byte.toFin.castLE (by decide))

theorem sampleDigest_injective : Function.Injective sampleDigest := by
  have other : ∀ (text : String) (bytes : List UInt8), text ≠ "" →
      PyString.ofString text ≠ bytes.map fun byte => .surrogate (byte.toFin.castLE (by decide)) := by
    intro text bytes some same
    have empty : text.toList ≠ [] := fun none => some (String.toList_eq_nil_iff.mp none)
    obtain ⟨char, rest, chars⟩ := List.exists_cons_of_ne_nil empty
    rw [PyString.ofString, chars, PyString.ofChars_cons] at same
    cases bytes with
    | nil => cases same
    | cons byte bytes => cases same
  have listed : Function.Injective fun bytes : List UInt8 => bytes.map fun byte =>
      CodePoint.surrogate (byte.toFin.castLE (by decide)) := by
    refine List.map_injective_iff.mpr fun first second same => ?_
    exact UInt8.toFin_inj.mp (Fin.castLE_injective _ (CodePoint.surrogate.inj same))
  intro first second same
  rw [sampleDigest, sampleDigest] at same
  split_ifs at same with firstOne secondOne secondTwo firstTwo secondOne secondTwo secondOne secondTwo
  · rw [firstOne, secondOne]
  · exact absurd (ofString_inj.mp same) (by decide)
  · exact absurd same (other _ _ (by decide))
  · exact absurd (ofString_inj.mp same) (by decide)
  · rw [firstTwo, secondTwo]
  · exact absurd same (other _ _ (by decide))
  · exact absurd same.symm (other _ _ (by decide))
  · exact absurd same.symm (other _ _ (by decide))
  · exact listed same

/-- A reply with two events. -/
def pairReply : Document := replyOf [
  statedEvent "event-1" "a" "text" [("date", textDocument "unknown")] [],
  statedEvent "event-2" "b" "text" [("date", textDocument "unknown")] []]

def pairIds : List PyString := [.ofString "event-1", .ofString "event-2"]

theorem guarded_of_separating_pair :
    (empty.run sampleDigest plainHost [.parse pairReply, .confirm (parsedReply pairReply) pairIds [],
      .render (decidedReply pairReply pairIds)]).Guarded plainHost sampleDigest := by
  refine (guarded_of_separating sampleDigest_injective ?_).1
  intro before call after same
  rcases before with _ | ⟨one, _ | ⟨two, _ | ⟨three, before⟩⟩⟩
  · cases same
    trivial
  · cases same
    trivial
  · cases same
    have distinct : ((decidedReply pairReply pairIds).events.all fun first =>
        (decidedReply pairReply pairIds).events.all fun second =>
          decide (first.candidateId = second.candidateId →
            duplicateKey plainHost first = duplicateKey plainHost second)) = true := by
      decide +kernel
    have fresh : (empty.run sampleDigest plainHost [.parse pairReply,
      .confirm (parsedReply pairReply) pairIds []]).rendered = [] := rfl
    rintro first firstMember _ second (⟨secondMember, _⟩ | ⟨entry, old, _⟩) other identity
    · have only := List.all_eq_true.mp (List.all_eq_true.mp distinct first firstMember) second
        secondMember
      exact other (of_decide_eq_true only identity.1)
    · rw [fresh] at old
      cases old
  · have length := congrArg List.length same
    simp only [List.length_append, List.length_cons] at length
    change 3 = _ at length
    omega

/-- Events of two requests whose replies number them alike share an identity. -/
theorem not_guarded : ¬ ∀ (host : EventHost) (digest : List UInt8 → PyString),
    Function.Injective digest → ∀ calls : List Call,
      (empty.run digest host calls).Guarded host digest := by
  intro claim
  have guarded := claim plainHost sampleDigest sampleDigest_injective [
    .parse (numberedReply "a"), .parse (numberedReply "b"),
    .confirm (parsedReply (numberedReply "a")) [.ofString "event-1"] [],
    .confirm (parsedReply (numberedReply "b")) [.ofString "event-1"] [],
    .render (decidedReply (numberedReply "a") [.ofString "event-1"]),
    .render (decidedReply (numberedReply "b") [.ofString "event-1"])]
  have apart := guarded.apart (decidedReply (numberedReply "a") [.ofString "event-1"], _)
    List.mem_cons_self (decidedReply (numberedReply "b") [.ofString "event-1"], _)
    (List.mem_cons_of_mem _ List.mem_cons_self)
  exact apart (by decide +kernel) rfl

end Desk

end Events

end Omnitensor
