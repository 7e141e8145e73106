/-
This file says when a revision of an index names one content.

One file is read and updated by stores that may differ in their model, their bounds and what they
accept, and it may be damaged from outside. Each load that finds it intact is recorded, and so is
everything that is issued or accepted for a revision: what an update wrote, the expected revisions
that passed, the cursors given out and taken back. Revisions are read back from the document that
they describe, so they name one content only as long as no update writes on a document whose
revision was lost, and no expected revision passes against an index that was given up.
-/

import Omnitensor.IndexIdempotence
import Omnitensor.Machine

namespace Omnitensor

namespace IndexStore

open Index

variable {store other : IndexStore}

/-! ### Stores on one document -/

theorem one_bounded : 1 ≤ 1 ∧ 1 ≤ maxEntriesLimit := by decide

theorem one_positive : 1 ≤ 1 := le_refl 1

/-- A store of the same model with no profile, and the least bounds. -/
def unrestricted (store : IndexStore) : IndexStore :=
  { store with
    maxEntries := 1
    maxIndexBytes := 1
    entryError := fun _ => ""
    maxEntriesBounded := one_bounded
    maxIndexBytesPositive := one_positive }

variable {state after : IndexState} {text : List Char} {entries : List IndexEntry}

theorem parse_of_load (loaded : store.load (some text) = .ok state)
    (intact : state.health = .intact) :
    ∃ document, Json.loads text = some document ∧ store.parse document = .ok state := by
  unfold load at loaded
  simp only at loaded
  split at loaded
  · cases loaded
    cases intact
  · split at loaded
    · cases loaded
      cases intact
    · rename_i document read
      exact ⟨document, read, loaded⟩

theorem parseEntry_unrestricted {item : Json Double} {entry : IndexEntry}
    (parsed : store.parseEntry item = .ok (some entry)) :
    store.unrestricted.parseEntry item = .ok (some entry) := by
  cases item with
  | object members =>
    simp only [parseEntry] at parsed ⊢
    split at parsed
    · rename_i checked fields
      rw [Except.ok.injEq, Option.ite_none_right_eq_some, Option.some.injEq] at parsed
      obtain ⟨_, rfl⟩ := parsed
      rw [show store.unrestricted.model = store.model from rfl, fields]
      rfl
    · cases parsed
    · cases parsed
  | _ => cases parsed

theorem parseEntries_unrestricted {items : List (Json Double)}
    (parsed : store.parseEntries items = .ok (some entries)) :
    store.unrestricted.parseEntries items = .ok (some entries) := by
  induction items generalizing entries with
  | nil => exact parsed
  | cons item items inductionHypothesis =>
    obtain ⟨first, one, parsed⟩ := bind_eq_ok.mp parsed
    cases first with
    | none => cases parsed
    | some first =>
      obtain ⟨rest, others, same⟩ := bind_eq_ok.mp parsed
      cases rest with
      | none => cases same
      | some rest =>
        rw [parseEntries, parseEntry_unrestricted one, ok_bind, inductionHypothesis others]
        exact same

/-- An intact document names the model of the store, and the profile is not needed to read it. -/
theorem parse_intact {document : Json Double} (parsed : store.parse document = .ok state)
    (intact : state.health = .intact) :
    ∃ members stored, document = .object members ∧
      Json.field members "model" = some (.object stored) ∧ store.sameModel stored = true ∧
      store.unrestricted.parse document = .ok state := by
  cases document with
  | object members =>
    cases revisions : documentRevision members with
    | none =>
      simp only [parse, revisions] at parsed
      cases parsed
      cases intact
    | some revision =>
      simp only [parse, revisions] at parsed ⊢
      split at parsed
      · rename_i stored model
        split at parsed
        · rename_i same
          refine ⟨members, stored, rfl, model, same, ?_⟩
          rw [if_pos (show store.unrestricted.sameModel stored = true from same)]
          split at parsed
          · rename_i items listed
            obtain ⟨entries, read, parsed⟩ := bind_eq_ok.mp parsed
            cases entries with
            | none =>
              cases parsed
              cases intact
            | some entries =>
              rw [parseEntries_unrestricted read]
              exact parsed
          · cases parsed
            cases intact
        · cases parsed
          cases intact
      · cases parsed
        cases intact
  | _ =>
    cases parsed
    cases intact

theorem unrestricted_congr (same : store.model = other.model) :
    store.unrestricted = other.unrestricted := by
  cases store
  cases other
  cases same
  rfl

theorem eq_of_equalsInt {value : Json Double} {first second : Int}
    (one : value.equalsInt first = true) (two : value.equalsInt second = true) :
    first = second := by
  cases value with
  | bool truth => exact (of_decide_eq_true one).symm.trans (of_decide_eq_true two)
  | int stored => exact (of_decide_eq_true one).symm.trans (of_decide_eq_true two)
  | float stored =>
    exact Option.some.inj ((of_decide_eq_true one).symm.trans (of_decide_eq_true two))
  | _ => cases one

theorem model_eq_of_sameModel {stored : List (String × Json Double)}
    (first : store.sameModel stored = true) (second : other.sameModel stored = true) :
    store.model = other.model := by
  simp only [sameModel, Bool.and_eq_true] at first second
  obtain ⟨⟨⟨_, firstId⟩, firstDigest⟩, firstDimensions⟩ := first
  obtain ⟨⟨⟨_, secondId⟩, secondDigest⟩, secondDimensions⟩ := second
  have id : store.model.artifactId = other.model.artifactId := by
    split at firstId
    · rename_i found
      rw [found] at secondId
      exact (of_decide_eq_true firstId).symm.trans (of_decide_eq_true secondId)
    · cases firstId
  have digest : store.model.artifactDigest = other.model.artifactDigest := by
    split at firstDigest
    · rename_i found
      rw [found] at secondDigest
      exact (of_decide_eq_true firstDigest).symm.trans (of_decide_eq_true secondDigest)
    · cases firstDigest
  have dimensions := Int.ofNat.inj (eq_of_equalsInt firstDimensions secondDimensions)
  cases one : store.model
  cases two : other.model
  rw [one, two] at id digest dimensions
  exact congr (congrArg₂ ModelIdentity.mk id digest) dimensions

/-- Stores that find one file intact read the same from it. -/
theorem load_unique {file : Option (List Char)} {first second : IndexState}
    (firstLoaded : store.load file = .ok first) (firstIntact : first.health = .intact)
    (secondLoaded : other.load file = .ok second) (secondIntact : second.health = .intact) :
    first.revision = second.revision ∧ first.entries = second.entries := by
  cases file with
  | none =>
    cases firstLoaded
    cases secondLoaded
    exact ⟨rfl, rfl⟩
  | some text =>
    obtain ⟨document, read, firstParsed⟩ := parse_of_load firstLoaded firstIntact
    obtain ⟨_, again, secondParsed⟩ := parse_of_load secondLoaded secondIntact
    cases read.symm.trans again
    obtain ⟨members, stored, rfl, model, same, firstParsed⟩ := parse_intact firstParsed firstIntact
    obtain ⟨_, _, equal, otherModel, otherSame, secondParsed⟩ :=
      parse_intact secondParsed secondIntact
    cases equal
    cases model.symm.trans otherModel
    rw [unrestricted_congr (model_eq_of_sameModel same otherSame), secondParsed] at firstParsed
    cases firstParsed
    exact ⟨rfl, rfl⟩

/-- Whoever finds what was written intact reads the entries and the revision that were written. -/
theorem load_committed {revision : Nat} (storable : ∀ entry ∈ entries, store.Storable entry)
    (committed : store.commit revision entries = .ok (state, text))
    (loaded : other.load (some text) = .ok after) (intact : after.health = .intact) :
    after.revision = revision + 1 ∧ after.entries = entries := by
  obtain ⟨document, read, parsed⟩ := parse_of_load loaded intact
  obtain ⟨documents, written, same⟩ := bind_eq_ok.mp committed
  cases same
  rw [Json.loads_dumps (readable_document written)] at read
  cases read
  obtain ⟨members, stored, equal, model, same, parsed⟩ := parse_intact parsed intact
  cases equal
  cases model
  rw [unrestricted_congr (model_eq_of_sameModel same sameModel_modelDocument)] at parsed
  have expected := @parse_document store.unrestricted (revision + 1) entries documents
    (fun entry member => { storable entry member with accepted := rfl }) written
  rw [show store.unrestricted.document = store.document from rfl, parsed] at expected
  split at expected
  · cases expected
    exact ⟨rfl, rfl⟩
  · cases expected
    cases intact

/-! ### What an update writes -/

theorem health_of_commit {revision : Nat}
    (written : store.commit revision entries = .ok (after, text)) : after.health = .intact := by
  obtain ⟨_, _, equal⟩ := bind_eq_ok.mp written
  obtain ⟨rfl, -⟩ := Prod.mk.inj (Except.ok.inj equal)
  rfl

/-- The revision that a caller expects. -/
def expectedRevision : IndexRequest → Option Int
  | .upsert _ expected => expected
  | .delete _ expected => expected
  | .reindex _ => none

/-- Whether an update of stored entries writes a document. -/
def Writes (store : IndexStore) (readings : Nat → Int) (stored : List IndexEntry) :
    IndexRequest → Prop
  | .upsert entries _ => ¬ store.Quiet stored (store.given readings entries)
  | .delete wanted _ => ∃ entry ∈ stored, entry.entryId ∈ wanted
  | .reindex _ => True

theorem removed_eq_zero_iff {stored : List IndexEntry} {wanted : List String} :
    stored.length - (stored.filter fun entry => decide (entry.entryId ∉ wanted)).length = 0 ↔
      ¬ ∃ entry ∈ stored, entry.entryId ∈ wanted := by
  have fewer := List.length_filter_le (fun entry => decide (entry.entryId ∉ wanted)) stored
  have all := List.length_filter_eq_length_iff
    (p := fun entry : IndexEntry => decide (entry.entryId ∉ wanted)) (l := stored)
  simp only [decide_eq_true_iff] at all
  simp only [not_exists, not_and]
  rw [← all]
  omega

/-- An update that returns leaves the file alone and reports what it loaded, or writes the next
revision and reports that. -/
theorem run_cases {file next : Option (List Char)} {readings : Nat → Int} {request : IndexRequest}
    {update : IndexUpdate} (loaded : store.load file = .ok state)
    (ran : store.run file readings request = .ok (update, next)) :
    (∀ expected ∈ expectedRevision request, expected = state.revision) ∧
      (update.state = state ∧ next = file ∨
        store.Writes readings state.entries request ∧
          ∃ kept text, (∀ entry ∈ kept, store.Storable entry) ∧
            store.commit state.revision kept = .ok (update.state, text) ∧ next = some text) := by
  have stored := fun entry member => (storable_of_load loaded entry member).1
  have passes : ∀ {expected : Option Int}, checkRevision state expected = .ok () →
      ∀ revision ∈ expected, revision = state.revision := by
    intro expected accepted revision inside
    cases inside
    exact of_decide_eq_true (check_eq_ok.mp accepted)
  cases request with
  | upsert entries expected =>
    obtain ⟨batch, prepared, rest⟩ := bind_eq_ok.mp ran
    obtain ⟨current, read, rest⟩ := bind_eq_ok.mp rest
    obtain rfl : state = current := Except.ok.inj (loaded.symm.trans read)
    obtain ⟨_, accepted, _⟩ := bind_eq_ok.mp rest
    refine ⟨passes accepted, ?_⟩
    have result := (upsert_eq prepared loaded accepted).symm.trans ran
    have survived := bound_perm_retained store (merged_perm_contents state.entries batch)
    by_cases quiet : store.Quiet state.entries batch
    · simp only [if_pos (quiet_iff.mp quiet)] at result
      cases result
      exact Or.inl ⟨rfl, rfl⟩
    · simp only [if_neg (mt quiet_iff.mpr quiet)] at result
      obtain ⟨⟨after, text⟩, written, same⟩ := bind_eq_ok.mp result
      cases same
      refine Or.inr ⟨?_, _, text, fun entry member => ?_, written, rfl⟩
      · rwa [Writes, given_of_prepareAll prepared]
      · exact storable_of_retained stored (storable_of_prepareAll prepared) entry
          (survived.mem_iff.mp member)
  | delete wanted expected =>
    obtain ⟨current, read, rest⟩ := bind_eq_ok.mp ran
    obtain rfl : state = current := Except.ok.inj (loaded.symm.trans read)
    obtain ⟨_, accepted, rest⟩ := bind_eq_ok.mp rest
    refine ⟨passes accepted, ?_⟩
    simp only at rest
    split at rest
    · cases rest
      exact Or.inl ⟨rfl, rfl⟩
    · rename_i removes
      obtain ⟨⟨after, text⟩, written, same⟩ := bind_eq_ok.mp rest
      cases same
      exact Or.inr ⟨Classical.not_not.mp (mt removed_eq_zero_iff.mpr removes), _, text,
        fun entry member => stored entry (List.mem_filter.mp member).1, written, rfl⟩
  | reindex entries =>
    obtain ⟨batch, prepared, rest⟩ := bind_eq_ok.mp ran
    obtain ⟨current, read, rest⟩ := bind_eq_ok.mp rest
    obtain rfl : state = current := Except.ok.inj (loaded.symm.trans read)
    refine ⟨fun _ absent => absurd absent (Option.not_mem_none _), ?_⟩
    have survived := bound_perm_retained store (byId_perm_contents batch)
    cases bounded : store.bound (byId batch) with
    | mk kept evicted
    rw [bounded] at survived rest
    obtain ⟨⟨after, text⟩, written, same⟩ := bind_eq_ok.mp rest
    cases same
    exact Or.inr ⟨trivial, kept, text, fun entry member =>
      storable_of_retained (storable_of_prepareAll prepared) (fun _ none => by cases none) entry
        (survived.mem_iff.mp member), written, rfl⟩

end IndexStore

/-! ### Pages -/

namespace IndexSearch

open Index

def maxPageSize : Int := 200
def cursorVersion : Int := 1

/-- Why a page holds what it holds. -/
inductive ResultState where
  | ready
  | indexing
  | stale
  | recovering
  deriving DecidableEq

/-- What a caller passes as a cursor: no text, a text that cannot be decoded, or the document that
a text decodes to. -/
inductive Cursor where
  | blank
  | unreadable
  | holding (document : Json Double)

/-- One page of ranked entries. -/
structure ResultPage where
  results : List IndexEntry
  state : ResultState
  revision : Nat
  total : Nat
  nextCursor : Option (Json Double)

def encodeCursor (revision offset : Nat) (fingerprint : String) : Json Double :=
  .object [("v", .int cursorVersion), ("r", .int revision), ("o", .int offset),
    ("q", .string fingerprint)]

def decodeCursor (cursor : Cursor) (revision : Nat) (fingerprint : String) :
    Except IndexFailure Nat :=
  match cursor with
  | .blank => .error (.refused "cursor-invalid" "cursor must be a non-empty string")
  | .unreadable => .error (.refused "cursor-invalid" "cursor is not readable")
  | .holding (.object members) => do
    check (((Json.field members "v").getD .null).equalsInt cursorVersion) "cursor-invalid"
      "cursor version is not recognised"
    match Json.field members "o" with
    | some (.int offset) =>
      check (decide (0 ≤ offset)) "cursor-invalid" "cursor offset is invalid"
      check (match Json.field members "q" with
        | some (.string query) => decide (query = fingerprint)
        | _ => false) "cursor-mismatch" "cursor belongs to a different query"
      check (((Json.field members "r").getD .null).equalsInt revision) "cursor-stale"
        "the index changed; restart the query"
      return offset.toNat
    | _ => .error (.refused "cursor-invalid" "cursor offset is invalid")
  | .holding _ => .error (.refused "cursor-invalid" "cursor version is not recognised")

def stateOf (indexing : Bool) : IndexHealth → ResultState
  | .incompatible => .stale
  | .recovered => .recovering
  | .intact => if indexing then .indexing else .ready

/-- Where a page starts. -/
def offsetOf (cursor : Option Cursor) (revision : Nat) (fingerprint : String) :
    Except IndexFailure Nat :=
  match cursor with
  | none => .ok 0
  | some cursor => decodeCursor cursor revision fingerprint

/-- The window of ranked entries that a cursor points at. -/
def page (indexing : Bool) (state : IndexState) (ranked : List IndexEntry) (fingerprint : String)
    (size : Int) (cursor : Option Cursor) : Except IndexFailure ResultPage := do
  check (decide (1 ≤ size) && decide (size ≤ maxPageSize)) "bounds-invalid"
    "limit must be in [1, 200]"
  if stateOf indexing state.health = .ready then
    let offset ← offsetOf cursor state.revision fingerprint
    let window := (ranked.drop offset).take size.toNat
    let nextOffset := offset + window.length
    return ⟨window, .ready, state.revision, ranked.length,
      if nextOffset < ranked.length then some (encodeCursor state.revision nextOffset fingerprint)
      else none⟩
  else return ⟨[], stateOf indexing state.health, state.revision, 0, none⟩

/-- A cursor that was given out at a revision is taken back at that one only. -/
theorem revision_of_decodeCursor {first second offset after : Nat} {query fingerprint : String}
    (decoded : decodeCursor (.holding (encodeCursor first offset query)) second fingerprint =
      .ok after) : first = second := by
  obtain ⟨_, _, decoded⟩ := bind_eq_ok.mp decoded
  obtain ⟨_, _, decoded⟩ := bind_eq_ok.mp decoded
  obtain ⟨_, _, decoded⟩ := bind_eq_ok.mp decoded
  obtain ⟨_, same, _⟩ := bind_eq_ok.mp decoded
  exact Int.ofNat.inj (of_decide_eq_true (check_eq_ok.mp same))

/-- A page that is ready comes from an intact index, takes its cursor back at the revision of that
index and gives its next cursor out at the same one. -/
theorem page_ready {indexing : Bool} {state : IndexState} {ranked : List IndexEntry}
    {fingerprint : String} {size : Int} {cursor : Option Cursor} {page : ResultPage}
    (paged : IndexSearch.page indexing state ranked fingerprint size cursor = .ok page)
    (ready : page.state = .ready) :
    state.health = .intact ∧
      (∀ taken ∈ cursor, ∃ offset, decodeCursor taken state.revision fingerprint = .ok offset) ∧
      ∀ document ∈ page.nextCursor, ∃ offset,
        document = encodeCursor state.revision offset fingerprint := by
  obtain ⟨_, _, paged⟩ := bind_eq_ok.mp paged
  split at paged
  · rename_i usable
    have intact : state.health = .intact := by
      cases health : state.health with
      | intact => rfl
      | _ =>
        rw [health] at usable
        cases usable
    obtain ⟨offset, pointed, same⟩ := bind_eq_ok.mp paged
    cases same
    refine ⟨intact, fun taken inside => ?_, fun document inside => ?_⟩
    · cases inside
      exact ⟨offset, pointed⟩
    · rw [Option.mem_def, Option.ite_none_right_eq_some, Option.some.injEq] at inside
      exact ⟨_, inside.2.symm⟩
  · rename_i unusable
    cases paged
    exact absurd ready unusable

end IndexSearch

/-! ### Runs on one file -/

/-- What happens for a revision. -/
inductive IndexEvent where
  /-- A load found the index intact. -/
  | found (revision : Nat) (entries : List IndexEntry)
  /-- An update returned an intact index. -/
  | reported (revision : Nat) (entries : List IndexEntry)
  /-- An expected revision passed against entries. -/
  | passed (revision : Nat) (entries : List IndexEntry)
  /-- A cursor was given out for entries. -/
  | issued (cursor : Json Double) (entries : List IndexEntry)
  /-- A cursor was taken back for entries. -/
  | resumed (cursor : IndexSearch.Cursor) (entries : List IndexEntry)

namespace IndexEvent

/-- A later event agrees with an earlier one: loads at one revision return the same entries, an
expected revision passes against the entries that it was reported with, and a cursor is taken back
for those that it was given out for. -/
def Agrees (later earlier : IndexEvent) : Prop :=
  match later, earlier with
  | .found revision entries, .found before stored => revision = before → entries = stored
  | .passed revision entries, .found before stored => revision = before → entries = stored
  | .passed revision entries, .reported before stored => revision = before → entries = stored
  | .resumed (.holding document) entries, .issued cursor stored =>
    document = cursor → entries = stored
  | _, _ => True

/-- The entries that a load found at a revision. -/
def foundAt (revision : Nat) : IndexEvent → Option (List IndexEntry)
  | .found before entries => if before = revision then some entries else none
  | _ => none

/-- The revision that an event names, with its entries. -/
def names : IndexEvent → Option (Nat × List IndexEntry)
  | .found revision entries => some (revision, entries)
  | .reported revision entries => some (revision, entries)
  | _ => none

end IndexEvent

/-- The file of an index, and what has happened for its revisions, the latest first. -/
structure IndexRun where
  file : Option (List Char)
  log : List IndexEvent

/-- What may happen to the file of an index. Each call comes from a store of its own; a query ranks
the entries it loads. The file may be replaced by a text that no store finds intact. -/
inductive IndexAction where
  | load (store : IndexStore)
  | update (store : IndexStore) (readings : Nat → Int) (request : IndexRequest)
  | query (store : IndexStore) (rank : List IndexEntry → Except IndexFailure (List IndexEntry))
      (indexing : Bool) (fingerprint : String) (size : Int) (cursor : Option IndexSearch.Cursor)
  | damage (text : List Char) (damaged : ∀ (store : IndexStore) (state : IndexState),
      store.load (some text) = .ok state → state.health ≠ .intact)

namespace IndexRun

/-- What a load records. -/
def findings (state : IndexState) : List IndexEvent :=
  if state.health = .intact then [.found state.revision state.entries] else []

/-- What an update records that returned. -/
def reports (state after : IndexState) (request : IndexRequest) : List IndexEvent :=
  (if after.health = .intact then [.reported after.revision after.entries] else []) ++
    (if IndexStore.expectedRevision request = none then []
      else [.passed state.revision state.entries])

/-- What a query records that returned a page. -/
def handed (state : IndexState) (cursor : Option IndexSearch.Cursor)
    (page : IndexSearch.ResultPage) : List IndexEvent :=
  if page.state = .ready then
    (page.nextCursor.map fun document => IndexEvent.issued document state.entries).toList ++
      (cursor.map fun cursor => IndexEvent.resumed cursor state.entries).toList
  else []

/-- One action. A call that fails changes and records nothing beyond its load. -/
def step (index : IndexRun) (action : IndexAction) : Option IndexRun :=
  match action with
  | .load store =>
    match store.load index.file with
    | .error _ => some index
    | .ok state => some { index with log := findings state ++ index.log }
  | .update store readings request =>
    match store.load index.file, store.run index.file readings request with
    | .ok state, .ok (update, next) =>
      some ⟨next, reports state update.state request ++ (findings state ++ index.log)⟩
    | _, _ => some index
  | .query store rank indexing fingerprint size cursor =>
    match store.load index.file with
    | .error _ => some index
    | .ok state =>
      match rank state.entries >>= fun ranked =>
          IndexSearch.page indexing state ranked fingerprint size cursor with
      | .error _ => some { index with log := findings state ++ index.log }
      | .ok page =>
        some { index with log := handed state cursor page ++ (findings state ++ index.log) }
  | .damage text _ => some { index with file := some text }

/-- An update that writes finds no smaller revision than one that was named before, and a revision
that it expects passes against an intact index only. -/
def Holds (index : IndexRun) : IndexAction → Prop
  | .update store readings request => ∀ state, store.load index.file = .ok state →
      (store.Writes readings state.entries request →
        ∀ event ∈ index.log, ∀ content ∈ event.names, content.1 ≤ state.revision) ∧
      ((state.revision : Int) ∈ IndexStore.expectedRevision request → state.health = .intact)
  | _ => True

/-- Every revision names one content so far. -/
structure Named (index : IndexRun) : Prop where
  agrees : index.log.Pairwise IndexEvent.Agrees
  current : ∀ (store : IndexStore) state, store.load index.file = .ok state →
    state.health = .intact → ∀ event ∈ index.log, ∀ content ∈ event.names,
      content.1 = state.revision → content.2 = state.entries
  issued : ∀ document entries, IndexEvent.issued document entries ∈ index.log →
    ∃ revision offset fingerprint,
      document = IndexSearch.encodeCursor revision offset fingerprint ∧
        IndexEvent.found revision entries ∈ index.log

/-! ### What each record keeps -/

variable {index : IndexRun} {store : IndexStore} {state : IndexState}

theorem Named.push {event : IndexEvent} (named : index.Named)
    (agrees : ∀ earlier ∈ index.log, event.Agrees earlier)
    (current : ∀ (store : IndexStore) state, store.load index.file = .ok state →
      state.health = .intact → ∀ content ∈ event.names,
        content.1 = state.revision → content.2 = state.entries)
    (issued : ∀ document entries, event = .issued document entries →
      ∃ revision offset fingerprint,
        document = IndexSearch.encodeCursor revision offset fingerprint ∧
          IndexEvent.found revision entries ∈ index.log) :
    Named { index with log := event :: index.log } where
  agrees := List.pairwise_cons.mpr ⟨agrees, named.agrees⟩
  current store state loaded intact := List.forall_mem_cons.mpr
    ⟨current store state loaded intact, named.current store state loaded intact⟩
  issued document entries inside := by
    rcases List.mem_cons.mp inside with same | earlier
    · obtain ⟨revision, offset, fingerprint, equal, found⟩ := issued document entries same.symm
      exact ⟨revision, offset, fingerprint, equal, List.mem_cons_of_mem _ found⟩
    · obtain ⟨revision, offset, fingerprint, equal, found⟩ := named.issued document entries earlier
      exact ⟨revision, offset, fingerprint, equal, List.mem_cons_of_mem _ found⟩

/-- A load that finds the index intact. -/
theorem Named.load (named : index.Named) (loaded : store.load index.file = .ok state) :
    Named { index with log := findings state ++ index.log } := by
  rw [IndexRun.findings]
  split
  · rename_i intact
    refine named.push (fun earlier inside => ?_) (fun other after again sound => ?_)
      fun _ _ same => by cases same
    · have known := named.current store state loaded intact earlier inside
      cases earlier with
      | found before stored => exact fun same => (known _ rfl same.symm).symm
      | _ => trivial
    · rintro content ⟨⟩ same
      exact (IndexStore.load_unique loaded intact again sound).2
  · exact named

/-- An update that wrote nothing reports what it loaded. -/
theorem Named.unwritten (named : index.Named) (loaded : store.load index.file = .ok state)
    (intact : state.health = .intact) :
    Named { index with log := .reported state.revision state.entries :: index.log } := by
  refine named.push (fun earlier _ => ?_) (fun other after again sound => ?_)
    fun _ _ same => by cases same
  · cases earlier <;> trivial
  · rintro content ⟨⟩ same
    exact (IndexStore.load_unique loaded intact again sound).2

/-- An expected revision that passes against an intact index. -/
theorem Named.passed (named : index.Named) (loaded : store.load index.file = .ok state)
    (intact : state.health = .intact) :
    Named { index with log := .passed state.revision state.entries :: index.log } := by
  refine named.push (fun earlier inside => ?_) (fun _ _ _ _ _ none => by cases none)
    fun _ _ same => by cases same
  have known := named.current store state loaded intact earlier inside
  cases earlier with
  | found before stored => exact fun same => (known _ rfl same.symm).symm
  | reported before stored => exact fun same => (known _ rfl same.symm).symm
  | _ => trivial

/-- A document that is written above all revisions that were named. -/
theorem Named.written {revision : Nat} {kept : List IndexEntry} {after : IndexState}
    {text : List Char} (named : index.Named)
    (smaller : ∀ event ∈ index.log, ∀ content ∈ event.names, content.1 ≤ revision)
    (storable : ∀ entry ∈ kept, store.Storable entry)
    (written : store.commit revision kept = .ok (after, text)) :
    Named ⟨some text, .reported after.revision after.entries :: index.log⟩ := by
  obtain ⟨_, _, equal⟩ := bind_eq_ok.mp written
  obtain ⟨rfl, -⟩ := Prod.mk.inj (Except.ok.inj equal)
  have fresh : Named { index with file := some text } := {
    named with
    current := fun other state loaded intact event inside content names same => by
      have read := IndexStore.load_committed storable written loaded intact
      have few := smaller event inside content names
      omega }
  refine fresh.push (fun earlier _ => ?_) (fun other state loaded intact => ?_)
    fun _ _ same => by cases same
  · cases earlier <;> trivial
  · rintro content ⟨⟩ same
    exact (IndexStore.load_committed storable written loaded intact).2.symm

/-- A cursor that is taken back from an intact index. -/
theorem Named.resumed {cursor : IndexSearch.Cursor} {fingerprint : String} {offset : Nat}
    (named : index.Named) (loaded : store.load index.file = .ok state)
    (intact : state.health = .intact)
    (decoded : IndexSearch.decodeCursor cursor state.revision fingerprint = .ok offset) :
    Named { index with log := .resumed cursor state.entries :: index.log } := by
  refine named.push (fun earlier inside => ?_) (fun _ _ _ _ _ none => by cases none)
    fun _ _ same => by cases same
  cases earlier with
  | issued document stored =>
    cases cursor with
    | holding taken =>
      rintro rfl
      obtain ⟨revision, given, query, rfl, found⟩ := named.issued _ _ inside
      exact (named.current store state loaded intact _ found _ rfl
        (IndexSearch.revision_of_decodeCursor decoded)).symm
    | _ => trivial
  | _ => cases cursor <;> trivial

/-- A page of an index that was loaded. -/
theorem Named.handed {ranked : List IndexEntry} {indexing : Bool} {fingerprint : String}
    {size : Int} {cursor : Option IndexSearch.Cursor} {page : IndexSearch.ResultPage}
    (named : index.Named) (loaded : store.load index.file = .ok state)
    (paged : IndexSearch.page indexing state ranked fingerprint size cursor = .ok page) :
    Named { index with
      log := IndexRun.handed state cursor page ++ (findings state ++ index.log) } := by
  rw [IndexRun.handed]
  split
  · rename_i ready
    obtain ⟨intact, taken, given⟩ := IndexSearch.page_ready paged ready
    have loads := named.load loaded
    have found : IndexEvent.found state.revision state.entries ∈ findings state ++ index.log :=
      List.mem_append_left _ (by rw [findings, if_pos intact]; exact List.mem_singleton_self _)
    have resumes : Named { index with
        log := (cursor.map fun cursor => IndexEvent.resumed cursor state.entries).toList ++
          (findings state ++ index.log) } := by
      cases cursor with
      | none => exact loads
      | some cursor =>
        obtain ⟨offset, decoded⟩ := taken cursor rfl
        exact loads.resumed loaded intact decoded
    cases next : page.nextCursor with
    | none => exact resumes
    | some document =>
      obtain ⟨offset, same⟩ := given document next
      refine resumes.push (fun earlier _ => ?_) (fun _ _ _ _ _ none => by cases none) ?_
      · cases earlier <;> trivial
      · rintro other entries ⟨⟩
        exact ⟨state.revision, offset, fingerprint, same, List.mem_append_right _ found⟩
  · exact named.load loaded

/-- An update that returned. -/
theorem Named.update {readings : Nat → Int} {request : IndexRequest} {update : IndexUpdate}
    {next : Option (List Char)} (named : index.Named)
    (holds : index.Holds (.update store readings request))
    (loaded : store.load index.file = .ok state)
    (ran : store.run index.file readings request = .ok (update, next)) :
    Named ⟨next, reports state update.state request ++ (findings state ++ index.log)⟩ := by
  obtain ⟨above, sound⟩ := holds state loaded
  obtain ⟨expected, effect⟩ := IndexStore.run_cases loaded ran
  have loads := named.load loaded
  have passes : Named { index with
      log := (if IndexStore.expectedRevision request = none then []
        else [.passed state.revision state.entries]) ++ (findings state ++ index.log) } := by
    split
    · exact loads
    · rename_i given
      obtain ⟨revision, given⟩ := Option.ne_none_iff_exists'.mp given
      obtain rfl := expected revision given
      exact loads.passed loaded (sound given)
  rw [reports, List.append_assoc]
  rcases effect with ⟨same, rfl⟩ | ⟨writes, kept, text, storable, written, rfl⟩
  · rw [same]
    split
    · rename_i intact
      exact passes.unwritten loaded intact
    · exact passes
  · rw [if_pos (IndexStore.health_of_commit written)]
    refine passes.written (fun event inside content names => ?_) storable written
    rcases List.mem_append.mp inside with passed | inside
    · split at passed
      · cases passed
      · rw [List.mem_singleton.mp passed] at names
        cases names
    · rcases List.mem_append.mp inside with found | earlier
      · rw [findings] at found
        split at found
        · rw [List.mem_singleton.mp found] at names
          cases names
          exact le_refl _
        · cases found
      · exact above writes event earlier content names

/-! ### Whole runs -/

theorem Named.start (file : Option (List Char)) : Named ⟨file, []⟩ where
  agrees := List.Pairwise.nil
  current _ _ _ _ _ inside := absurd inside List.not_mem_nil
  issued _ _ inside := absurd inside List.not_mem_nil

/-- What an action keeps. -/
theorem Named.step {next : IndexRun} {action : IndexAction} (named : index.Named)
    (holds : index.Holds action) (steps : index.step action = some next) : next.Named := by
  cases action with
  | load store =>
    simp only [IndexRun.step] at steps
    split at steps
    · cases steps
      exact named
    · rename_i state loaded
      cases steps
      exact named.load loaded
  | update store readings request =>
    simp only [IndexRun.step] at steps
    split at steps
    · rename_i state update after loaded ran
      cases steps
      exact named.update holds loaded ran
    · cases steps
      exact named
  | query store rank indexing fingerprint size cursor =>
    simp only [IndexRun.step] at steps
    split at steps
    · cases steps
      exact named
    · rename_i state loaded
      split at steps
      · cases steps
        exact named.load loaded
      · rename_i page paged
        cases steps
        obtain ⟨ranked, _, paged⟩ := bind_eq_ok.mp paged
        exact named.handed loaded paged
  | damage text damaged =>
    cases steps
    exact { named with
      current := fun store state loaded intact => absurd intact (damaged store state loaded) }

/-- In a run in which no update writes below a revision that was named, and expected revisions pass
against an intact index only, every revision names one content. -/
theorem agrees_of_holds {file : Option (List Char)} {actions : List IndexAction}
    {final : IndexRun} (holds : Machine.Throughout step Holds ⟨file, []⟩ actions)
    (runs : Machine.run step ⟨file, []⟩ actions = some final) :
    final.log.Pairwise IndexEvent.Agrees :=
  (Machine.invariant_run_throughout Named (fun _ _ _ named holds steps => named.step holds steps)
    (Named.start file) holds runs).agrees

/-- Loads at one revision find the same entries where all events agree. -/
theorem pairwise_foundAt {log : List IndexEvent} (revision : Nat)
    (agrees : log.Pairwise IndexEvent.Agrees) :
    (log.filterMap (IndexEvent.foundAt revision)).Pairwise Eq := by
  refine agrees.filterMap _ fun later earlier agree entries found stored before => ?_
  cases later with
  | found after other =>
    obtain ⟨rfl, same⟩ := Option.ite_none_right_eq_some.mp found
    cases same
    cases earlier with
    | found known kept =>
      obtain ⟨rfl, same⟩ := Option.ite_none_right_eq_some.mp before
      cases same
      exact agree rfl
    | _ => cases before
  | _ => cases found

/-- The update that finds the one indexed source at a path. -/
def exampleMove (sourcePath : String) (expected : Option Int) : IndexRequest :=
  .upsert [some {
    entryId := .string "entry"
    digest := .string "digest"
    sourcePath := .string sourcePath
    embedding := [.int 0]
    tags := .array []
    attributes := .object []
    updatedAtMs := .int 5 }] expected

theorem agrees_of_holds_upsert :
    ∃ final, Machine.run step ⟨none, []⟩
        [.load (IndexStore.exampleStore 228 (by decide)),
          .update (IndexStore.exampleStore 228 (by decide)) (fun _ => 8)
            (exampleMove "one" (some 0))] = some final ∧
      final.log.length = 4 ∧ final.log.Pairwise IndexEvent.Agrees := by
  have holds : Machine.Throughout step Holds ⟨none, []⟩
      [.load (IndexStore.exampleStore 228 (by decide)),
        .update (IndexStore.exampleStore 228 (by decide)) (fun _ => 8)
          (exampleMove "one" (some 0))] := by
    refine ⟨trivial, ?_⟩
    rintro next ⟨⟩
    refine ⟨?_, fun _ _ => trivial⟩
    rintro state ⟨⟩
    refine ⟨fun _ event inside => ?_, fun _ => rfl⟩
    rw [List.mem_singleton.mp inside]
    rintro content ⟨⟩
    exact le_refl 0
  have ran : (Machine.run step ⟨none, []⟩
      [.load (IndexStore.exampleStore 228 (by decide)),
        .update (IndexStore.exampleStore 228 (by decide)) (fun _ => 8)
          (exampleMove "one" (some 0))]).any (fun final => decide (final.log.length = 4)) =
      true := by decide +kernel
  obtain ⟨final, runs, length⟩ := Machine.exists_run_of_any ran
  exact ⟨final, runs, of_decide_eq_true length, agrees_of_holds holds runs⟩

/-- A document that is too large to be read back takes its revision with it: two loads find the
index intact at revision one, with different entries. -/
theorem revision_reused :
    ∃ final, Machine.run step ⟨none, []⟩
        [.update (IndexStore.exampleStore 228 (by decide)) (fun _ => 8)
            (exampleMove "one" none),
          .load (IndexStore.exampleStore 228 (by decide)),
          .update (IndexStore.exampleStore 228 (by decide)) (fun _ => 8)
            (exampleMove "longer" none),
          .update (IndexStore.exampleStore 228 (by decide)) (fun _ => 8)
            (exampleMove "two" none),
          .load (IndexStore.exampleStore 228 (by decide))] = some final ∧
      ¬ (final.log.filterMap (IndexEvent.foundAt 1)).Pairwise Eq ∧
      ¬ final.log.Pairwise IndexEvent.Agrees := by
  have ran : (Machine.run step ⟨none, []⟩
      [.update (IndexStore.exampleStore 228 (by decide)) (fun _ => 8) (exampleMove "one" none),
        .load (IndexStore.exampleStore 228 (by decide)),
        .update (IndexStore.exampleStore 228 (by decide)) (fun _ => 8) (exampleMove "longer" none),
        .update (IndexStore.exampleStore 228 (by decide)) (fun _ => 8) (exampleMove "two" none),
        .load (IndexStore.exampleStore 228 (by decide))]).any (fun final =>
          decide ¬ (final.log.filterMap (IndexEvent.foundAt 1)).Pairwise Eq) = true := by
    decide +kernel
  obtain ⟨final, runs, different⟩ := Machine.exists_run_of_any ran
  exact ⟨final, runs, of_decide_eq_true different,
    mt (pairwise_foundAt 1) (of_decide_eq_true different)⟩

end IndexRun

end Omnitensor
