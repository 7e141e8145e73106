/-
This file models queries over an index, which are answered page by page.

A query ranks the entries that match it. A page is a window of the ranking with a cursor to what follows;
following the cursors walks through the ranking without leaving out or repeating an entry, whatever the
sizes of the pages. While the index is built or cannot be trusted, a page says so and holds nothing.

Scores are of any linear order, and how two vectors are compared is a parameter.
-/

import Omnitensor.IndexCursors
import Omnitensor.IndexDurability
import Omnitensor.PosixPath

namespace Omnitensor

/-! ### Data -/

/-- Why a page holds what it holds. -/
inductive ResultState where
  | ready
  | indexing
  | stale
  | recovering
  deriving DecidableEq

/-- Where a result comes from. -/
structure Provenance where
  root : String
  updatedAtMs : Int
  deriving DecidableEq

/-- One ranked entry without its path. -/
structure SearchResult (Score : Type) where
  entryId : String
  score : Score
  tags : List String
  attributes : Dict String Attribute
  provenance : Provenance

/-- One page of the results of a query, with the cursor of the next. -/
structure ResultPage (Score : Type) where
  results : List (SearchResult Score)
  state : ResultState
  revision : Nat
  total : Nat
  nextCursor : Option String

/-- What is asked for. -/
inductive IndexQuery where
  | search (vector : List (Json Double)) (tags : List String)
  | browse (tags : List String)
  | similarTo (entryId : String)

/-- A service over one index. How vectors are compared and scores are rounded are parameters, and so are
the digest and whether reading is granted. -/
structure IndexQueryService (Score : Type) where
  store : IndexStore
  roots : List String
  pageSize : Nat
  indexing : Bool
  allowsRead : Bool
  zero : Score
  similarity : List (Json Double) → List Double → Score
  rounded : Score → Score
  sha256 : List UInt8 → String
  pageSizeBounded : 1 ≤ pageSize ∧ pageSize ≤ 200

namespace IndexQueryService

/-- The most results on a page. -/
def maxPageSize : Int := 200

def refuse {Answer : Type} (code detail : String) : Except SearchFailure Answer :=
  .error (.refused code detail)

variable {Score : Type} [LinearOrder Score] (service : IndexQueryService Score)

/-! ### Checks -/

def require : Except SearchFailure Unit :=
  if service.allowsRead then .ok () else refuse "permission-denied" "permission is not granted: read:index"

/-- A component of a vector that is a finite number. -/
def requireNumber : Json Double → Except SearchFailure Unit
  | .int value => match Double.ofInt value with
    | some _ => .ok ()
    | none => .error (.index .overflow)
  | .float _ => .ok ()
  | .constant _ => refuse "query-invalid" "query vector must be finite"
  | _ => refuse "query-invalid" "query vector must contain numbers"

/-- Whether a number is not zero. -/
def directed : Json Double → Bool
  | .int value => decide (value ≠ 0)
  | .float value => decide (value.units ≠ 0)
  | _ => true

def requireDirection (vector : List (Json Double)) : Except SearchFailure Unit := do
  if vector.length ≠ service.store.model.dimensions then
    refuse "query-invalid"
      ("query vector must have " ++ toString service.store.model.dimensions ++ " dimensions")
  vector.forM requireNumber
  if vector.any directed then return () else refuse "query-invalid" "query vector has no direction"

def wantedTags (tags : List String) : Except SearchFailure Unit :=
  if 32 < tags.length then refuse "filter-invalid" "at most 32 tag filters are allowed"
  else if tags.any fun tag => decide (tag = "") then
    refuse "filter-invalid" "each tag filter must be a non-empty string"
  else .ok ()

/-! ### Pages -/

def queryFingerprint (payload : Json Double) : String :=
  String.ofList ((service.sha256 (Cursor.documentBytes payload.sortKeys)).toList.take 16)

def stateOf (state : IndexState) : ResultState :=
  match state.health with
  | .incompatible => .stale
  | .recovered => .recovering
  | .intact => if service.indexing then .indexing else .ready

/-- Whether a path is a root or lies below it. -/
def within (root path : PyString) : Bool :=
  decide (root.head? = some (.scalar '/')) == decide (path.head? = some (.scalar '/')) &&
    decide (PosixPath.parts root <+: PosixPath.parts path)

def rootOf (sourcePath : String) : String :=
  (service.roots.find? fun root => within (.ofString root) (.ofString sourcePath)).getD "unknown"

/-- An entry as a result shows it: its place by root, not by path. -/
def project (ranked : Score × IndexEntry) : SearchResult Score :=
  ⟨ranked.2.entryId, service.rounded ranked.1, ranked.2.tags, ranked.2.attributes,
    ⟨service.rootOf ranked.2.sourcePath, ranked.2.updatedAtMs⟩⟩

/-- The page of a ranking that a cursor leads to. -/
def page (state : IndexState) (ranked : List (Score × IndexEntry)) (fingerprint : String)
    (limit : Option Int) (cursor : Option String) : Except SearchFailure (ResultPage Score) :=
  let size := limit.getD service.pageSize
  if ¬ (1 ≤ size ∧ size ≤ maxPageSize) then refuse "bounds-invalid" "limit must be in [1, 200]"
  else if service.stateOf state ≠ .ready then
    .ok ⟨[], service.stateOf state, state.revision, 0, none⟩
  else do
    let offset ← match cursor with
      | none => pure 0
      | some cursor => Cursor.decodeCursor cursor state.revision fingerprint
    let window := (ranked.drop offset).take size.toNat
    let nextOffset := offset + window.length
    let nextCursor := if nextOffset < ranked.length then
      some (Cursor.encodeCursor state.revision nextOffset fingerprint) else none
    return ⟨window.map service.project, .ready, state.revision, ranked.length, nextCursor⟩

/-! ### Queries -/

/-- An entry carries all tags that are wanted. -/
def carries (tags : List String) (entry : IndexEntry) : Bool := tags.all fun tag => decide (tag ∈ entry.tags)

/-- The order by decreasing score, and then by id. -/
def scoredBefore (first second : Score × IndexEntry) : Prop :=
  second.1 < first.1 ∨ (first.1 = second.1 ∧ first.2.entryId ≤ second.2.entryId)

instance : DecidableRel (scoredBefore : Score × IndexEntry → Score × IndexEntry → Prop) :=
  fun _ _ => inferInstanceAs (Decidable (_ ∨ _))

def search (file : Option (List Char)) (vector : List (Json Double)) (tags : List String)
    (limit : Option Int) (cursor : Option String) : Except SearchFailure (ResultPage Score) := do
  service.require
  service.requireDirection vector
  wantedTags tags
  let state ← (service.store.load file).mapError .index
  let fingerprint := service.queryFingerprint (.object [("kind", .string "search"),
    ("vector", .array vector), ("tags", .array ((Index.sortedSet tags).map .string))])
  let scored := (state.entries.filter (carries tags)).map fun entry =>
    (service.similarity vector entry.embedding, entry)
  service.page state (scored.insertionSort scoredBefore) fingerprint limit cursor

def browse (file : Option (List Char)) (tags : List String) (limit : Option Int)
    (cursor : Option String) : Except SearchFailure (ResultPage Score) := do
  service.require
  wantedTags tags
  let state ← (service.store.load file).mapError .index
  let fingerprint := service.queryFingerprint (.object [("kind", .string "browse"),
    ("tags", .array ((Index.sortedSet tags).map .string))])
  let matching := state.entries.filter (carries tags)
  let ranked := (matching.insertionSort fun first second =>
    IndexStore.precedes first second = true).map fun entry => (service.zero, entry)
  service.page state ranked fingerprint limit cursor

def similarTo (file : Option (List Char)) (entryId : String) (limit : Option Int)
    (cursor : Option String) : Except SearchFailure (ResultPage Score) := do
  service.require
  let state ← (service.store.load file).mapError .index
  match (IndexStore.byId state.entries).get? entryId with
  | none => refuse "entry-unknown" "no such entry"
  | some anchor =>
    let fingerprint := service.queryFingerprint (.object [("kind", .string "similar"),
      ("entry", .string entryId)])
    let scored := (state.entries.filter fun entry => decide (entry.entryId ≠ entryId)).map fun entry =>
      (service.similarity (anchor.embedding.map .float) entry.embedding, entry)
    service.page state (scored.insertionSort scoredBefore) fingerprint limit cursor

/-- Answer a query with a page. -/
def answer (file : Option (List Char)) (query : IndexQuery) (limit : Option Int)
    (cursor : Option String) : Except SearchFailure (ResultPage Score) :=
  match query with
  | .search vector tags => service.search file vector tags limit cursor
  | .browse tags => service.browse file tags limit cursor
  | .similarTo entryId => service.similarTo file entryId limit cursor

/-- Follow the cursors of a query from one on, each page with a limit of its own, for so many pages at
most. -/
def follow (file : Option (List Char)) (query : IndexQuery) (limits : Nat → Option Int) :
    Nat → Nat → Option String → Except SearchFailure (Option (List (ResultPage Score)))
  | 0, _, _ => .ok none
  | fuel + 1, index, cursor => do
    let page ← service.answer file query (limits index) cursor
    match page.nextCursor with
    | none => return some [page]
    | some next => return (← follow file query limits fuel (index + 1) (some next)).map (page :: ·)

/-! ### What is asked for -/

/-- The entries that match a query, with their scores. -/
def matching (state : IndexState) : IndexQuery → List (Score × IndexEntry)
  | .search vector tags => (state.entries.filter (carries tags)).map fun entry =>
    (service.similarity vector entry.embedding, entry)
  | .browse tags => (state.entries.filter (carries tags)).map fun entry => (service.zero, entry)
  | .similarTo entryId =>
    match (IndexStore.byId state.entries).get? entryId with
    | none => []
    | some anchor => (state.entries.filter fun entry => decide (entry.entryId ≠ entryId)).map
      fun entry => (service.similarity (anchor.embedding.map .float) entry.embedding, entry)

/-- The order of the results of a query. -/
def Before : IndexQuery → Score × IndexEntry → Score × IndexEntry → Prop
  | .browse _, first, second => first.2.updatedAtMs > second.2.updatedAtMs ∨
    (first.2.updatedAtMs = second.2.updatedAtMs ∧ first.2.entryId ≤ second.2.entryId)
  | _, first, second => scoredBefore first second

/-- A query that passes the checks of the service. -/
def Admits (state : IndexState) : IndexQuery → Prop
  | .search vector tags => service.requireDirection vector = .ok () ∧ wantedTags tags = .ok ()
  | .browse tags => wantedTags tags = .ok ()
  | .similarTo entryId => ∃ entry ∈ state.entries, entry.entryId = entryId

/-! ### Order -/

theorem scoredBefore_total (first second : Score × IndexEntry) :
    scoredBefore first second ∨ scoredBefore second first := by
  rcases lt_trichotomy first.1 second.1 with less | same | more
  · exact .inr (.inl less)
  · rcases le_total first.2.entryId second.2.entryId with before | after
    · exact .inl (.inr ⟨same, before⟩)
    · exact .inr (.inr ⟨same.symm, after⟩)
  · exact .inl (.inl more)

theorem scoredBefore_trans {first second third : Score × IndexEntry} (before : scoredBefore first second)
    (after : scoredBefore second third) : scoredBefore first third := by
  rcases before with more | ⟨same, before⟩
  · rcases after with other | ⟨equal, _⟩
    · exact .inl (other.trans more)
    · exact .inl (equal ▸ more)
  · rcases after with other | ⟨equal, after⟩
    · exact .inl (same ▸ other)
    · exact .inr ⟨same.trans equal, before.trans after⟩

instance : Std.Total (scoredBefore : Score × IndexEntry → Score × IndexEntry → Prop) :=
  ⟨scoredBefore_total⟩

instance : IsTrans (Score × IndexEntry) scoredBefore := ⟨fun _ _ _ => scoredBefore_trans⟩

/-- What a service answers to a query that it admits is a window of the ranking of what matches. -/
theorem answer_eq_page {file : Option (List Char)} {state : IndexState} {query : IndexQuery}
    (loaded : service.store.load file = .ok state) (granted : service.allowsRead = true)
    (admitted : service.Admits state query) :
    ∃ ranked fingerprint, ranked.Perm (service.matching state query) ∧
      ranked.Pairwise (Before query) ∧ ∀ limit cursor,
        service.answer file query limit cursor = service.page state ranked fingerprint limit cursor := by
  have required : service.require = .ok () := if_pos granted
  have read : (service.store.load file).mapError SearchFailure.index = .ok state := by
    rw [loaded]
    rfl
  cases query with
  | search vector tags =>
    refine ⟨(service.matching state (.search vector tags)).insertionSort scoredBefore,
      service.queryFingerprint (.object [("kind", .string "search"), ("vector", .array vector),
        ("tags", .array ((Index.sortedSet tags).map .string))]),
      List.perm_insertionSort scoredBefore _, List.pairwise_insertionSort scoredBefore _,
      fun limit cursor => ?_⟩
    rw [answer, search, required, admitted.1, admitted.2, read]
    rfl
  | browse tags =>
    refine ⟨((state.entries.filter (carries tags)).insertionSort fun first second =>
        IndexStore.precedes first second = true).map fun entry => (service.zero, entry),
      service.queryFingerprint (.object [("kind", .string "browse"),
        ("tags", .array ((Index.sortedSet tags).map .string))]),
      (List.perm_insertionSort _ _).map _, ?_, fun limit cursor => ?_⟩
    · rw [List.pairwise_map]
      exact (List.pairwise_insertionSort _ _).imp fun before => IndexStore.precedes_iff.mp before
    · rw [answer, browse, required, admitted, read]
      rfl
  | similarTo entryId =>
    obtain ⟨entry, stored, same⟩ := admitted
    obtain ⟨anchor, found⟩ : ∃ anchor, (IndexStore.byId state.entries).get? entryId = some anchor := by
      have member : entry ∈ IndexStore.withId state.entries entryId :=
        IndexStore.mem_withId.mpr ⟨stored, same⟩
      rw [IndexStore.get?_byId]
      exact ⟨_, List.getLast?_eq_some_getLast (List.ne_nil_of_mem member)⟩
    have matched : service.matching state (.similarTo entryId) =
        (state.entries.filter fun entry => decide (entry.entryId ≠ entryId)).map fun entry =>
          (service.similarity (anchor.embedding.map .float) entry.embedding, entry) := by
      rw [matching, found]
    refine ⟨(service.matching state (.similarTo entryId)).insertionSort scoredBefore,
      service.queryFingerprint (.object [("kind", .string "similar"), ("entry", .string entryId)]),
      List.perm_insertionSort scoredBefore _, List.pairwise_insertionSort scoredBefore _,
      fun limit cursor => ?_⟩
    rw [answer, similarTo, required, read, matched]
    simp only [ok_bind, found]

/-! ### Following cursors -/

/-- A cursor that continues a ranking from an offset. -/
def Continues (revision : Nat) (fingerprint : String) (offset : Nat) (cursor : Option String) : Prop :=
  (offset = 0 ∧ cursor = none) ∨ cursor = some (Cursor.encodeCursor revision offset fingerprint)

omit [LinearOrder Score] in
/-- A page of a service that is ready is the window from where its cursor continues. -/
theorem page_eq {state : IndexState} {ranked : List (Score × IndexEntry)} {fingerprint : String}
    {limit : Option Int} {cursor : Option String} {offset : Nat}
    (ready : service.stateOf state = .ready) (bounded : ∀ size ∈ limit, 1 ≤ size ∧ size ≤ maxPageSize)
    (continues : Continues state.revision fingerprint offset cursor) :
    ∃ size, 1 ≤ size ∧ service.page state ranked fingerprint limit cursor =
      .ok ⟨((ranked.drop offset).take size).map service.project, .ready, state.revision, ranked.length,
        if offset + ((ranked.drop offset).take size).length < ranked.length then
          some (Cursor.encodeCursor state.revision (offset + ((ranked.drop offset).take size).length)
            fingerprint) else none⟩ := by
  have sized : 1 ≤ limit.getD service.pageSize ∧ limit.getD service.pageSize ≤ maxPageSize := by
    cases limit with
    | none =>
      obtain ⟨least, most⟩ := service.pageSizeBounded
      rw [Option.getD_none, maxPageSize]
      omega
    | some size => exact bounded size rfl
  refine ⟨(limit.getD service.pageSize).toNat, by omega, ?_⟩
  rw [page]
  dsimp only
  rw [if_neg (not_not.mpr sized), if_neg (not_not.mpr ready)]
  rcases continues with ⟨rfl, rfl⟩ | rfl
  · rfl
  · dsimp only
    rw [Cursor.decodeCursor_encodeCursor]
    rfl

/-- Following a cursor walks through the rest of the ranking. -/
theorem follow_eq {file : Option (List Char)} {state : IndexState} {query : IndexQuery}
    {ranked : List (Score × IndexEntry)} {fingerprint : String} {limits : Nat → Option Int}
    (answers : ∀ limit cursor,
      service.answer file query limit cursor = service.page state ranked fingerprint limit cursor)
    (ready : service.stateOf state = .ready)
    (bounded : ∀ index, ∀ size ∈ limits index, 1 ≤ size ∧ size ≤ maxPageSize) {fuel index offset : Nat}
    {cursor : Option String} (continues : Continues state.revision fingerprint offset cursor)
    (inside : offset ≤ ranked.length) (enough : ranked.length - offset < fuel) :
    ∃ pages, service.follow file query limits fuel index cursor = .ok (some pages) ∧
      pages.flatMap (·.results) = (ranked.drop offset).map service.project ∧
      ∀ page ∈ pages, page.state = .ready ∧ page.revision = state.revision ∧
        page.total = ranked.length := by
  induction fuel generalizing index offset cursor with
  | zero => cases enough
  | succ fuel inductionHypothesis =>
    obtain ⟨size, least, paged⟩ := @page_eq _ service _ ranked _ _ _ _ ready (bounded index) continues
    rw [follow, answers, paged, ok_bind]
    dsimp only
    have length : ((ranked.drop offset).take size).length = min size (ranked.length - offset) := by
      rw [List.length_take, List.length_drop]
    split_ifs with more
    · have next : Continues state.revision fingerprint
          (offset + ((ranked.drop offset).take size).length) (some (Cursor.encodeCursor state.revision
            (offset + ((ranked.drop offset).take size).length) fingerprint)) := .inr rfl
      obtain ⟨pages, followed, results, alike⟩ := @inductionHypothesis (index + 1) _ _ next more.le
        (by omega)
      refine ⟨_ :: pages, by dsimp only; rw [followed]; rfl, ?_, ?_⟩
      · have whole : offset + ((ranked.drop offset).take size).length = offset + size := by omega
        rw [List.flatMap_cons, results, whole, ← List.map_append, ← List.drop_drop,
          List.take_append_drop]
      · exact List.forall_mem_cons.mpr ⟨⟨rfl, rfl, rfl⟩, alike⟩
    · have rest : (ranked.drop offset).take size = ranked.drop offset :=
        List.take_of_length_le (by rw [List.length_drop]; omega)
      refine ⟨[_], rfl, ?_, ?_⟩
      · rw [List.flatMap_cons, List.flatMap_nil, List.append_nil, rest]
      · exact List.forall_mem_singleton.mpr ⟨rfl, rfl, rfl⟩

/-- What matches a query is listed once, in one order, whatever the sizes of the pages. Following the
cursors comes to an end, the pages one after another are all entries that match, in the order of the
query, and each of them has the revision and the total. -/
theorem follow_lists_matching (file : Option (List Char)) (state : IndexState) (query : IndexQuery)
    (limits : Nat → Option Int) (loaded : service.store.load file = .ok state)
    (intact : state.health = .intact) (idle : service.indexing = false)
    (granted : service.allowsRead = true) (admitted : service.Admits state query)
    (bounded : ∀ index, ∀ size ∈ limits index, 1 ≤ size ∧ size ≤ maxPageSize) :
    ∃ (ranked : List (Score × IndexEntry)) (pages : List (ResultPage Score)),
      ranked.Perm (service.matching state query) ∧ ranked.Pairwise (Before query) ∧
      service.follow file query limits (ranked.length + 1) 0 none = .ok (some pages) ∧
      pages.flatMap (·.results) = ranked.map service.project ∧
      ∀ page ∈ pages, page.state = .ready ∧ page.revision = state.revision ∧
        page.total = ranked.length := by
  have ready : service.stateOf state = .ready := by
    rw [stateOf, intact, idle]
    rfl
  obtain ⟨ranked, fingerprint, perm, sorted, answers⟩ := service.answer_eq_page loaded granted admitted
  obtain ⟨pages, followed, results, alike⟩ := @follow_eq _ _ service _ _ _ _ _ _ answers ready bounded
    _ 0 _ _ (.inl ⟨rfl, rfl⟩) (Nat.zero_le ranked.length) (Nat.lt_succ_self _)
  exact ⟨ranked, pages, perm, sorted, followed, results, alike⟩

/-- A service over an index of two entries at most, which is built or not. It finds all entries equally
close. -/
def exampleService (indexing : Bool) : IndexQueryService Int where
  store := { IndexStore.exampleStore 600 (by decide) with
    maxEntries := 2
    maxEntriesBounded := by decide }
  roots := ["/home"]
  pageSize := 25
  indexing
  allowsRead := true
  zero := 0
  similarity _ _ := 1
  rounded := id
  sha256 bytes := toString bytes.length
  pageSizeBounded := by decide

/-- An entry of one dimension under an id. -/
def exampleEntry (entryId : String) : Option EntryInput := some {
  entryId := .string entryId
  digest := .string "digest"
  sourcePath := .string ("/home/" ++ entryId)
  embedding := [.int 1]
  tags := .array [.string "tag"]
  attributes := .object [("sizeBytes", .int 7)]
  updatedAtMs := .int 5 }

/-- The file after an update of no file. -/
def updatedFile (service : IndexQueryService Score) (request : IndexRequest) : Option (List Char) :=
  match service.store.run none (fun _ => 0) request with
  | .ok (_, next) => next
  | .error _ => none

/-- An index with two entries. -/
def exampleFile (indexing : Bool) : Option (List Char) :=
  updatedFile (exampleService indexing) (.upsert [exampleEntry "two", exampleEntry "one"] none)

/-- The ids of the results of pages. -/
def listedIds (pages : List (ResultPage Score)) : List (List String) :=
  pages.map fun page => page.results.map (·.entryId)

theorem load_exampleFile (indexing : Bool) : ∃ state,
    (exampleService indexing).store.load (exampleFile indexing) = .ok state ∧ state.health = .intact ∧
      state.entries.length = 2 ∧ ∀ entry ∈ state.entries, carries ["tag"] entry = true := by
  have ran : (match (exampleService indexing).store.load (exampleFile indexing) with
      | .ok state => decide (state.health = .intact ∧ state.entries.length = 2 ∧
          ∀ entry ∈ state.entries, carries ["tag"] entry = true)
      | .error _ => false) = true := by
    cases indexing <;> decide +kernel
  split at ran
  · rename_i state loaded
    exact ⟨state, loaded, of_decide_eq_true ran⟩
  · cases ran

/-- Two pages of one result each, which are equally close and ordered by their ids. -/
theorem follow_lists_matching_close : ∃ (state : IndexState) (ranked : List (Int × IndexEntry))
    (pages : List (ResultPage Int)), listedIds pages = [["one"], ["two"]] ∧
      ranked.Perm ((exampleService false).matching state (.search [.int 1] ["tag"])) ∧
      ranked.Pairwise (Before (.search [.int 1] ["tag"])) ∧
      (exampleService false).follow (exampleFile false) (.search [.int 1] ["tag"]) (fun _ => some 1)
        (ranked.length + 1) 0 none = .ok (some pages) ∧
      pages.flatMap (·.results) = ranked.map (exampleService false).project ∧
      ∀ page ∈ pages, page.state = .ready ∧ page.revision = state.revision ∧
        page.total = ranked.length := by
  obtain ⟨state, loaded, intact, two, tagged⟩ := load_exampleFile false
  obtain ⟨ranked, pages, perm, sorted, followed, listed⟩ := follow_lists_matching (exampleService false)
    (exampleFile false) state (.search [.int 1] ["tag"]) (fun _ => some 1) loaded intact rfl rfl
    ⟨by decide +kernel, by decide +kernel⟩ (fun _ size same => by cases same; decide)
  have length : ranked.length = 2 := by
    rw [perm.length_eq, matching, List.length_map, List.filter_eq_self.mpr tagged, two]
  have walked : ((exampleService false).follow (exampleFile false) (.search [.int 1] ["tag"])
      (fun _ => some 1) 3 0 none).toOption.map (·.map listedIds) = some (some [["one"], ["two"]]) := by
    decide +kernel
  have pageIds : listedIds pages = [["one"], ["two"]] := by
    rw [length] at followed
    rw [followed] at walked
    exact Option.some.inj (Option.some.inj walked)
  exact ⟨state, ranked, pages, pageIds, perm, sorted, followed, listed⟩

/-- While the index is built, nothing of it is listed. -/
theorem not_lists_while_indexing : ¬ ∀ (service : IndexQueryService Int) (file : Option (List Char))
    (state : IndexState) (query : IndexQuery) (limits : Nat → Option Int),
    service.store.load file = .ok state → state.health = .intact → service.allowsRead = true →
    service.Admits state query → (∀ index, ∀ size ∈ limits index, 1 ≤ size ∧ size ≤ maxPageSize) →
    ∃ (ranked : List (Int × IndexEntry)) (pages : List (ResultPage Int)) (fuel : Nat),
      ranked.Perm (service.matching state query) ∧
      service.follow file query limits fuel 0 none = .ok (some pages) ∧
      pages.flatMap (·.results) = ranked.map service.project := by
  intro claim
  obtain ⟨state, loaded, intact, two, _⟩ := load_exampleFile true
  obtain ⟨ranked, pages, fuel, perm, followed, results⟩ := claim (exampleService true) (exampleFile true)
    state (.browse []) (fun _ => none) loaded intact rfl rfl (fun _ _ none => by cases none)
  have stopped : (exampleService true).answer (exampleFile true) (.browse []) none none =
      .ok ⟨[], .indexing, state.revision, 0, none⟩ := by
    have read : ((exampleService true).store.load (exampleFile true)).mapError SearchFailure.index = .ok state := by
      rw [loaded]
      rfl
    have building : (exampleService true).stateOf state = .indexing := by
      rw [stateOf, intact]
      rfl
    rw [answer, browse, read]
    change (exampleService true).page state _ _ none none = _
    rw [page, building]
    rfl
  have empty : pages.flatMap (·.results) = [] := by
    cases fuel with
    | zero => cases followed
    | succ fuel =>
      rw [follow, stopped] at followed
      cases followed
      rfl
  rw [empty] at results
  have all : state.entries.filter (carries []) = state.entries :=
    List.filter_eq_self.mpr fun _ _ => rfl
  have length := perm.length_eq
  rw [List.map_eq_nil_iff.mp results.symm, matching, List.length_map, all, two] at length
  cases length

end IndexQueryService

end Omnitensor
