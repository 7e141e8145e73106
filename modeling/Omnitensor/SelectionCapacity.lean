/-
This file says when every request that is built from a selection is accepted.

All references are different, since a reference tells the file, the page and the block. A pass for a
question, or over pages, never names too many of them. The organizer names all of them at once, and is
refused where a selection has more files and spans than a request names references.
-/

import Omnitensor.SelectionRequests

namespace Omnitensor

namespace DocumentSpans

open Spans (TokenRatios Blank)

/-! ### Accepted requests -/

/-- A request that is built, and that names references: some, not too many, and all different. -/
def Accepted (references : List PyString) (request : Except GenerationError GenerationRequest) : Prop :=
  ∃ built, request = .ok built ∧ built.contentReferences = references ∧
    references.length ≤ maxContentReferences ∧ references.Nodup

/-- A text of some characters, and not too many. -/
def Bounded (maximum : Nat) (text : PyString) : Prop := text ≠ [] ∧ text.length ≤ maximum

variable {jobId text : PyString} {maximum number start number' : Nat} {first second : List Char}

theorem boundedText_eq_ok {value result : PyString} {label : String} :
    boundedText value label maximum = .ok result ↔ Bounded maximum value ∧ value = result := by
  rw [boundedText, Bounded]
  split
  · rename_i refused
    refine iff_of_false (fun ran => by cases ran) fun both => ?_
    exact refused.elim both.1.1 (Nat.not_lt_of_le both.1.2)
  · rename_i accepted
    rw [not_or, not_lt] at accepted
    rw [Except.ok.injEq, and_iff_right accepted]

theorem mapM_boundedText {values results : List PyString} {label : String} :
    (values.mapM fun value => boundedText value label maximum) = .ok results ↔
      (∀ value ∈ values, Bounded maximum value) ∧ values = results := by
  induction values generalizing results with
  | nil =>
    rw [List.mapM_nil]
    exact ⟨fun same => ⟨fun _ member => absurd member List.not_mem_nil, Except.ok.inj same⟩,
      fun same => same.2 ▸ rfl⟩
  | cons value values inductionHypothesis =>
    rw [List.mapM_cons, bind_eq_ok, List.forall_mem_cons]
    constructor
    · rintro ⟨first, ran, rest⟩
      obtain ⟨bounded, rfl⟩ := boundedText_eq_ok.mp ran
      obtain ⟨others, all, same⟩ := bind_eq_ok.mp rest
      obtain ⟨more, rfl⟩ := inductionHypothesis.mp all
      exact ⟨⟨bounded, more⟩, Except.ok.inj same⟩
    · rintro ⟨⟨bounded, more⟩, rfl⟩
      exact ⟨value, boundedText_eq_ok.mpr ⟨bounded, rfl⟩, bind_eq_ok.mpr
        ⟨values, inductionHypothesis.mpr ⟨more, rfl⟩, rfl⟩⟩

/-- A request of a known task is built as it was asked, exactly if its references are some, few, bounded
and different. -/
theorem generationRequest_eq_ok {requestId taskId : PyString} {references : List PyString}
    {built : GenerationRequest} (identified : Bounded 120 requestId)
    (known : taskId.length ≤ 120 ∧ identifierPattern taskId = true) :
    generationRequest requestId taskId references = .ok built ↔
      (references ≠ [] ∧ references.length ≤ maxContentReferences ∧
        (∀ reference ∈ references, Bounded 240 reference) ∧ references.Nodup) ∧
        built = ⟨requestId, taskId, references⟩ := by
  have request : boundedText requestId "request id" 120 = .ok requestId :=
    boundedText_eq_ok.mpr ⟨identified, rfl⟩
  have task : boundedIdentifier taskId "task id" = .ok taskId := by
    rw [boundedIdentifier, if_neg]
    rw [not_or, not_lt, Bool.not_eq_false]
    exact known
  rw [generationRequest, request, ok_bind, task, ok_bind]
  split
  · rename_i refused
    refine iff_of_false (fun ran => by cases ran) fun both => ?_
    exact refused.elim both.1.1 (Nat.not_lt_of_le both.1.2.1)
  rename_i counted
  rw [not_or, not_lt] at counted
  rw [bind_eq_ok]
  constructor
  · rintro ⟨results, ran, rest⟩
    obtain ⟨bounded, rfl⟩ := mapM_boundedText.mp ran
    split at rest
    · cases rest
    · rename_i different
      exact ⟨⟨counted.1, counted.2, bounded, not_not.mp different⟩, (Except.ok.inj rest).symm⟩
  · rintro ⟨⟨_, _, bounded, different⟩, rfl⟩
    refine ⟨references, mapM_boundedText.mpr ⟨bounded, rfl⟩, ?_⟩
    rw [if_neg (not_not.mpr different)]
    rfl

/-! ### References -/

theorem ofChars_inj (same : PyString.ofChars first = PyString.ofChars second) :
    first = second := List.map_injective_iff.mpr (fun _ _ same => by cases same; rfl) same

theorem toDigits_injective : Function.Injective (Nat.toDigits 10) := by
  intro first second same
  have values := congrArg (Nat.ofDigitChars 10 · 0) same
  simpa only [Nat.ofDigitChars_ten_toDigits] using values

/-- A number and what follows of it without a digit are read back from their text. -/
theorem toDigits_append_inj {first second : Nat} {rest other : List Char}
    (ends : ∀ char ∈ rest.head?, Numeral.digit char = false)
    (otherEnds : ∀ char ∈ other.head?, Numeral.digit char = false)
    (same : Nat.toDigits 10 first ++ rest = Nat.toDigits 10 second ++ other) :
    first = second ∧ rest = other := by
  have stops : ∀ {number : Nat} {rest : List Char}, (∀ char ∈ rest.head?, Numeral.digit char = false) →
      (Nat.toDigits 10 number ++ rest).takeWhile Numeral.digit = Nat.toDigits 10 number := by
    intro number rest ends
    rw [List.takeWhile_append_of_pos (Numeral.digit_toDigits number)]
    cases rest with
    | nil => rw [List.takeWhile_nil, List.append_nil]
    | cons char rest => rw [List.takeWhile_cons_of_neg (by rw [ends char rfl]; decide), List.append_nil]
  have digits := congrArg (List.takeWhile Numeral.digit) same
  rw [stops ends, stops otherEnds] at digits
  cases toDigits_injective digits
  exact ⟨rfl, List.append_cancel_left same⟩

/-- The characters of the reference of a span after its request. -/
theorem spanReference_eq (document : SelectedDocument) (jobId : PyString) (number page start stop : Nat) :
    spanReference (document.source jobId number) page start stop =
      PyString.ofString "private:" ++ (jobId ++ PyString.ofChars (":source:".toList ++
        (Nat.toDigits 10 number ++ (":page:".toList ++ (Nat.toDigits 10 page ++ (":span:".toList ++
          (Nat.toDigits 10 start ++ ('-' :: Nat.toDigits 10 stop)))))))) := by
  rw [spanReference, List.append_assoc]
  refine congrArg (_ ++ ·) (congrArg (_ ++ ·) (congrArg PyString.ofChars ?_))
  change (":source:" ++ toString number ++ ":page:" ++ toString page ++ ":span:" ++ toString start ++ "-" ++
    toString stop).toList = _
  simp only [String.toList_append, Nat.toString_eq_repr, Nat.toList_repr, List.append_assoc]
  rfl

/-- What follows of a reference after its request. -/
theorem referenceTail_inj
    (same : PyString.ofString "private:" ++ (jobId ++ PyString.ofChars first) =
      PyString.ofString "private:" ++ (jobId ++ PyString.ofChars second)) : first = second :=
  ofChars_inj (List.append_cancel_left (List.append_cancel_left same))

theorem metadataReference_eq (jobId : PyString) (number : Nat) :
    metadataReference jobId number = PyString.ofString "private:" ++ (jobId ++ PyString.ofChars
      (":metadata:".toList ++ Nat.toDigits 10 number)) := by
  rw [metadataReference, List.append_assoc]
  refine congrArg (_ ++ ·) (congrArg (_ ++ ·) (congrArg PyString.ofChars ?_))
  simp only [String.toList_append, Nat.toString_eq_repr, Nat.toList_repr]

theorem pageReference_eq (jobId : PyString) (number : Nat) (page : Nat × PyString) :
    (pageFragment jobId number page).1 = PyString.ofString "private:" ++ (jobId ++ PyString.ofChars
      (":source:".toList ++ (Nat.toDigits 10 number ++ (":page:".toList ++ Nat.toDigits 10 page.1)))) := by
  rw [pageFragment, List.append_assoc]
  refine congrArg (_ ++ ·) (congrArg (_ ++ ·) (congrArg PyString.ofChars ?_))
  simp only [String.toList_append, Nat.toString_eq_repr, Nat.toList_repr, List.append_assoc]

variable {document : SelectedDocument}

theorem spanReference_inj {other : SelectedDocument} {page stop page' start' stop' : Nat}
    (same : spanReference (document.source jobId number) page start stop =
      spanReference (other.source jobId number') page' start' stop') :
    number = number' ∧ page = page' ∧ start = start' := by
  have page_ends : ∀ rest : List Char, ∀ char ∈ (":page:".toList ++ rest).head?,
      Numeral.digit char = false := fun rest char head => by
    cases (show some ':' = some char from head)
    decide
  have span_ends : ∀ rest : List Char, ∀ char ∈ (":span:".toList ++ rest).head?,
      Numeral.digit char = false := fun rest char head => by
    cases (show some ':' = some char from head)
    decide
  have dash_ends : ∀ rest : List Char, ∀ char ∈ ('-' :: rest).head?, Numeral.digit char = false :=
    fun rest char head => by
    cases (show some '-' = some char from head)
    decide
  rw [spanReference_eq, spanReference_eq] at same
  obtain ⟨rfl, pages⟩ := toDigits_append_inj (page_ends _) (page_ends _)
    (List.append_cancel_left (referenceTail_inj same))
  obtain ⟨rfl, spans⟩ := toDigits_append_inj (span_ends _) (span_ends _) (List.append_cancel_left pages)
  obtain ⟨rfl, _⟩ := toDigits_append_inj (dash_ends _) (dash_ends _) (List.append_cancel_left spans)
  exact ⟨rfl, rfl, rfl⟩

/-! ### Spans of a selection -/

variable {sha256 : PyString → PyString}

/-- The positions of a page at which a span begins. -/
def spanStarts (text : PyString) : List Nat :=
  (blockStarts text.length).filter fun start => decide (¬ Blank (block text start))

/-- How many spans a document has. -/
def SelectedDocument.spanCount (document : SelectedDocument) : Nat :=
  (document.pages.map fun page => (spanStarts page.2).length).sum

/-- The spans of documents from a number on. -/
def selectionSpans (sha256 : PyString → PyString) (jobId : PyString) :
    Nat → List SelectedDocument → List IndexedSpan
  | _, [] => []
  | number, document :: documents =>
    (document.pages.map extractedPage).flatMap (spansOf sha256 (document.source jobId number)) ++
      selectionSpans sha256 jobId (number + 1) documents

/-- Every span of a document has a reference that is private. -/
def SelectedDocument.Referable (document : SelectedDocument) (jobId : PyString) (number : Nat) : Prop :=
  ∀ page ∈ document.pages, ∀ start ∈ spanStarts page.2,
    privateReference (spanReference (document.source jobId number) page.1 start
      (min (start + maxSpanCharacters) page.2.length)) = true

/-- Every span of documents from a number on has a reference that is private. -/
def Referable (jobId : PyString) : Nat → List SelectedDocument → Prop
  | _, [] => True
  | number, document :: documents =>
    document.Referable jobId number ∧ Referable jobId (number + 1) documents

theorem mem_spanStarts :
    start ∈ spanStarts text ↔ start ∈ blockStarts text.length ∧ ¬ Blank (block text start) := by
  rw [spanStarts, List.mem_filter, decide_eq_true_eq]

theorem readable_extractedPage {page : Nat × PyString} (member : page ∈ document.pages) :
    Readable (document.source jobId number) (extractedPage page) ↔
      ∀ start ∈ spanStarts page.2, privateReference (spanReference (document.source jobId number) page.1
        start (min (start + maxSpanCharacters) page.2.length)) = true := by
  obtain ⟨positive, _, encodable⟩ := document.valid page member
  constructor
  · rintro ⟨_, _, same, _, named⟩ start started
    cases same
    exact (named start (mem_spanStarts.mp started).1 (mem_spanStarts.mp started).2).1
  · intro named
    refine ⟨page.1, page.2, rfl, Int.ofNat_le.mpr positive, fun start started filled => ⟨named start
      (mem_spanStarts.mpr ⟨started, filled⟩), ?_⟩⟩
    exact fun point inside => encodable point (List.mem_of_mem_take (List.mem_of_mem_drop inside))

/-- A page that is not blank has a span. -/
theorem spanStarts_ne_nil (filled : ¬ Blank text) : spanStarts text ≠ [] := by
  intro none
  refine filled ?_
  rw [← flatten_blocks text, Spans.blank_flatten]
  intro part member
  obtain ⟨start, started, rfl⟩ := List.mem_map.mp member
  by_contra something
  have found := mem_spanStarts.mpr ⟨started, something⟩
  rw [none] at found
  exact List.not_mem_nil found

theorem spansOf_extractedPage (source : SpanSource) (page : Nat × PyString) :
    spansOf sha256 source (extractedPage page) =
      (spanStarts page.2).map (indexedSpan sha256 source page.1 page.2) := rfl

theorem valid_source (requested : jobId ≠ []) (positive : 1 ≤ number) :
    (document.source jobId number).valid none = true := by
  obtain ⟨filled, slash, backslash⟩ := document.named
  simp only [SpanSource.valid, Bool.and_eq_true, decide_eq_true_eq, Option.all_none]
  exact ⟨⟨⟨⟨⟨⟨requested, Int.ofNat_le.mpr positive⟩, filled⟩, slash⟩, backslash⟩, document.digested⟩, trivial⟩

variable {documents : List SelectedDocument}

/-- The spans are extracted exactly if each has a private reference. No document is without any. -/
theorem extractSpans_eq_ok {refuseEmpty : Bool} {spans : List IndexedSpan} (requested : jobId ≠ [])
    (positive : 1 ≤ number) : extractSpans sha256 jobId refuseEmpty number documents = .ok spans ↔
      Referable jobId number documents ∧ spans = selectionSpans sha256 jobId number documents := by
  induction documents generalizing number spans with
  | nil =>
    rw [extractSpans, Except.ok.injEq, Referable, selectionSpans, true_and]
    exact eq_comm
  | cons document documents inductionHypothesis =>
    have readable : (∀ page ∈ document.pages.map extractedPage,
        Readable (document.source jobId number) page) ↔ document.Referable jobId number := by
      rw [List.forall_mem_map]
      exact forall₂_congr fun page member => readable_extractedPage member
    have some_span : (document.pages.map extractedPage).flatMap
        (spansOf sha256 (document.source jobId number)) ≠ [] := by
      obtain ⟨page, member⟩ := List.exists_mem_of_ne_nil _ document.paged
      intro none
      have blank := List.flatMap_eq_nil_iff.mp none _ (List.mem_map_of_mem member)
      rw [spansOf_extractedPage, List.map_eq_nil_iff] at blank
      exact spanStarts_ne_nil (document.valid page member).2.1 blank
    have following : 1 ≤ number + 1 := Nat.le_add_left _ _
    rw [extractSpans, Referable, selectionSpans, bind_eq_ok]
    constructor
    · rintro ⟨own, ran, rest⟩
      obtain ⟨_, named, rfl⟩ := pageSpans_eq_ok.mp ran
      rw [decide_eq_false some_span, Bool.and_false, if_neg Bool.false_ne_true] at rest
      obtain ⟨others, ran, same⟩ := bind_eq_ok.mp rest
      obtain ⟨all, rfl⟩ := (inductionHypothesis following).mp ran
      exact ⟨⟨readable.mp named, all⟩, (Except.ok.inj same).symm⟩
    · rintro ⟨⟨named, all⟩, rfl⟩
      refine ⟨_, pageSpans_eq_ok.mpr ⟨valid_source requested positive, readable.mpr named, rfl⟩, ?_⟩
      rw [decide_eq_false some_span, Bool.and_false, if_neg Bool.false_ne_true]
      exact bind_eq_ok.mpr ⟨_, (inductionHypothesis following).mpr ⟨all, rfl⟩, rfl⟩

theorem length_selectionSpans :
    (selectionSpans sha256 jobId number documents).length =
      (documents.map SelectedDocument.spanCount).sum := by
  induction documents generalizing number with
  | nil => rfl
  | cons document documents inductionHypothesis =>
    rw [selectionSpans, List.length_append, inductionHypothesis, List.map_cons, List.sum_cons,
      SelectedDocument.spanCount, List.length_flatMap, List.map_map]
    refine congrArg (List.sum · + _) (List.map_congr_left fun page _ => ?_)
    rw [Function.comp_apply, spansOf_extractedPage, List.length_map]

theorem span_of_mem_selectionSpans {span : IndexedSpan}
    (member : span ∈ selectionSpans sha256 jobId number documents) :
    ∃ document : SelectedDocument, ∃ later page start stop : Nat, number ≤ later ∧
      span.reference = spanReference (document.source jobId later) page start stop := by
  induction documents generalizing number with
  | nil => exact absurd member List.not_mem_nil
  | cons document documents inductionHypothesis =>
    rcases List.mem_append.mp member with own | others
    · obtain ⟨_, among, found⟩ := List.mem_flatMap.mp own
      obtain ⟨page, _, rfl⟩ := List.mem_map.mp among
      obtain ⟨start, _, rfl⟩ := List.mem_map.mp found
      exact ⟨document, number, page.1, start, _, Nat.le_refl number, rfl⟩
    · obtain ⟨other, later, page, start, stop, after, same⟩ := inductionHypothesis others
      exact ⟨other, later, page, start, stop, Nat.le_of_succ_le after, same⟩

theorem private_of_mem_selectionSpans {span : IndexedSpan}
    (named : Referable jobId number documents)
    (member : span ∈ selectionSpans sha256 jobId number documents) :
    privateReference span.reference = true := by
  induction documents generalizing number with
  | nil => exact absurd member List.not_mem_nil
  | cons document documents inductionHypothesis =>
    rcases List.mem_append.mp member with own | others
    · obtain ⟨_, among, found⟩ := List.mem_flatMap.mp own
      obtain ⟨page, paged, rfl⟩ := List.mem_map.mp among
      obtain ⟨start, started, rfl⟩ := List.mem_map.mp found
      exact named.1 page paged start started
    · exact inductionHypothesis named.2 others

theorem nodup_blockStarts (length : Nat) : (blockStarts length).Nodup := by
  refine List.Nodup.map (fun first second same => ?_) List.nodup_range
  have positive : 0 < maxSpanCharacters := by decide
  exact Nat.eq_of_mul_eq_mul_right positive same

/-- The references of a selection's spans are different. -/
theorem nodup_selectionSpans (jobId : PyString) (number : Nat) (documents : List SelectedDocument) :
    ((selectionSpans sha256 jobId number documents).map IndexedSpan.reference).Nodup := by
  induction documents generalizing number with
  | nil => exact List.nodup_nil
  | cons document documents inductionHypothesis =>
    rw [selectionSpans, List.map_append, List.nodup_append]
    refine ⟨?_, inductionHypothesis (number + 1), ?_⟩
    · rw [List.flatMap_map, List.map_flatMap, List.nodup_flatMap]
      constructor
      · intro page _
        rw [spansOf_extractedPage, List.map_map]
        refine List.Nodup.map (fun first second same => ?_) ((nodup_blockStarts _).filter _)
        exact (spanReference_inj same).2.2
      · refine (List.pairwise_map.mp document.numbered).imp fun {page other} different => ?_
        rw [Function.onFun, List.disjoint_left]
        rintro _ first second
        obtain ⟨_, found, rfl⟩ := List.mem_map.mp first
        obtain ⟨start, _, rfl⟩ := List.mem_map.mp found
        obtain ⟨_, found, same⟩ := List.mem_map.mp second
        obtain ⟨begun, _, rfl⟩ := List.mem_map.mp found
        exact different (spanReference_inj same).2.1.symm
    · rintro _ first _ second rfl
      obtain ⟨span, found, same⟩ := List.mem_map.mp first
      obtain ⟨_, among, made⟩ := List.mem_flatMap.mp found
      obtain ⟨page, _, rfl⟩ := List.mem_map.mp among
      obtain ⟨start, _, rfl⟩ := List.mem_map.mp made
      obtain ⟨other, found, again⟩ := List.mem_map.mp second
      obtain ⟨_, later, _, _, _, after, told⟩ := span_of_mem_selectionSpans found
      have numbers := (spanReference_inj (same.trans (again.symm.trans told))).1
      omega

/-! ### Pages of a selection -/

theorem pageReference_inj {page other : Nat × PyString}
    (same : (pageFragment jobId number page).1 = (pageFragment jobId number' other).1) :
    number = number' ∧ page.1 = other.1 := by
  have page_ends : ∀ rest : List Char, ∀ char ∈ (":page:".toList ++ rest).head?,
      Numeral.digit char = false := fun rest char head => by
    cases (show some ':' = some char from head)
    decide
  rw [pageReference_eq, pageReference_eq] at same
  obtain ⟨rfl, pages⟩ := toDigits_append_inj (page_ends _) (page_ends _)
    (List.append_cancel_left (referenceTail_inj same))
  exact ⟨rfl, toDigits_injective (List.append_cancel_left pages)⟩

/-- The references of a selection's pages are different. -/
theorem nodup_pageFragments (jobId : PyString) (number : Nat) (documents : List SelectedDocument) :
    ((pageFragments jobId number documents).map Prod.fst).Nodup ∧
      ∀ fragment ∈ pageFragments jobId number documents, ∃ later page, number ≤ later ∧
        fragment = pageFragment jobId later page := by
  induction documents generalizing number with
  | nil => exact ⟨List.nodup_nil, fun _ member => absurd member List.not_mem_nil⟩
  | cons document documents inductionHypothesis =>
    obtain ⟨different, told⟩ := inductionHypothesis (number + 1)
    rw [pageFragments, List.map_append, List.nodup_append, List.map_map]
    refine ⟨⟨?_, different, ?_⟩, ?_⟩
    · refine List.Nodup.map_on ?_ (List.Nodup.of_map _ document.numbered)
      intro page paged other listed same
      exact List.inj_on_of_nodup_map document.numbered paged listed (pageReference_inj same).2
    · rintro _ first _ second rfl
      obtain ⟨page, _, same⟩ := List.mem_map.mp first
      obtain ⟨_, found, again⟩ := List.mem_map.mp second
      obtain ⟨later, other, after, rfl⟩ := told _ found
      have numbers := (pageReference_inj (same.trans again.symm)).1
      omega
    · intro fragment member
      rcases List.mem_append.mp member with own | others
      · obtain ⟨page, _, rfl⟩ := List.mem_map.mp own
        exact ⟨number, page, Nat.le_refl number, rfl⟩
      · obtain ⟨later, page, after, same⟩ := told fragment others
        exact ⟨later, page, Nat.le_of_succ_le after, same⟩

/-- The reference of a page begins that of each of its spans. -/
theorem spanReference_eq_append (document : SelectedDocument) (jobId : PyString) (number : Nat)
    (page : Nat × PyString) (start stop : Nat) :
    spanReference (document.source jobId number) page.1 start stop =
      (pageFragment jobId number page).1 ++ PyString.ofChars (":span:".toList ++
        (Nat.toDigits 10 start ++ ('-' :: Nat.toDigits 10 stop))) := by
  have joined : ∀ first second : List Char,
      PyString.ofChars (first ++ second) = PyString.ofChars first ++ PyString.ofChars second :=
    fun _ _ => List.map_append
  rw [spanReference_eq, pageReference_eq]
  simp only [joined, List.append_assoc]

theorem bounded_of_privateReference (named : privateReference text = true) : Bounded 240 text := by
  simp only [privateReference, Bool.and_eq_true, decide_eq_true_eq, List.length_drop] at named
  refine ⟨fun empty => ?_, by omega⟩
  rw [empty, List.length_nil] at named
  omega

theorem bounded_of_mem_pageFragments {fragment : PyString × PyString}
    (named : Referable jobId number documents)
    (member : fragment ∈ pageFragments jobId number documents) : Bounded 240 fragment.1 := by
  induction documents generalizing number with
  | nil => exact absurd member List.not_mem_nil
  | cons document documents inductionHypothesis =>
    rcases List.mem_append.mp member with own | others
    · obtain ⟨page, paged, rfl⟩ := List.mem_map.mp own
      obtain ⟨start, started⟩ := List.exists_mem_of_ne_nil _
        (spanStarts_ne_nil (document.valid page paged).2.1)
      have whole := bounded_of_privateReference (named.1 page paged start started)
      rw [spanReference_eq_append, Bounded, List.length_append] at whole
      refine ⟨?_, (Nat.le_add_right _ _).trans whole.2⟩
      rw [pageReference_eq]
      exact List.cons_ne_nil _ _
    · exact inductionHypothesis named.2 others

/-! ### Requests of a selection -/

theorem accepted_iff {requestId taskId : PyString} {references : List PyString}
    (identified : Bounded 120 requestId)
    (known : taskId.length ≤ 120 ∧ identifierPattern taskId = true) :
    Accepted references (generationRequest requestId taskId references) ↔
      references ≠ [] ∧ references.length ≤ maxContentReferences ∧
        (∀ reference ∈ references, Bounded 240 reference) ∧ references.Nodup := by
  constructor
  · rintro ⟨built, ran, _⟩
    exact ((generationRequest_eq_ok identified known).mp ran).1
  · intro valid
    exact ⟨_, (generationRequest_eq_ok identified known).mpr ⟨valid, rfl⟩, rfl, valid.2.1, valid.2.2.2⟩

variable (sha256 : PyString → PyString) (ratios : TokenRatios) (share : SourceShare) (selection : Selection)

theorem Selection.bounded_jobId : Bounded 120 selection.jobId := by
  have identified := selection.identified
  simp only [requestIdPattern, Bool.and_eq_true, decide_eq_true_eq] at identified
  exact ⟨List.length_pos_iff.mp identified.1.1, identified.1.2⟩

/-- The references that the organizer names. -/
def organizerReferences (spans : List IndexedSpan) : List PyString :=
  (List.range' 1 selection.documents.length).map (metadataReference selection.jobId) ++
    spans.map IndexedSpan.reference

/-- A selection that every workload serves: its spans are extracted, every request is accepted, and every
span, or page, is named by a request. -/
structure Serves : Prop where
  organized : ∃ spans, extractSpans sha256 selection.jobId true 1 selection.documents = .ok spans ∧
    Accepted (organizerReferences selection spans) (organizerRequest selection spans)
  answered : ∃ spans, extractSpans sha256 selection.jobId false 1 selection.documents = .ok spans ∧
    ∀ retrieved, retrieved.Perm spans → ∀ contextTokens,
      (∀ request ∈ questionRequests selection retrieved contextTokens,
        ∃ references, Accepted references request) ∧
      ∀ span ∈ spans, ∃ built, .ok built ∈ questionRequests selection retrieved contextTokens ∧
        span.reference ∈ built.contentReferences
  dated : ∀ contextTokens promptTokens,
    (∀ request ∈ eventRequests ratios share selection contextTokens promptTokens,
      ∃ references, Accepted references request) ∧
    ∀ fragment ∈ pageFragments selection.jobId 1 selection.documents,
      ∃ built, .ok built ∈ eventRequests ratios share selection contextTokens promptTokens ∧
        fragment.1 ∈ built.contentReferences

variable {sha256 ratios share selection}

/-- What a pass within some number of references names is no more. -/
theorem length_le_of_groups {Item : Type} {cost : Item → Nat} {budget most : Int} {items pass : List Item}
    {passes : List (List Item)} (grouping : Grouping.Groups (within cost budget most) items passes)
    (room : 1 ≤ most) (member : pass ∈ passes) : pass ≠ [] ∧ (pass.length : Int) ≤ most ∧
      pass.Sublist items := by
  refine ⟨grouping.filled pass member, ?_, grouping.whole ▸ List.sublist_flatten_of_mem member⟩
  rcases grouping.admitted pass member with fit | ⟨item, rfl⟩
  · rw [within, decide_eq_true_eq] at fit
    exact fit.2
  · exact room

theorem accepted_organizerRequest (named : Referable selection.jobId 1 selection.documents) :
    Accepted (organizerReferences selection (selectionSpans sha256 selection.jobId 1 selection.documents))
        (organizerRequest selection (selectionSpans sha256 selection.jobId 1 selection.documents)) ↔
      selection.documents.length + (selection.documents.map SelectedDocument.spanCount).sum ≤
        maxContentReferences := by
  have length : (organizerReferences selection
      (selectionSpans sha256 selection.jobId 1 selection.documents)).length =
      selection.documents.length + (selection.documents.map SelectedDocument.spanCount).sum := by
    rw [organizerReferences, List.length_append, List.length_map, List.length_range', List.length_map,
      length_selectionSpans]
  have known := @accepted_iff selection.jobId (.ofString "file-organizer")
    (organizerReferences selection (selectionSpans sha256 selection.jobId 1 selection.documents))
    selection.bounded_jobId (by decide +kernel)
  rw [← length]
  refine known.trans ⟨fun valid => valid.2.1, fun short => ⟨?_, short, ?_, ?_⟩⟩
  · rw [← List.length_pos_iff, length]
    have counted := selection.counted.1
    omega
  · intro reference member
    rcases List.mem_append.mp member with metadata | spans
    · obtain ⟨number, among, rfl⟩ := List.mem_map.mp metadata
      have digits : ∀ number < 17, (Nat.toDigits 10 number).length ≤ 2 := by decide
      have few := digits number (by
        have counted := selection.counted.2
        rw [List.mem_range'_1] at among
        omega)
      have bounded := selection.bounded_jobId.2
      rw [metadataReference_eq]
      refine ⟨List.cons_ne_nil _ _, ?_⟩
      simp only [List.length_append, PyString.ofChars, List.length_map]
      have head_length : (PyString.ofString "private:").length = 8 := by decide
      have word_length : ":metadata:".toList.length = 10 := by decide
      omega
    · obtain ⟨span, found, rfl⟩ := List.mem_map.mp spans
      exact bounded_of_privateReference (private_of_mem_selectionSpans named found)
  · rw [organizerReferences, List.nodup_append]
    refine ⟨List.Nodup.map (fun first second same => ?_) (List.nodup_range' 1 Nat.one_pos),
      nodup_selectionSpans _ _ _, ?_⟩
    · rw [metadataReference_eq, metadataReference_eq] at same
      exact toDigits_injective (List.append_cancel_left (referenceTail_inj same))
    · rintro _ first _ second rfl
      obtain ⟨number, _, same⟩ := List.mem_map.mp first
      obtain ⟨span, found, again⟩ := List.mem_map.mp second
      obtain ⟨document, later, page, start, stop, _, told⟩ := span_of_mem_selectionSpans found
      have both := same.trans (again.symm.trans told)
      rw [metadataReference_eq, spanReference_eq] at both
      cases (show some 'm' = some 's' from congrArg (List.head? ∘ List.tail) (referenceTail_inj both))

theorem accepted_questionRequests (named : Referable selection.jobId 1 selection.documents)
    {retrieved : List IndexedSpan} {contextTokens : Int}
    (same : retrieved.Perm (selectionSpans sha256 selection.jobId 1 selection.documents)) {pass : List IndexedSpan}
    (member : pass ∈ answerPasses retrieved contextTokens 1) :
    Accepted (questionReference selection.jobId :: pass.map IndexedSpan.reference)
      (generationRequest selection.jobId (.ofString "ask-selected-files")
        (questionReference selection.jobId :: pass.map IndexedSpan.reference)) := by
  obtain ⟨_, few, part⟩ := length_le_of_groups (fewest_answerPasses retrieved contextTokens 1).toGroups
    (by decide) member
  have among : ∀ span ∈ pass, span ∈ selectionSpans sha256 selection.jobId 1 selection.documents :=
    fun span inside => same.mem_iff.mp (part.subset inside)
  have different := (same.map IndexedSpan.reference).nodup_iff.mpr
    (nodup_selectionSpans selection.jobId 1 selection.documents)
  have bounded := selection.bounded_jobId
  refine (accepted_iff bounded (by decide +kernel)).mpr
    ⟨List.cons_ne_nil _ _, ?_, List.forall_mem_cons.mpr ⟨⟨?_, ?_⟩, ?_⟩, List.nodup_cons.mpr ⟨?_, ?_⟩⟩
  · rw [List.length_cons, List.length_map]
    rw [maxContentReferences] at few ⊢
    omega
  · rw [questionReference, List.append_assoc]
    exact List.cons_ne_nil _ _
  · have head_length : (PyString.ofString "private:").length = 8 := by decide
    have word_length : (PyString.ofString ":question").length = 9 := by decide
    rw [questionReference, List.length_append, List.length_append, head_length, word_length]
    have short := bounded.2
    omega
  · rintro _ found
    obtain ⟨span, inside, rfl⟩ := List.mem_map.mp found
    exact bounded_of_privateReference (private_of_mem_selectionSpans named (among span inside))
  · intro found
    obtain ⟨span, inside, again⟩ := List.mem_map.mp found
    obtain ⟨document, later, page, start, stop, _, told⟩ := span_of_mem_selectionSpans (among span inside)
    have both := told.symm.trans again
    rw [spanReference_eq, questionReference, List.append_assoc] at both
    cases (show some 's' = some 'q' from congrArg (List.head? ∘ List.tail) (referenceTail_inj both))
  · exact different.sublist (part.map _)

theorem accepted_eventRequests (named : Referable selection.jobId 1 selection.documents)
    {contextTokens promptTokens : Int} {group : List PyString}
    (member : group ∈ planPasses ratios share (pageFragments selection.jobId 1 selection.documents)
      contextTokens promptTokens) :
    Accepted group (generationRequest selection.jobId (.ofString "event-extraction") group) := by
  obtain ⟨groups, plan, same⟩ := fewest_planPasses ratios share
    (pageFragments selection.jobId 1 selection.documents) contextTokens promptTokens
  rw [same] at member
  obtain ⟨pass, found, rfl⟩ := List.mem_map.mp member
  obtain ⟨filled, few, part⟩ := length_le_of_groups plan.toGroups (by decide) found
  refine (accepted_iff selection.bounded_jobId (by decide +kernel)).mpr
    ⟨mt List.map_eq_nil_iff.mp filled, ?_, ?_, ?_⟩
  · rw [List.length_map]
    exact Int.ofNat_le.mp few
  · rintro _ inside
    obtain ⟨fragment, paged, rfl⟩ := List.mem_map.mp inside
    exact bounded_of_mem_pageFragments named (part.subset paged)
  · exact (nodup_pageFragments selection.jobId 1 selection.documents).1.sublist (part.map _)

/-- A selection is served exactly if every span has a private reference, and its files and spans are no more
than a request names references. -/
theorem serves_iff (sha256 : PyString → PyString) (ratios : TokenRatios) (share : SourceShare)
    (selection : Selection) : Serves sha256 ratios share selection ↔
      Referable selection.jobId 1 selection.documents ∧
        selection.documents.length + (selection.documents.map SelectedDocument.spanCount).sum ≤
          maxContentReferences := by
  have requested := selection.bounded_jobId.1
  constructor
  · rintro ⟨⟨spans, ran, accepted⟩, _, _⟩
    obtain ⟨named, rfl⟩ := (extractSpans_eq_ok requested (Nat.le_refl 1)).mp ran
    exact ⟨named, (accepted_organizerRequest named).mp accepted⟩
  · rintro ⟨named, room⟩
    refine ⟨⟨_, (extractSpans_eq_ok requested (Nat.le_refl 1)).mpr ⟨named, rfl⟩,
      (accepted_organizerRequest named).mpr room⟩, ⟨_, (extractSpans_eq_ok requested (Nat.le_refl 1)).mpr
      ⟨named, rfl⟩, fun retrieved same contextTokens => ⟨?_, ?_⟩⟩, fun contextTokens promptTokens =>
      ⟨?_, ?_⟩⟩
    · intro request asked
      obtain ⟨pass, member, rfl⟩ := List.mem_map.mp asked
      exact ⟨_, accepted_questionRequests named same member⟩
    · intro span member
      have whole := (fewest_answerPasses retrieved contextTokens 1).whole
      obtain ⟨pass, passed, inside⟩ := List.mem_flatten.mp (whole.symm ▸ same.mem_iff.mpr member)
      obtain ⟨built, ran, names, _⟩ := accepted_questionRequests named same passed
      refine ⟨built, ran ▸ List.mem_map_of_mem passed, ?_⟩
      rw [names]
      exact List.mem_cons_of_mem _ (List.mem_map_of_mem inside)
    · intro request asked
      obtain ⟨group, member, rfl⟩ := List.mem_map.mp asked
      exact ⟨group, accepted_eventRequests named member⟩
    · intro fragment member
      obtain ⟨groups, plan, same⟩ := fewest_planPasses ratios share
        (pageFragments selection.jobId 1 selection.documents) contextTokens promptTokens
      obtain ⟨pass, passed, inside⟩ := List.mem_flatten.mp (plan.whole.symm ▸ member)
      have grouped := same ▸ List.mem_map_of_mem (f := List.map Prod.fst) passed
      obtain ⟨built, ran, names, _⟩ := accepted_eventRequests named grouped
      refine ⟨built, ran ▸ List.mem_map_of_mem grouped, ?_⟩
      rw [names]
      exact List.mem_map_of_mem inside

/-- One file of thirty-two short pages: a request for its spans and its name has thirty-three references. -/
def longSelection : Selection where
  jobId := .ofString "job-1"
  documents := [
    { fileName := .ofString "report.pdf"
      sourceSha256 := List.replicate 64 (.scalar 'a')
      pages := (List.range' 1 32).map fun number => (number, .ofString "words")
      named := by decide +kernel
      digested := by decide +kernel
      paged := by decide +kernel
      numbered := by decide +kernel
      valid := by decide +kernel }]
  identified := by decide +kernel
  counted := by decide

/-- The organizer's request for thirty-two pages is refused. -/
theorem not_serves_longSelection :
    ¬ Serves (fun text => text) TokenRatios.exact (fun tokens => tokens * 2 / 5) longSelection := by
  rintro ⟨⟨spans, ran, built, accepted, _⟩, _, _⟩
  have refused : ((extractSpans (fun text => text) longSelection.jobId true 1
      longSelection.documents).toOption.map fun spans =>
        (organizerRequest longSelection spans).toOption) = some none := by decide +kernel
  rw [ran, Except.toOption, Option.map_some, accepted] at refused
  cases refused

end DocumentSpans

end Omnitensor
