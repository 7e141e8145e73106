/-
This file models the bounded extraction of a document that an adapter yields page by page.

A pass reads pages until a ceiling stops it, and then says where the next pass starts: at a page,
and inside it at an offset into its normalised text. What cannot be used is dropped and counted:
values that are no page, malformed or surplus regions, and the end of a long text in a block.
A document is read in as many passes as it takes, and the passes are merged one after another.

An adapter is what each of its readings yields. Of the host's tables of code points, the canonical
composition and the categories are parameters.
-/

import Omnitensor.PythonText

namespace Omnitensor

/-! ### Text -/

/-- What the host knows of code points. -/
structure UnicodeData where
  /-- The normal form of a string under canonical composition. -/
  normalize : PyString → PyString
  category : CodePoint → String

namespace PyString

/-- White space, as a string is stripped of it. -/
def space (point : CodePoint) : Bool :=
  decide (point.value ∈ [9, 10, 11, 12, 13, 28, 29, 30, 31, 32, 0x85, 0xa0, 0x1680, 0x2028, 0x2029,
    0x202f, 0x205f, 0x3000] ∨ 0x2000 ≤ point.value ∧ point.value ≤ 0x200a)

/-- Whether a line ends at a code point. -/
def lineBreak (point : CodePoint) : Bool :=
  decide (point.value ∈ [10, 11, 12, 13, 28, 29, 30, 0x85, 0x2028, 0x2029])

/-- A string without white space at its ends. -/
def strip (text : PyString) : PyString :=
  ((text.dropWhile space).reverse.dropWhile space).reverse

/-- The lines of a text, of which the first was begun; the pair of carriage return and line feed
ends one line. -/
def splitLinesFrom (begun : PyString) : PyString → List PyString
  | [] => if begun.isEmpty then [] else [begun.reverse]
  | .scalar '\r' :: .scalar '\n' :: rest => begun.reverse :: splitLinesFrom [] rest
  | point :: rest =>
    if lineBreak point then begun.reverse :: splitLinesFrom [] rest
    else splitLinesFrom (point :: begun) rest

def splitLines (text : PyString) : List PyString := splitLinesFrom [] text

/-- Texts one after another, with a line feed between them. -/
def joinLines (lines : List PyString) : PyString := List.intercalate [.scalar '\n'] lines

/-- A text in which runs of spaces are one space. -/
def collapseSpaces : PyString → PyString
  | .scalar ' ' :: .scalar ' ' :: rest => collapseSpaces (.scalar ' ' :: rest)
  | point :: rest => point :: collapseSpaces rest
  | [] => []

end PyString

/-- Overrides and embeddings that make rendered text differ from its content. -/
def bidiControls : List Nat :=
  [0x202a, 0x202b, 0x202c, 0x202d, 0x202e, 0x2066, 0x2067, 0x2068, 0x2069, 0x200e, 0x200f]

/-- Whether a code point stays in a text that is made safe. -/
def keptCharacter (unicode : UnicodeData) (point : CodePoint) : Bool :=
  decide (point = .scalar '\n' ∨ point = .scalar '\t' ∨
    point.value ∉ bidiControls ∧ unicode.category point ∉ ["Cc", "Cf", "Co", "Cs"])

/-- Safe text, whole; of a value that is no string, none. -/
def normalisedText (unicode : UnicodeData) : Option PyString → PyString
  | none => []
  | some text =>
    let kept := (unicode.normalize text).filter (keptCharacter unicode)
    let lines := PyString.splitLines (PyString.collapseSpaces kept)
    PyString.strip (PyString.joinLines (lines.map PyString.strip))

/-- Safe, bounded text and how many characters were dropped. -/
def normaliseText (unicode : UnicodeData) (text : Option PyString) (limit : Nat) :
    PyString × Nat :=
  ((normalisedText unicode text).take limit, (normalisedText unicode text).length - limit)

/-! ### Pages -/

def maxCoordinate : Nat := 1000000

inductive BlockKind where
  | paragraph
  | heading
  | table
  | caption
  | other
  deriving DecidableEq

/-- A block as an adapter reports it: each value, if it has the type it should have. -/
structure RawBlock where
  kind : Option BlockKind
  x : Option Int
  y : Option Int
  width : Option Int
  height : Option Int
  text : Option PyString

/-- One positioned run of text on a page. -/
structure LayoutBlock where
  kind : BlockKind
  x : Nat
  y : Nat
  width : Nat
  height : Nat
  text : PyString
  deriving DecidableEq

/-- An image as an adapter reports it. -/
structure RawImage where
  imageId : Option PyString
  x : Option Int
  y : Option Int
  width : Option Int
  height : Option Int

/-- One image on a page, described rather than carried. -/
structure ImageRegion where
  imageId : PyString
  x : Nat
  y : Nat
  width : Nat
  height : Nat
  deriving DecidableEq

/-- What an adapter reports for one page, before normalisation. A collection of regions that is no
sequence is none; so is a region that is not of its class. -/
structure PageContent where
  pageNumber : Option Int
  text : Option PyString
  blocks : Option (List (Option RawBlock))
  images : Option (List (Option RawImage))

/-- What an adapter yields: a page, or a value that is no page. -/
inductive Item where
  | page (content : PageContent)
  | other

/-- One page after bounding and normalisation. -/
structure NormalisedPage where
  pageNumber : Nat
  text : PyString
  blocks : List LayoutBlock
  images : List ImageRegion
  deriving DecidableEq

/-! ### Limits -/

def defaultMaxPages : Nat := 2000
def defaultMaxCharacters : Nat := 5000000
def defaultMaxExpansionRatio : Nat := 100

/-- The ceilings on what is read, each of which is positive. -/
structure ExtractionLimits where
  maxPages : Nat
  maxCharacters : Nat
  maxRegionsPerPage : Nat
  maxImagePixels : Nat
  somePages : 1 ≤ maxPages
  someCharacters : 1 ≤ maxCharacters
  someRegions : 1 ≤ maxRegionsPerPage
  somePixels : 1 ≤ maxImagePixels

namespace ExtractionLimits

theorem one_le_raised {ceiling standard deserved : Nat} (some : 1 ≤ ceiling) :
    1 ≤ if ceiling = standard then max ceiling deserved else ceiling := by
  split
  · exact le_max_of_le_left some
  · exact some

/-- The ceilings a document of a size deserves: those that were not set follow the size. -/
def forFile (limits : ExtractionLimits) (sizeBytes : Option Int) : ExtractionLimits :=
  match sizeBytes with
  | none => limits
  | some size =>
    if size < 1 then limits
    else
      { limits with
        maxPages :=
          if limits.maxPages = defaultMaxPages then max limits.maxPages size.toNat
          else limits.maxPages
        maxCharacters :=
          if limits.maxCharacters = defaultMaxCharacters then
            max limits.maxCharacters (size.toNat * defaultMaxExpansionRatio)
          else limits.maxCharacters
        somePages := one_le_raised limits.somePages
        someCharacters := one_le_raised limits.someCharacters }

end ExtractionLimits

/-- Where the next pass starts reading. -/
structure ResumePoint where
  pageIndex : Nat
  characterOffset : Nat
  deriving DecidableEq

/-- How an extraction ended. -/
inductive ExtractionOutcome where
  | succeeded
  | truncated
  | timedOut
  | crashed
  | refused
  deriving DecidableEq

/-- Everything extraction produced, and how far it got. -/
structure ExtractionResult where
  outcome : ExtractionOutcome
  pages : List NormalisedPage
  text : PyString
  detail : String
  droppedPages : Nat
  droppedCharacters : Nat
  droppedRegions : Nat
  resume : Option ResumePoint
  deriving DecidableEq

/-! ### Regions -/

/-- A coordinate that is an integer in its range. -/
def coordinate (value : Option Int) : Option Nat :=
  value.bind fun value =>
    if 0 ≤ value ∧ value ≤ maxCoordinate then some value.toNat else none

/-- The number of a page, or that of its place. -/
def pageNumber (value : Option Int) (fallback : Nat) : Nat :=
  (coordinate value).getD (fallback + 1)

section

variable {Region : Type}

/-- The first regions of a collection. -/
def boundedRegions (items : Option (List Region)) (limit : Nat) : List Region :=
  (items.getD []).take limit

/-- How many regions of a collection are too many. -/
def overflow (items : Option (List Region)) (limit : Nat) : Nat := (items.getD []).length - limit

end

/-- What is read of the regions of a page, and how much of them is dropped. -/
structure PageRegions where
  blocks : List LayoutBlock
  images : List ImageRegion
  droppedRegions : Nat
  droppedCharacters : Nat

namespace PageRegions

/-- A page continued from an earlier pass carries no regions. -/
def none : PageRegions := ⟨[], [], 0, 0⟩

end PageRegions

/-- A block that is well formed, with its text bounded, and the characters dropped from it. -/
def layoutBlock (unicode : UnicodeData) (limits : ExtractionLimits) (block : Option RawBlock) :
    Option (LayoutBlock × Nat) := do
  let block ← block
  let kind ← block.kind
  let x ← coordinate block.x
  let y ← coordinate block.y
  let width ← coordinate block.width
  let height ← coordinate block.height
  let (text, dropped) := normaliseText unicode block.text limits.maxCharacters
  return (⟨kind, x, y, width, height, text⟩, dropped)

/-- An image that is well formed and not too large. -/
def imageRegion (limits : ExtractionLimits) (image : Option RawImage) : Option ImageRegion := do
  let image ← image
  let imageId ← image.imageId
  let x ← coordinate image.x
  let y ← coordinate image.y
  let width ← coordinate image.width
  let height ← coordinate image.height
  if 1 ≤ imageId.length ∧ imageId.length ≤ 128 ∧ width * height ≤ limits.maxImagePixels then
    some ⟨imageId, x, y, width, height⟩
  else none

/-- The regions of a page. -/
def pageRegions (unicode : UnicodeData) (limits : ExtractionLimits) (page : PageContent) :
    PageRegions :=
  let blocks := (boundedRegions page.blocks limits.maxRegionsPerPage).map (layoutBlock unicode limits)
  let images := (boundedRegions page.images limits.maxRegionsPerPage).map (imageRegion limits)
  { blocks := blocks.reduceOption.map Prod.fst
    images := images.reduceOption
    droppedRegions :=
      blocks.countP Option.isNone + images.countP Option.isNone +
        overflow page.blocks limits.maxRegionsPerPage +
        overflow page.images limits.maxRegionsPerPage
    droppedCharacters := (blocks.reduceOption.map Prod.snd).sum }

/-! ### One pass -/

/-- What a pass accumulates while every ceiling is enforced. -/
structure Collector where
  limits : ExtractionLimits
  resumeFrom : Option ResumePoint
  pages : List NormalisedPage
  characters : Nat
  droppedPages : Nat
  droppedCharacters : Nat
  droppedRegions : Nat
  sourceIndex : Nat
  resume : Option ResumePoint

namespace Collector

def new (limits : ExtractionLimits) (resumeFrom : Option ResumePoint) : Collector :=
  ⟨limits, resumeFrom, [], 0, 0, 0, 0, 0, none⟩

/-- Where this pass starts inside a page, or nowhere when it skips the page. -/
def offsetFor (collector : Collector) (index : Nat) : Option Nat :=
  match collector.resumeFrom with
  | none => some 0
  | some point =>
    if index < point.pageIndex then none
    else if index = point.pageIndex then some point.characterOffset
    else some 0

/-- A page is added, its text from `start` on, within what is left of the limits. -/
def add (unicode : UnicodeData) (collector : Collector) (page : PageContent) (index : Nat)
    (text : PyString) (start : Nat) : Collector :=
  let regions :=
    if start = 0 then pageRegions unicode collector.limits page else PageRegions.none
  { collector with
    droppedRegions := collector.droppedRegions + regions.droppedRegions
    droppedCharacters := collector.droppedCharacters + regions.droppedCharacters
    characters := collector.characters + text.length
    pages := collector.pages ++
      [⟨Omnitensor.pageNumber page.pageNumber index, text, regions.blocks, regions.images⟩] }

/-- Add one page from a place in it; `false` means no further page will be taken. -/
def acceptFrom (unicode : UnicodeData) (collector : Collector) (index start : Nat) :
    Item → Collector × Bool
  | .other => ({ collector with droppedPages := collector.droppedPages + 1 }, true)
  | .page page =>
    if collector.limits.maxPages ≤ collector.pages.length then
      ({ collector with resume := some ⟨index, start⟩ }, false)
    else
      let text := (normalisedText unicode page.text).drop start
      let remaining := collector.limits.maxCharacters - collector.characters
      if remaining < text.length then
        let taken := text.take remaining
        let stopped := { collector with resume := some ⟨index, start + taken.length⟩ }
        (if taken.isEmpty then stopped else stopped.add unicode page index taken start, false)
      else
        let added := collector.add unicode page index text start
        if added.limits.maxCharacters ≤ added.characters then
          ({ added with resume := some ⟨added.sourceIndex, 0⟩ }, false)
        else (added, true)

/-- Add one page, unless an earlier pass read it. -/
def accept (unicode : UnicodeData) (collector : Collector) (item : Item) : Collector × Bool :=
  let index := collector.sourceIndex
  let next := { collector with sourceIndex := index + 1 }
  match next.offsetFor index with
  | none => (next, true)
  | some start => next.acceptFrom unicode index start item

/-- The texts of the pages that have one. -/
def joinedText (pages : List NormalisedPage) : PyString :=
  PyString.joinLines ((pages.map NormalisedPage.text).filter fun text => !text.isEmpty)

/-- What was collected, as the result of an extraction. -/
def result (collector : Collector) (outcome : ExtractionOutcome) (detail : String) :
    ExtractionResult where
  outcome := outcome
  pages := collector.pages
  text := joinedText collector.pages
  detail := detail
  droppedPages := collector.droppedPages
  droppedCharacters := collector.droppedCharacters
  droppedRegions := collector.droppedRegions
  resume := if outcome = .truncated then collector.resume else none

end Collector

/-- How a reading goes on after the values it yields. -/
inductive Ending where
  | finished
  | raised (detail : String)
  | timedOut
  deriving DecidableEq

/-- What one reading of a document yields, how it ends, and how it ends when it is closed early. -/
structure Reading where
  items : List Item
  ending : Ending
  closing : Ending

/-- An adapter whose readings always yield the same values and never fail. -/
def Reading.steady (items : List Item) : Reading := ⟨items, .finished, .finished⟩

namespace DocumentExtractor

/-- Pull values until the reading ends or the collector takes no more. -/
def drain (unicode : UnicodeData) (closing ending : Ending) :
    Collector → List Item → Collector × Ending
  | collector, [] => (collector, ending)
  | collector, item :: items =>
    match collector.accept unicode item with
    | (collector, true) => drain unicode closing ending collector items
    | (collector, false) => (collector, closing)

/-- The result of a pass that read all it could. -/
def concluded (collector : Collector) : ExtractionResult :=
  if collector.resume ≠ none ∨ collector.droppedPages ≠ 0 ∨ collector.droppedCharacters ≠ 0 ∨
      collector.droppedRegions ≠ 0 then
    collector.result .truncated "output exceeded its bounds"
  else collector.result .succeeded ""

/-- Extract one pass over a document, unless what it claims to expand to is refused. -/
def extract (unicode : UnicodeData) (limits : ExtractionLimits) (sizeBytes : Option Int)
    (refusal : Option String) (reading : Reading) (resume : Option ResumePoint) :
    ExtractionResult :=
  match refusal with
  | some detail => ⟨.refused, [], [], detail, 0, 0, 0, none⟩
  | none =>
    match drain unicode reading.closing reading.ending
        (Collector.new (limits.forFile sizeBytes) resume) reading.items with
    | (collector, .finished) => concluded collector
    | (collector, .timedOut) => collector.result .timedOut "extraction exceeded its deadline"
    | (collector, .raised detail) => collector.result .crashed detail

/-- The pages of two passes: a page that was cut is rejoined. -/
def mergePages (first second : List NormalisedPage) (resume : Option ResumePoint) :
    List NormalisedPage :=
  match first.getLast?, second, resume with
  | some head, tail :: incoming, some point =>
    if point.characterOffset ≠ 0 ∧ head.pageNumber = tail.pageNumber then
      first.dropLast ++
        ⟨head.pageNumber, head.text ++ tail.text, head.blocks ++ tail.blocks,
          head.images ++ tail.images⟩ :: incoming
    else first ++ second
  | _, _, _ => first ++ second

/-- One document's two passes as one result. -/
def mergePasses (first second : ExtractionResult) (resume : Option ResumePoint) :
    ExtractionResult :=
  let pages := mergePages first.pages second.pages resume
  { outcome := second.outcome
    pages := pages
    text := Collector.joinedText pages
    detail := second.detail
    droppedPages := first.droppedPages + second.droppedPages
    droppedCharacters := first.droppedCharacters + second.droppedCharacters
    droppedRegions := first.droppedRegions + second.droppedRegions
    resume := second.resume }

/-- Passes from one on, merged into what the earlier ones gave, each of which starts where the last
one stopped. Two passes that stop at the same point end the extraction. -/
def extractPasses (unicode : UnicodeData) (limits : ExtractionLimits) (sizeBytes : Option Int)
    (refusal : Option String) (adapter : Nat → Reading) :
    Nat → Nat → Option ExtractionResult → Option ResumePoint → Option ExtractionResult
  | 0, _, _, _ => none
  | fuel + 1, pass, merged, resume =>
    let result := extract unicode limits sizeBytes refusal (adapter pass) resume
    let merged :=
      match merged with
      | none => result
      | some first => mergePasses first result resume
    match result.resume with
    | none => some merged
    | some next =>
      if some next = resume then
        some
          { merged with
            outcome := .truncated
            detail := "a page is larger than one extraction pass"
            resume := none }
      else
        extractPasses unicode limits sizeBytes refusal adapter fuel (pass + 1) (some merged)
          (some next)

/-- Every page of a document, in as many passes as it takes, if the fuel is enough. -/
def extractAll (unicode : UnicodeData) (limits : ExtractionLimits) (sizeBytes : Option Int)
    (refusal : Option String) (adapter : Nat → Reading) (fuel : Nat) : Option ExtractionResult :=
  extractPasses unicode limits sizeBytes refusal adapter fuel 0 none none

end DocumentExtractor

/-! ### Readers -/

/-- Name what a truncated extraction left out; nothing when it is not truncated. -/
def truncationSummary (result : ExtractionResult) : String :=
  if result.outcome ≠ .truncated then ""
  else
    let counts := [(result.droppedPages, "page(s)"), (result.droppedCharacters, "character(s)"),
      (result.droppedRegions, "layout region(s)")]
    let parts := (counts.filter fun count => decide (count.1 ≠ 0)).map fun count =>
      toString count.1 ++ " " ++ count.2
    let dropped := if parts = [] then "part of the document" else ", ".intercalate parts
    let detail := if result.detail = "" then "" else " (" ++ result.detail ++ ")"
    "read only " ++ toString result.pages.length ++ " page(s); " ++ dropped ++ " went unread" ++
      detail

/-- The refusal a workload raises. -/
structure SourceRefusal where
  code : String
  detail : String
  deriving DecidableEq

/-- Read one selected document in full, or raise the workload's refusal, if the fuel is enough. -/
def SelectedDocumentReader.read (unicode : UnicodeData) (limits : ExtractionLimits)
    (adapters : String → Option (Nat → Reading)) (suffix : String) (sizeBytes : Option Int)
    (fuel : Nat) : Option (Except SourceRefusal ExtractionResult) :=
  match adapters suffix with
  | none => some (.error ⟨"source-unsupported", "selected source type is unsupported"⟩)
  | some adapter =>
    (DocumentExtractor.extractAll unicode limits sizeBytes none adapter fuel).map fun extraction =>
      if extraction.outcome = .succeeded then .ok extraction
      else if truncationSummary extraction ≠ "" then
        .error ⟨"source-truncated", truncationSummary extraction⟩
      else .error ⟨"extraction-failed", "selected source could not be extracted"⟩

end Omnitensor
