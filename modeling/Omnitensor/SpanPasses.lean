/-
This file models how the spans of selected documents are indexed and read in passes.

Every page is cut into blocks of a fixed number of characters, and each block that is not blank is a span
with its exact offsets. Spans, or fragments of sources, are then read in order in as many passes as two
limits ask for: how many references a request may name, and how much text the context holds. Both loops
give the fewest passes that there can be.

The digest of a text is a parameter, as are the products and quotients with ratios.
-/

import Omnitensor.TextTranslation

namespace Omnitensor

namespace DocumentSpans

open Spans (TokenRatios estimateTokens slice Blank)

def maxSpanCharacters : Nat := 2048
def maxContentReferences : Nat := 32
def charactersPerToken : Int := 3
def promptOverheadTokens : Int := 2048

/-! ### Pages -/

/-- A page, of which each value is there if it has the type it should have. -/
structure ExtractedPage where
  pageNumber : Option Int
  text : Option PyString

structure IndexedSpan where
  reference : PyString
  fileId : PyString
  fileName : PyString
  sourceSha256 : PyString
  page : Int
  start : Nat
  stop : Nat
  text : PyString
  textSha256 : PyString
  deriving DecidableEq

/-- Why spans are not indexed: a refusal, or a text that has no encoding. -/
inductive SpanFailure where
  | refused (code detail : String)
  | unicode
  deriving DecidableEq

/-- What the spans of a source are told by. -/
structure SpanSource where
  requestId : PyString
  sourceNumber : Int
  fileName : PyString
  sourceSha256 : PyString

/-- `[a-f0-9]{64}`. -/
def digestPattern (text : PyString) : Bool :=
  decide (text.length = 64) && text.all fun point => match point with
    | .scalar char => ('a' ≤ char && char ≤ 'f') || ('0' ≤ char && char ≤ '9')
    | .surrogate _ => false

/-- `[A-Za-z0-9._:-]`. -/
def referencePoint : CodePoint → Bool
  | .scalar char => ('A' ≤ char && char ≤ 'Z') || ('a' ≤ char && char ≤ 'z') ||
      ('0' ≤ char && char ≤ '9') || char == '.' || char == '_' || char == ':' || char == '-'
  | .surrogate _ => false

/-- `private:[A-Za-z0-9._:-]{1,220}`. -/
def privateReference (text : PyString) : Bool :=
  let rest := text.drop 8
  (PyString.ofString "private:").isPrefixOf text && decide (1 ≤ rest.length) &&
    decide (rest.length ≤ 220) && rest.all referencePoint

/-- What the planner checks of a source. -/
def SpanSource.valid (source : SpanSource) (remaining : Option Int) : Bool :=
  decide (source.requestId ≠ []) && decide (1 ≤ source.sourceNumber) && decide (source.fileName ≠ []) &&
    decide (.scalar '/' ∉ source.fileName) && decide (.scalar '\\' ∉ source.fileName) &&
    digestPattern source.sourceSha256 && remaining.all fun spans => decide (0 ≤ spans)

/-- The reference of a span. -/
def spanReference (source : SpanSource) (page : Int) (start stop : Nat) : PyString :=
  PyString.ofString "private:" ++ source.requestId ++ PyString.ofString (":source:" ++
    toString source.sourceNumber ++ ":page:" ++ toString page ++ ":span:" ++ toString start ++ "-" ++
    toString stop)

variable (sha256 : PyString → PyString)

/-- The span of a page from a position on. -/
def indexedSpan (source : SpanSource) (page : Int) (text : PyString) (start : Nat) : IndexedSpan :=
  let stop := min (start + maxSpanCharacters) text.length
  ⟨spanReference source page start stop,
    PyString.ofString ("selected-file-" ++ toString source.sourceNumber), source.fileName,
    source.sourceSha256, page, start, stop, slice text start stop, sha256 (slice text start stop)⟩

/-- Index blocks of a page, and say whether to stop there. -/
def indexBlocks (source : SpanSource) (remaining : Option Int) (page : Int) (text : PyString) :
    List Nat → List IndexedSpan → Except SpanFailure (List IndexedSpan × Bool)
  | [], indexed => .ok (indexed, false)
  | start :: starts, indexed =>
    if remaining.any fun spans => decide (spans ≤ (indexed.length : Int)) then .ok (indexed, true)
    else
      let span := indexedSpan sha256 source page text start
      if PyString.strip span.text = [] then indexBlocks source remaining page text starts indexed
      else if ¬ privateReference span.reference then
        .error (.refused "span-invalid" "private span reference is invalid")
      else if ¬ span.text.Encodable then .error .unicode
      else indexBlocks source remaining page text starts (indexed ++ [span])

/-- `range(0, length, MAX_SPAN_CHARACTERS)`. -/
def blockStarts (length : Nat) : List Nat :=
  (List.range ((length + maxSpanCharacters - 1) / maxSpanCharacters)).map (· * maxSpanCharacters)

def indexPages (source : SpanSource) (remaining : Option Int) :
    List ExtractedPage → List IndexedSpan → Except SpanFailure (List IndexedSpan)
  | [], indexed => .ok indexed
  | page :: pages, indexed =>
    match page.pageNumber, page.text with
    | some number, some text =>
      if number < 1 then .error (.refused "span-invalid" "extracted page is invalid")
      else do
        let (indexed, stopped) ← indexBlocks sha256 source remaining number text
          (blockStarts text.length) indexed
        if stopped then return indexed else indexPages source remaining pages indexed
    | _, _ => .error (.refused "span-invalid" "extracted page is invalid")

/-- Index every page span, with exact page offsets. -/
def pageSpans (source : SpanSource) (pages : List ExtractedPage) (remaining : Option Int) :
    Except SpanFailure (List IndexedSpan) :=
  if source.valid remaining then indexPages sha256 source remaining pages []
  else .error (.refused "span-invalid" "span source identity is invalid")

/-! ### Passes -/

/-- What of the context the spans of one pass may take, in characters. -/
def answerBudget (contextTokens : Int) : Int :=
  max maxSpanCharacters ((contextTokens - promptOverheadTokens) / 2 * charactersPerToken)

/-- How many spans a pass may hold beside the references that are reserved. -/
def spansPerPass (reservedReferences : Int) : Int :=
  max 1 (maxContentReferences - max 0 reservedReferences)

def answerPassesFrom (budget perPass : Int) :
    List IndexedSpan → List IndexedSpan → Nat → List (List IndexedSpan)
  | [], current, _ => if current = [] then [] else [current]
  | span :: spans, current, used =>
    if current ≠ [] ∧ (budget < used + span.text.length ∨ perPass ≤ current.length) then
      current :: answerPassesFrom budget perPass spans [span] span.text.length
    else answerPassesFrom budget perPass spans (current ++ [span]) (used + span.text.length)

/-- Split ranked spans into the fewest passes the context window allows. -/
def answerPasses (spans : List IndexedSpan) (contextTokens reservedReferences : Int) :
    List (List IndexedSpan) :=
  answerPassesFrom (answerBudget contextTokens) (spansPerPass reservedReferences) spans [] 0

/-- The share of the context that is for the sources, in tokens: `int(context_tokens * SOURCE_SHARE)`. -/
abbrev SourceShare : Type := Int → Int

def planPassesFrom (ratios : TokenRatios) (budget : Int) :
    List (PyString × PyString) → List PyString → Nat → List (List PyString)
  | [], current, _ => if current = [] then [] else [current]
  | (reference, text) :: fragments, current, spent =>
    if current ≠ [] ∧ (budget < spent + estimateTokens ratios text ∨
        maxContentReferences ≤ current.length) then
      current :: planPassesFrom ratios budget fragments [reference] (estimateTokens ratios text)
    else planPassesFrom ratios budget fragments (current ++ [reference])
      (spent + estimateTokens ratios text)

/-- What the fragments of one pass may cost. -/
def planBudget (share : SourceShare) (contextTokens promptTokens : Int) : Int :=
  max (share contextTokens - promptTokens) 1

/-- Group references and texts into passes that fit the context. -/
def planPasses (ratios : TokenRatios) (share : SourceShare) (fragments : List (PyString × PyString))
    (contextTokens promptTokens : Int) : List (List PyString) :=
  planPassesFrom ratios (planBudget share contextTokens promptTokens) fragments [] 0

end DocumentSpans

end Omnitensor
