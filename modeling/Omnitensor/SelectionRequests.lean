/-
This file models the generation requests that three workloads build from one selection of documents.

The file organizer names every file and every span in one request. Questions name a question and the spans
of one pass, and events the pages of one pass. A request names a bounded number of references, all of them
different; so a selection is accepted by all three exactly if the organizer's one request has room for it.

A document is what its extraction gives: pages with different numbers, none of which is blank. Its name has no
slash, and no backslash either, which spans refuse in a name however short the document is.
-/

import Omnitensor.JsonNumeral
import Omnitensor.SpanReading

namespace Omnitensor

namespace DocumentSpans

open Spans (TokenRatios Blank)

/-! ### Requests -/

/-- A generation refusal. -/
structure GenerationError where
  code : String
  detail : String
  deriving DecidableEq

structure GenerationRequest where
  requestId : PyString
  taskId : PyString
  contentReferences : List PyString
  deriving DecidableEq

def boundedText (value : PyString) (label : String) (maximum : Nat) : Except GenerationError PyString :=
  if value = [] ∨ maximum < value.length then
    .error ⟨"contract-invalid", label ++ " must contain 1-" ++ toString maximum ++ " characters"⟩
  else .ok value

/-- `[a-z0-9]+(?:-[a-z0-9]+)*`. -/
def identifierPattern (text : PyString) : Bool :=
  (List.splitOn (.scalar '-') text).all fun word => decide (word ≠ []) && word.all fun point =>
    match point with
    | .scalar char => ('a' ≤ char && char ≤ 'z') || ('0' ≤ char && char ≤ '9')
    | .surrogate _ => false

def boundedIdentifier (value : PyString) (label : String) : Except GenerationError PyString :=
  if 120 < value.length ∨ identifierPattern value = false then
    .error ⟨"contract-invalid", label ++ " is invalid"⟩
  else .ok value

/-- Build the private-worker request without accepting source content inline. -/
def generationRequest (requestId taskId : PyString) (contentReferences : List PyString) :
    Except GenerationError GenerationRequest := do
  let request ← boundedText requestId "request id" 120
  let task ← boundedIdentifier taskId "task id"
  if contentReferences = [] ∨ maxContentReferences < contentReferences.length then
    .error ⟨"request-invalid", "content references must contain 1-" ++ toString maxContentReferences ++
      " items"⟩
  else
    let references ← contentReferences.mapM fun reference => boundedText reference "content reference" 240
    if ¬ references.Nodup then .error ⟨"request-invalid", "content references must be unique"⟩
    else return ⟨request, task, references⟩

/-! ### Selections -/

/-- `[A-Za-z0-9._-]{1,120}`. -/
def requestIdPattern (text : PyString) : Bool :=
  decide (1 ≤ text.length) && decide (text.length ≤ 120) && text.all fun point => match point with
    | .scalar char => ('A' ≤ char && char ≤ 'Z') || ('a' ≤ char && char ≤ 'z') ||
        ('0' ≤ char && char ≤ '9') || char == '.' || char == '_' || char == '-'
    | .surrogate _ => false

/-- A selected file that was extracted: its name, its digest, and its pages by their numbers. -/
structure SelectedDocument where
  fileName : PyString
  sourceSha256 : PyString
  pages : List (Nat × PyString)
  named : fileName ≠ [] ∧ .scalar '/' ∉ fileName ∧ .scalar '\\' ∉ fileName
  digested : digestPattern sourceSha256 = true
  paged : pages ≠ []
  numbered : (pages.map Prod.fst).Nodup
  valid : ∀ page ∈ pages, 1 ≤ page.1 ∧ ¬ Blank page.2 ∧ page.2.Encodable

/-- What a job selected. -/
structure Selection where
  jobId : PyString
  documents : List SelectedDocument
  identified : requestIdPattern jobId = true
  counted : 1 ≤ documents.length ∧ documents.length ≤ 16

/-- A page as the reader gives it. -/
def extractedPage (page : Nat × PyString) : ExtractedPage := ⟨some page.1, some page.2⟩

/-- What the spans of a document are told by, by its number in the selection. -/
def SelectedDocument.source (document : SelectedDocument) (jobId : PyString) (number : Nat) : SpanSource :=
  ⟨jobId, number, document.fileName, document.sourceSha256⟩

variable (sha256 : PyString → PyString)

/-- The spans of documents from a number on. The organizer refuses a document without any. -/
def extractSpans (jobId : PyString) (refuseEmpty : Bool) :
    Nat → List SelectedDocument → Except SpanFailure (List IndexedSpan)
  | _, [] => .ok []
  | number, document :: documents => do
    let spans ← pageSpans sha256 (document.source jobId number) (document.pages.map extractedPage) none
    if refuseEmpty && decide (spans = []) then
      .error (.refused "source-empty" "each selected file must contain extractable text")
    else return spans ++ (← extractSpans jobId refuseEmpty (number + 1) documents)

/-- The reference of the metadata of a file. -/
def metadataReference (jobId : PyString) (number : Nat) : PyString :=
  PyString.ofString "private:" ++ jobId ++ PyString.ofString (":metadata:" ++ toString number)

/-- The one request of the organizer, for the spans that it extracted. -/
def organizerRequest (selection : Selection) (spans : List IndexedSpan) :
    Except GenerationError GenerationRequest :=
  generationRequest selection.jobId (.ofString "file-organizer")
    ((List.range' 1 selection.documents.length).map (metadataReference selection.jobId) ++
      spans.map IndexedSpan.reference)

def questionReference (jobId : PyString) : PyString :=
  PyString.ofString "private:" ++ jobId ++ PyString.ofString ":question"

/-- The requests for a question about spans that were ranked. -/
def questionRequests (selection : Selection) (retrieved : List IndexedSpan) (contextTokens : Int) :
    List (Except GenerationError GenerationRequest) :=
  (answerPasses retrieved contextTokens 1).map fun batch =>
    generationRequest selection.jobId (.ofString "ask-selected-files")
      (questionReference selection.jobId :: batch.map IndexedSpan.reference)

/-- The reference of a page of a document, and its text. -/
def pageFragment (jobId : PyString) (number : Nat) (page : Nat × PyString) : PyString × PyString :=
  (PyString.ofString "private:" ++ jobId ++ PyString.ofString (":source:" ++ toString number ++ ":page:" ++
    toString page.1), page.2)

/-- The pages of documents from a number on. -/
def pageFragments (jobId : PyString) : Nat → List SelectedDocument → List (PyString × PyString)
  | _, [] => []
  | number, document :: documents =>
    document.pages.map (pageFragment jobId number) ++ pageFragments jobId (number + 1) documents

/-- The requests for events. -/
def eventRequests (ratios : TokenRatios) (share : SourceShare) (selection : Selection)
    (contextTokens promptTokens : Int) : List (Except GenerationError GenerationRequest) :=
  (planPasses ratios share (pageFragments selection.jobId 1 selection.documents) contextTokens
    promptTokens).map fun group =>
      generationRequest selection.jobId (.ofString "event-extraction") group

end DocumentSpans

end Omnitensor
