/-
This file models the plan of the file organizer.

A model suggests tags, a name and a folder for every selected file, and cites spans of it. The suggestions
are validated, names and folders are checked, citations are looked up in the index of spans, and files with
the same digest are grouped. The result is a plan, which is validated again; nothing is changed. What a
text is in lower case is known to the host, and a parameter.
-/

import Omnitensor.Dict
import Omnitensor.EventDocument
import Omnitensor.PosixPath

namespace Omnitensor

namespace Organizer

open Events

/-! ### Schemas -/

namespace OrganizerPattern

open EventPattern

/-- `[a-z0-9]+(?:-[a-z0-9]+)*`. -/
def slug (chars : List Char) : Bool :=
  (List.splitOn '-' chars).all fun word => !word.isEmpty && word.all fun char => digit char || lower char

/-- A word, a hyphen and a number without leading zeros. -/
def numbered (word : String) (chars : List Char) : Bool :=
  let digits := chars.drop word.length
  word.toList.isPrefixOf chars && !digits.isEmpty && digits.head? != some '0' && digits.all digit

/-- `private:[A-Za-z0-9._:-]{1,220}`. -/
def privateReference (chars : List Char) : Bool :=
  "private:".toList.isPrefixOf chars &&
    repeated (fun char => alphanumeric char || char == '.' || char == '_' || char == ':' ||
      char == '-') 1 220 (chars.drop "private:".length)

end OrganizerPattern

namespace OrganizerSchema

open Schema

def requestId : Schema := .pattern (EventPattern.found EventPattern.identifier)

def fileId : Schema := .pattern (EventPattern.found (OrganizerPattern.numbered "selected-file-"))

def span : Schema := .object [
  ("start", true, .integer (some 0) none),
  ("end", true, .integer (some 1) none)]

/-- A tag, of 48 characters at most. -/
def tag : Schema := .pattern fun text =>
  decide (1 ≤ text.length ∧ text.length ≤ 48) && EventPattern.found OrganizerPattern.slug text

/-- The name of a file, without slashes and backslashes. -/
def fileName : Schema := .pattern fun text => decide (1 ≤ text.length ∧ text.length ≤ 255) &&
  text.all fun point => decide (point ≠ .scalar '/' ∧ point ≠ .scalar '\\')

def citation : Schema := .object [
  ("sourceRef", true, .pattern (EventPattern.found OrganizerPattern.privateReference)),
  ("sourceSha256", true, EventSchema.digest),
  ("page", true, .integer (some 1) none),
  ("span", true, span),
  ("textSha256", true, EventSchema.digest)]

def suggestion : Schema := .object [
  ("fileId", true, fileId),
  ("tags", true, .array 0 tag),
  ("proposedName", true, nullable (.string 1 (some 255))),
  ("proposedFolder", true, nullable (.string 1 (some 240))),
  ("reason", true, .string 1 (some 2048)),
  ("evidence", true, .array 1 citation)]

/-- The contract of a model's answer. -/
def answer : Schema := .object [
  ("version", true, .number 1),
  ("requestId", true, requestId),
  ("suggestions", true, .array 1 suggestion)]

def publicEvidence : Schema := .object [
  ("fileId", true, fileId),
  ("fileName", true, fileName),
  ("sourceSha256", true, EventSchema.digest),
  ("page", true, .integer (some 1) none),
  ("span", true, span),
  ("textSha256", true, EventSchema.digest)]

/-- What an organizer proposes for one file. -/
def item : Schema := .object [
  ("fileId", true, fileId),
  ("fileName", true, fileName),
  ("sourceSha256", true, EventSchema.digest),
  ("tags", true, .array 0 tag),
  ("proposedName", true, nullable fileName),
  ("proposedFolder", true, nullable (.string 1 (some 240))),
  ("duplicateGroup", true,
    nullable (.pattern (EventPattern.found (OrganizerPattern.numbered "duplicate-group-")))),
  ("reason", true, .string 1 (some 2048)),
  ("evidence", true, .array 1 publicEvidence)]

/-- The contract of a plan. -/
def result : Schema := .object [
  ("version", true, .number 1),
  ("requestId", true, requestId),
  ("providerId", true, .pattern (EventPattern.found OrganizerPattern.slug)),
  ("accelerator", true, .words ["gpu", "npu"]),
  ("plan", true, .array 1 item)]

/-- The tags of each of these are unique. -/
def uniqueTags (entries : List Document) : Bool :=
  entries.all fun entry => decide ((itemsField (fieldsOf entry) "tags").map textOf).Nodup

/-- A valid answer of a model. -/
def validAnswer (document : Document) : Bool :=
  answer.valid document && uniqueTags (itemsField (fieldsOf document) "suggestions")

/-- A valid plan. -/
def validResult (document : Document) : Bool :=
  result.valid document && uniqueTags (itemsField (fieldsOf document) "plan")

end OrganizerSchema

/-! ### Records -/

/-- One selected file, identified by its content. -/
structure IngestedFile where
  path : PyString
  suffix : PyString
  digest : PyString

structure SelectedSource where
  item : IngestedFile

/-- A span of a page of a selected file. -/
structure IndexedSpan where
  reference : PyString
  fileId : PyString
  fileName : PyString
  sourceSha256 : PyString
  page : Int
  start : Int
  finish : Int
  textSha256 : PyString

/-- What is published of a cited span. -/
structure PublicEvidence where
  fileId : PyString
  fileName : PyString
  sourceSha256 : PyString
  page : Int
  start : Int
  finish : Int
  textSha256 : PyString
  deriving DecidableEq

/-- What is proposed for one file. -/
structure PlanEntry where
  fileId : PyString
  fileName : PyString
  sourceSha256 : PyString
  tags : List PyString
  proposedName : Option PyString
  proposedFolder : Option PyString
  duplicateGroup : Option PyString
  reason : PyString
  evidence : List PublicEvidence
  deriving DecidableEq

structure ReviewPlan where
  requestId : PyString
  providerId : PyString
  accelerator : PyString
  plan : List PlanEntry
  deriving DecidableEq

def evidenceDocument (evidence : PublicEvidence) : Document := record [
  ("fileId", some (.str evidence.fileId)),
  ("fileName", some (.str evidence.fileName)),
  ("sourceSha256", some (.str evidence.sourceSha256)),
  ("page", some (.int evidence.page)),
  ("span", some (record [
    ("start", some (.int evidence.start)),
    ("end", some (.int evidence.finish))])),
  ("textSha256", some (.str evidence.textSha256))]

def entryDocument (entry : PlanEntry) : Document := record [
  ("fileId", some (.str entry.fileId)),
  ("fileName", some (.str entry.fileName)),
  ("sourceSha256", some (.str entry.sourceSha256)),
  ("tags", some (.list (entry.tags.map .str))),
  ("proposedName", some (orNull (entry.proposedName.map .str))),
  ("proposedFolder", some (orNull (entry.proposedFolder.map .str))),
  ("duplicateGroup", some (orNull (entry.duplicateGroup.map .str))),
  ("reason", some (.str entry.reason)),
  ("evidence", some (.list (entry.evidence.map evidenceDocument)))]

def planDocument (plan : ReviewPlan) : Document := record [
  ("version", some (.int 1)),
  ("requestId", some (.str plan.requestId)),
  ("providerId", some (.str plan.providerId)),
  ("accelerator", some (.str plan.accelerator)),
  ("plan", some (.list (plan.plan.map entryDocument)))]

/-! ### Checks -/

/-- A stable refusal. What a validator says of a violation is its own. -/
inductive FileOrganizerError where
  | violation
  | refused (code detail : String)
  deriving DecidableEq

def refuse {Answer : Type} (code detail : String) : Except FileOrganizerError Answer :=
  .error (.refused code detail)

/-- `[\x00-\x1f\x7f]`. -/
def control (point : CodePoint) : Bool := decide (point.value < 32 ∨ point.value = 127)

/-- A proposed name that is safe, and keeps the suffix of the file. -/
def safeName (lowerCase : PyString → PyString) (value : Document) (originalSuffix : PyString) :
    Except FileOrganizerError (Option PyString) :=
  match value with
  | .null => return none
  | .str text =>
    if ¬ (1 ≤ text.length ∧ text.length ≤ 255) ∨ text = PosixPath.dot ∨ text = PosixPath.dotDot ∨
        text.head? = some (.scalar '.') ∨ .scalar '/' ∈ text ∨ .scalar '\\' ∈ text ∨
        text.any control ∨
        lowerCase (PosixPath.suffix (PosixPath.name text)) ≠ lowerCase originalSuffix then
      refuse "plan-invalid" "suggested file name is unsafe"
    else return some text
  | _ => refuse "plan-invalid" "suggested file name is unsafe"

/-- A proposed folder that is safe. -/
def safeFolder (value : Document) : Except FileOrganizerError (Option PyString) :=
  match value with
  | .null => return none
  | .str text =>
    if ¬ (1 ≤ text.length ∧ text.length ≤ 240) ∨ text.head? = some (.scalar '/') ∨
        text.head? = some (.scalar '\\') ∨ text.head? = some (.scalar '~') ∨ .scalar '\\' ∈ text ∨
        text.any control then
      refuse "plan-invalid" "suggested folder is unsafe"
    else
      let rawParts := PosixPath.split text
      let parts := PosixPath.parts text
      if parts = [] ∨ parts.any (fun part => decide (part = [] ∨ part = PosixPath.dot ∨
          part = PosixPath.dotDot ∨ 120 < part.length)) then
        refuse "plan-invalid" "suggested folder is unsafe"
      else if rawParts.length ≠ parts.length then
        refuse "plan-invalid" "suggested folder is unsafe"
      else return some text
  | _ => refuse "plan-invalid" "suggested folder is unsafe"

/-- What is published of a span. -/
def IndexedSpan.published (span : IndexedSpan) : PublicEvidence :=
  ⟨span.fileId, span.fileName, span.sourceSha256, span.page, span.start, span.finish, span.textSha256⟩

/-- A number of a document, if it is there. -/
def intField (fields : DocumentFields) (key : String) : Option Int :=
  (PyValue.field fields key).bind Document.integer?

/-- Check a citation after others, whose references are known. -/
def publicCitation (fileId : PyString) (byReference : Dict PyString IndexedSpan)
    (state : List PublicEvidence × List PyString) (citation : Document) :
    Except FileOrganizerError (List PublicEvidence × List PyString) :=
  let fields := fieldsOf citation
  let cited := ((PyValue.field fields "span").map fieldsOf).getD []
  let reference := textField fields "sourceRef"
  match byReference.get? reference with
  | none => refuse "evidence-invalid" "suggestion evidence names another selected file"
  | some span =>
    if span.fileId ≠ fileId then
      refuse "evidence-invalid" "suggestion evidence names another selected file"
    else if reference ∈ state.2 then refuse "evidence-invalid" "suggestion evidence repeats"
    else if textField fields "sourceSha256" ≠ span.sourceSha256 ∨
        intField fields "page" ≠ some span.page ∨
        (intField cited "start" ≠ some span.start ∨ intField cited "end" ≠ some span.finish) ∨
        textField fields "textSha256" ≠ span.textSha256 then
      refuse "evidence-invalid" "suggestion evidence disagrees with its source"
    else return (state.1 ++ [span.published], state.2 ++ [reference])

def publicEvidence (evidence : List Document) (fileId : PyString)
    (byReference : Dict PyString IndexedSpan) : Except FileOrganizerError (List PublicEvidence) := do
  let (published, _) ← evidence.foldlM (publicCitation fileId byReference) ([], [])
  return published

/-! ### Duplicates -/

/-- A word and a number. -/
def numbered (word : String) (number : Nat) : PyString :=
  .ofString word ++ .ofChars (Nat.toDigits 10 number)

/-- How many of the selected files have each digest. -/
def digestCounts (selected : List SelectedSource) : Dict PyString Nat :=
  selected.foldl (fun counts source =>
    counts.set source.item.digest ((counts.get? source.item.digest).getD 0 + 1)) .empty

/-- Name the group of a file that is not alone with its digest, unless it has a name. -/
def nameGroup (counts : Dict PyString Nat) (state : Nat × Dict PyString PyString)
    (source : SelectedSource) : Nat × Dict PyString PyString :=
  let digest := source.item.digest
  if 1 < (counts.get? digest).getD 0 ∧ ¬ state.2.contains digest then
    (state.1 + 1, state.2.set digest (numbered "duplicate-group-" (state.1 + 1)))
  else state

/-- The groups of files with the same digest, by digest. -/
def duplicateGroups (selected : List SelectedSource) : Dict PyString PyString :=
  (selected.foldl (nameGroup (digestCounts selected)) (0, .empty)).2

/-! ### Plans -/

section

variable (lowerCase : PyString → PyString) (byReference : Dict PyString IndexedSpan)
  (groups : Dict PyString PyString)

/-- What is proposed for a selected file. -/
def planEntry (position : (SelectedSource × Document) × Nat) :
    Except FileOrganizerError PlanEntry := do
  let ((source, suggestion), index) := position
  let fields := fieldsOf suggestion
  let fileId := numbered "selected-file-" index
  let proposedName ← safeName lowerCase ((PyValue.field fields "proposedName").getD .null)
    source.item.suffix
  let proposedFolder ← safeFolder ((PyValue.field fields "proposedFolder").getD .null)
  let evidence ← publicEvidence (itemsField fields "evidence") fileId byReference
  return {
    fileId
    fileName := PosixPath.name source.item.path
    sourceSha256 := source.item.digest
    tags := (itemsField fields "tags").map textOf
    proposedName, proposedFolder
    duplicateGroup := groups.get? source.item.digest
    reason := textField fields "reason"
    evidence }

end

/-- Validate suggestions, and make a plan of them. -/
def reviewOnlyPlan (lowerCase : PyString → PyString) (document : Document) (requestId : PyString)
    (selected : List SelectedSource) (spans : List IndexedSpan) (providerId accelerator : PyString) :
    Except FileOrganizerError ReviewPlan :=
  if OrganizerSchema.validAnswer document = false then .error .violation
  else
    let fields := fieldsOf document
    if textField fields "requestId" ≠ requestId then
      refuse "plan-invalid" "plan request id does not match"
    else
      let suggestions := itemsField fields "suggestions"
      let expectedIds := (List.range selected.length).map fun index =>
        numbered "selected-file-" (index + 1)
      if suggestions.length ≠ selected.length ∨
          suggestions.map (fun suggestion => textField (fieldsOf suggestion) "fileId") ≠ expectedIds then
        refuse "plan-invalid" "plan must cover every selected file exactly once and in order"
      else do
        let byReference := spans.foldl (fun known span => known.set span.reference span) .empty
        let groups := duplicateGroups selected
        let plan ← ((selected.zip suggestions).zipIdx 1).mapM (planEntry lowerCase byReference groups)
        let result : ReviewPlan := ⟨requestId, providerId, accelerator, plan⟩
        if OrganizerSchema.validResult (planDocument result) = false then .error .violation
        else return result

end Organizer

end Omnitensor
