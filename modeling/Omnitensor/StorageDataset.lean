/-
This file models the builder of the dataset that a drive's failure is predicted from.

Daily files are read in the order of their dates, one row for each drive. A drive's observations wait in a
queue: they are released as negative once a later row of the drive is more than the horizon away, and are
positive when the drive fails before that. A row of a failure is no observation, and neither is a row
without features, though both move time forward. Dates are ordered and subtracted as their ordinals. The
digests of the corpus are left out.
-/

import Omnitensor.CalendarTime
import Omnitensor.Dict
import Omnitensor.DocumentExtraction
import Omnitensor.Fallible

namespace Omnitensor

/-- The number of days up to a date, from the first of the year one. -/
def CalendarDate.ordinal (date : CalendarDate) : Nat :=
  let years := date.year - 1
  years * 365 + years / 4 - years / 100 + years / 400 +
    ((List.range' 1 (date.month - 1)).map (daysInMonth date.year)).sum + date.day

/-- The text of a date. -/
def CalendarDate.isoformat (date : CalendarDate) : String := String.ofList date.text

namespace Storage

/-! ### Rows -/

/-- Why no dataset or no split is returned. -/
inductive StorageFailure where
  /-- A `TrainingError`. -/
  | training (code detail : String)
  /-- An `AttributeError`. -/
  | missingValue
  /-- An `OverflowError`. -/
  | dateOutOfRange
  deriving DecidableEq

def featureColumns : List String :=
  ["smart_5_raw", "smart_9_raw", "smart_187_raw", "smart_188_raw", "smart_197_raw", "smart_198_raw"]

def requiredColumns : List String := ["date", "serial_number", "failure"] ++ featureColumns

def maxCsvFiles : Nat := 400

def maxSmartValue : Nat := 2 ^ 53

def maxSerialLength : Nat := 200

/-- A row by its columns; a column has no value where the row is too short. -/
abbrev CsvRow : Type := Dict String (Option String)

/-- The rows of one day. -/
structure DailyFile where
  date : CalendarDate
  fieldnames : Option (List String)
  rows : List CsvRow

def DailyFile.name (file : DailyFile) : String := file.date.isoformat ++ ".csv"

variable {Real : Type}

/-- How a text is read as a decimal number, if it is one and if that is finite, and the float of it. -/
structure NumberReading (Real : Type) where
  decimal : String → Option (Option ℚ)
  float : ℚ → Real

/-- The columns that are required and not there, in order. -/
def missingColumns (fieldnames : List String) : List String :=
  (requiredColumns.filter (· ∉ fieldnames)).insertionSort fun first second => first ≤ second

def validatedHeader (fieldnames : Option (List String)) : Except StorageFailure (List String) :=
  match fieldnames with
  | none => .error (.training "schema-drift" "CSV header is absent or duplicated")
  | some names =>
    if names.Nodup then
      match missingColumns names with
      | [] => .ok names
      | first :: _ => .error (.training "schema-drift" s!"CSV header has no {first}")
    else .error (.training "schema-drift" "CSV header is absent or duplicated")

/-- The value of a column, if the row has one. -/
def column (row : CsvRow) (name : String) : Option String := (row.get? name).join

def serialOf : Option String → Except StorageFailure String
  | none => .error (.training "row-invalid" "serial number is invalid")
  | some value =>
    if value = "" ∨ maxSerialLength < value.length then
      .error (.training "row-invalid" "serial number is invalid")
    else .ok value

def failureOf (value : Option String) : Except StorageFailure Bool :=
  if value = some "0" ∨ value = some "1" then .ok (value = some "1")
  else .error (.training "row-invalid" "failure must be 0 or 1")

/-- White space alone. -/
def blank (text : String) : Bool := text.toList.all fun char => PyString.space (.scalar char)

/-- Whether some column is blank, up to the first that is. -/
def anyBlank (row : CsvRow) : List String → Except StorageFailure Bool
  | [] => .ok false
  | name :: names =>
    match row.get? name with
    | none => .ok true
    | some none => .error .missingValue
    | some (some text) => if blank text then .ok true else anyBlank row names

/-- The number of a column. -/
def feature (reading : NumberReading Real) (row : CsvRow) (name : String) :
    Except StorageFailure Real :=
  match reading.decimal ((column row name).getD "") with
  | none => .error (.training "row-invalid" s!"{name} must be numeric")
  | some exact =>
    match exact.filter fun number : ℚ => decide (0 ≤ number ∧ number ≤ maxSmartValue) with
    | none => .error (.training "row-invalid" s!"{name} is outside the supported range")
    | some number => .ok (reading.float number)

/-- The numbers of a row, unless one of them is missing. -/
def featuresOf (reading : NumberReading Real) (row : CsvRow) :
    Except StorageFailure (Option (List Real)) := do
  let missing ← anyBlank row featureColumns
  if missing then .ok none
  else (featureColumns.mapM (feature reading row)).map some

/-- What a row says of a drive on a day. -/
structure Observation (Real : Type) where
  serial : String
  observedOn : CalendarDate
  features : Option (List Real)
  failed : Bool

/-- The drive of a row that is the first of its drive in a file. -/
def newSerial (filename : String) (seenSerials : List String) (row : CsvRow) :
    Except StorageFailure String := do
  let serial ← serialOf (column row "serial_number")
  if serial ∈ seenSerials then
    .error (.training "row-duplicate" s!"duplicate serial in {filename}: {serial}")
  else .ok serial

def checkDate (filename : String) (fileDate : CalendarDate) (row : CsvRow) :
    Except StorageFailure Unit :=
  if column row "date" = some fileDate.isoformat then .ok ()
  else .error (.training "date-mismatch" s!"row date disagrees with {filename}")

/-- What a row says, in a file in which some drives were seen. -/
def readRow (reading : NumberReading Real) (file : DailyFile) (seenSerials : List String)
    (row : CsvRow) : Except StorageFailure (Observation Real) := do
  let serial ← newSerial file.name seenSerials row
  checkDate file.name file.date row
  let features ← featuresOf reading row
  let failed ← failureOf (column row "failure")
  return ⟨serial, file.date, features, failed⟩

/-! ### Labels -/

/-- A drive on a day, labelled with whether it failed within the horizon. -/
structure StorageExample (Real : Type) where
  observedOn : CalendarDate
  features : List Real
  failedWithinHorizon : Nat

/-- The bounds of a builder, and the first digits of a digest as a number. -/
structure BackblazeDatasetBuilder where
  horizonDays : Nat
  maxRows : Nat
  maxSamples : Nat
  maxDevices : Nat
  negativeKeepModulus : Nat
  digest : String → Nat
  horizon : 1 ≤ horizonDays ∧ horizonDays ≤ 90
  positive : 1 ≤ maxRows ∧ 1 ≤ maxSamples ∧ 1 ≤ maxDevices
  modulus : 1 ≤ negativeKeepModulus ∧ negativeKeepModulus ≤ 1024

/-- What waits of a drive, oldest first. -/
abbrev History (Real : Type) : Type := List (CalendarDate × List Real)

/-- The queues of the drives, and the examples so far. -/
structure Progress (Real : Type) where
  pending : Dict String (History Real)
  examples : List (StorageExample Real)

def keepNegative (builder : BackblazeDatasetBuilder) (serial : String) (observedOn : CalendarDate) :
    Bool :=
  builder.digest s!"{serial}\x00{observedOn.isoformat}" % builder.negativeKeepModulus == 0

def appendExample (maximum : Nat) (examples : List (StorageExample Real))
    (labelled : StorageExample Real) : Except StorageFailure (List (StorageExample Real)) :=
  if maximum ≤ examples.length then
    .error (.training "dataset-too-large" "labelled sample limit exceeded")
  else .ok (examples ++ [labelled])

/-- An observation is more than the horizon before a day. -/
def Outlasted (horizonDays : Nat) (current observedOn : CalendarDate) : Prop :=
  observedOn.ordinal + horizonDays < current.ordinal

instance (horizonDays : Nat) (current observedOn : CalendarDate) :
    Decidable (Outlasted horizonDays current observedOn) := Nat.decLt _ _

/-- Release what is more than the horizon old, oldest first. -/
def releaseNegatives (builder : BackblazeDatasetBuilder) (serial : String) (current : CalendarDate) :
    History Real → List (StorageExample Real) →
      Except StorageFailure (History Real × List (StorageExample Real))
  | [], examples => .ok ([], examples)
  | (observedOn, features) :: history, examples =>
    if Outlasted builder.horizonDays current observedOn then
      if keepNegative builder serial observedOn then do
        let more ← appendExample builder.maxSamples examples ⟨observedOn, features, 0⟩
        releaseNegatives builder serial current history more
      else releaseNegatives builder serial current history examples
    else .ok ((observedOn, features) :: history, examples)

/-- Label what waits of a drive that failed. -/
def appendPositives (builder : BackblazeDatasetBuilder) :
    History Real → List (StorageExample Real) → Except StorageFailure (List (StorageExample Real))
  | [], examples => .ok examples
  | (observedOn, features) :: history, examples => do
    let more ← appendExample builder.maxSamples examples ⟨observedOn, features, 1⟩
    appendPositives builder history more

/-- What waits of a drive, which is new unless it has a queue. -/
def historyOf (builder : BackblazeDatasetBuilder) (serial : String)
    (pending : Dict String (History Real)) : Except StorageFailure (History Real) :=
  match pending.get? serial with
  | some history => .ok history
  | none =>
    if builder.maxDevices ≤ pending.size then
      .error (.training "dataset-too-large" "active device limit exceeded")
    else .ok []

/-- Age the queue of a drive, and label or extend it. -/
def observe (builder : BackblazeDatasetBuilder) (progress : Progress Real)
    (observation : Observation Real) : Except StorageFailure (Progress Real) := do
  let history ← historyOf builder observation.serial progress.pending
  let (waiting, examples) ←
    releaseNegatives builder observation.serial observation.observedOn history progress.examples
  if observation.failed then do
    let labelled ← appendPositives builder waiting examples
    return ⟨progress.pending.erase observation.serial, labelled⟩
  else
    match observation.features with
    | none => return ⟨progress.pending.set observation.serial waiting, examples⟩
    | some features =>
      return ⟨progress.pending.set observation.serial (waiting ++ [(observation.observedOn, features)]),
        examples⟩

/-- Whether an observation counts as one without features. -/
def countsMissing (observation : Observation Real) : Bool :=
  !observation.failed && observation.features.isNone

/-! ### Files -/

/-- What was read of a file: the drives, how many had no features, and the progress. -/
structure DailyProgress (Real : Type) where
  seenSerials : List String
  missing : Nat
  progress : Progress Real

def consumeRow (builder : BackblazeDatasetBuilder) (reading : NumberReading Real) (file : DailyFile)
    (row : CsvRow) (daily : DailyProgress Real) : Except StorageFailure (DailyProgress Real) := do
  let observation ← readRow reading file daily.seenSerials row
  let progress ← observe builder daily.progress observation
  return ⟨observation.serial :: daily.seenSerials,
    daily.missing + (if countsMissing observation then 1 else 0), progress⟩

/-- Consume the rows of a file behind some number of rows. -/
def consumeRows (builder : BackblazeDatasetBuilder) (reading : NumberReading Real) (file : DailyFile) :
    Nat → List CsvRow → DailyProgress Real → Except StorageFailure (DailyProgress Real)
  | _, [], daily => .ok daily
  | before, row :: rows, daily =>
    if builder.maxRows < before + 1 then
      .error (.training "dataset-too-large" "CSV row limit exceeded")
    else do
      let consumed ← consumeRow builder reading file row daily
      consumeRows builder reading file (before + 1) rows consumed

def readDaily (builder : BackblazeDatasetBuilder) (reading : NumberReading Real) (file : DailyFile)
    (priorRows : Nat) (progress : Progress Real) : Except StorageFailure (DailyProgress Real) := do
  let _ ← validatedHeader file.fieldnames
  consumeRows builder reading file priorRows file.rows ⟨[], 0, progress⟩

/-- What was read of some files. -/
structure Totals (Real : Type) where
  rowsRead : Nat
  rowsMissingFeatures : Nat
  progress : Progress Real

def readFiles (builder : BackblazeDatasetBuilder) (reading : NumberReading Real) :
    List DailyFile → Totals Real → Except StorageFailure (Totals Real)
  | [], totals => .ok totals
  | file :: files, totals => do
    let daily ← readDaily builder reading file totals.rowsRead totals.progress
    readFiles builder reading files ⟨totals.rowsRead + daily.seenSerials.length,
      totals.rowsMissingFeatures + daily.missing, daily.progress⟩

structure StorageDataset (Real : Type) where
  examples : List (StorageExample Real)
  rowsRead : Nat
  rowsMissingFeatures : Nat
  firstDate : CalendarDate
  lastDate : CalendarDate
  horizonDays : Nat

/-- The files that are built from, which are some and not too many. -/
def csvFiles (files : List DailyFile) : Except StorageFailure (List DailyFile) :=
  if files = [] then
    .error (.training "dataset-invalid" "Backblaze CSV root contains no daily files")
  else if maxCsvFiles < files.length then
    .error (.training "dataset-too-large" "too many daily CSV files")
  else .ok files

/-- The examples of all daily files, or the reason for which there are none. -/
def build (builder : BackblazeDatasetBuilder) (reading : NumberReading Real) (files : List DailyFile) :
    Except StorageFailure (StorageDataset Real) := do
  match ← csvFiles files with
  | [] => .error (.training "dataset-invalid" "Backblaze CSV root contains no daily files")
  | first :: others =>
    let totals ← readFiles builder reading (first :: others) ⟨0, 0, ⟨Dict.empty, []⟩⟩
    if totals.progress.examples.isEmpty then
      .error (.training "insufficient-history" "dataset produced no labelled examples")
    else .ok {
      examples := totals.progress.examples
      rowsRead := totals.rowsRead
      rowsMissingFeatures := totals.rowsMissingFeatures
      firstDate := first.date
      lastDate := (others.getLastD first).date
      horizonDays := builder.horizonDays }

/-! ### The split -/

/-- The ordinals of the labelled dates, in order. -/
def labelledDates (examples : List (StorageExample Real)) : List Nat :=
  ((examples.map fun labelled => labelled.observedOn.ordinal).dedup).insertionSort fun first second =>
    first ≤ second

/-- A training part, a held-out part, and the ordinal of the date between them. -/
structure TimeSplit (Real : Type) where
  train : List (StorageExample Real)
  holdout : List (StorageExample Real)
  splitDate : Nat

/-- Four fifths of the labelled dates, at least one of them and not all. -/
def splitIndex (dates : List Nat) : Nat := min (dates.length - 1) (max 1 (dates.length * 4 / 5))

/-- A split at a day, with as many days between its parts as the horizon has. -/
def timeSplit (examples : List (StorageExample Real)) (horizonDays : Nat) :
    Except StorageFailure (TimeSplit Real) :=
  let dates := labelledDates examples
  if dates.length < 3 then
    .error (.training "insufficient-history" "at least three labelled dates are required")
  else
    let splitDate := dates.getD (splitIndex dates) 0
    if splitDate < horizonDays + 1 then .error .dateOutOfRange
    else
      let trainBefore := splitDate - horizonDays
      let train := examples.filter fun labelled => decide (labelled.observedOn.ordinal < trainBefore)
      let holdout := examples.filter fun labelled => decide (splitDate ≤ labelled.observedOn.ordinal)
      if train.isEmpty || holdout.isEmpty then
        .error (.training "insufficient-history" "time-purged split is empty")
      else .ok ⟨train, holdout, splitDate⟩

end Storage

end Omnitensor
