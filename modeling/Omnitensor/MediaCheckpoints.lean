/-
This file models media scans and the checkpoints that they leave behind.

A scan of a selection takes the files in order. It digests each one and looks for a checkpoint of the
selection, the path and the digest; without one it makes the fingerprint and saves it. A file that is
selected again is answered from what the scan remembers. A scan that gets to its end groups what it
found and clears the checkpoints of its selection.

A checkpoint is a JSON text, and its reader checks every field again. A store that cannot be read has no
checkpoint to give, and one that cannot be written stays as it is. What the machine does in a scan, its
cancellation included, is given by turns. How fingerprints are grouped is a parameter.
-/

import Omnitensor.DoubleText
import Omnitensor.JsonRoundTrip
import Omnitensor.MediaFingerprints
import Omnitensor.PythonJson

namespace Omnitensor

namespace MediaSimilarity

/-! ### Checkpoints as texts -/

def payloadFields : List String :=
  ["version", "sha256", "modality", "durationMs", "visual", "audio", "quality"]

def qualityFields : List String :=
  ["width", "height", "video_bitrate", "audio_bitrate", "audio_sample_rate", "audio_channels",
    "lossless_audio"]

def modalityText : MediaModality → String
  | .audio => "audio"
  | .video => "video"
  | .audioVideo => "audio-video"

def optionalInteger : Option Int → Json Double
  | none => .null
  | some value => .int value

def hashItems (hashes : List Nat) : Json Double := .array (hashes.map fun hash : Nat => .int hash)

def qualityDocument (quality : MediaQuality) : Json Double :=
  .object [
    ("width", optionalInteger quality.width),
    ("height", optionalInteger quality.height),
    ("video_bitrate", optionalInteger quality.videoBitrate),
    ("audio_bitrate", optionalInteger quality.audioBitrate),
    ("audio_sample_rate", optionalInteger quality.audioSampleRate),
    ("audio_channels", optionalInteger quality.audioChannels),
    ("lossless_audio", (quality.losslessAudio.map Json.bool).getD .null)]

def checkpointDocument (fingerprint : MediaFingerprint) : Json Double :=
  .object [
    ("version", .int 1),
    ("sha256", .string fingerprint.sha256),
    ("modality", .string (modalityText fingerprint.modality)),
    ("durationMs", optionalInteger fingerprint.durationMs),
    ("visual", hashItems fingerprint.visual),
    ("audio", hashItems fingerprint.audio),
    ("quality", qualityDocument fingerprint.quality)]

/-- A fingerprint as a checkpoint stores it. -/
def encode (fingerprint : MediaFingerprint) : List Char := (checkpointDocument fingerprint).dumps

def optionalPositiveInteger : Json Double → Option (Option Int)
  | .null => some none
  | .int value => if 0 < value then some (some value) else none
  | _ => none

def decodeHash : Json Double → Option Nat
  | .int value => if 0 ≤ value ∧ value < 2 ^ 64 then some value.toNat else none
  | _ => none

def decodeHashes : Json Double → Option (List Nat)
  | .array items => items.mapM decodeHash
  | _ => none

def decodeModality : Json Double → Option MediaModality
  | .string "audio" => some .audio
  | .string "video" => some .video
  | .string "audio-video" => some .audioVideo
  | _ => none

def decodeLossless : Json Double → Option (Option Bool)
  | .null => some none
  | .bool value => some (some value)
  | _ => none

def decodeQuality : Json Double → Option MediaQuality
  | .object members =>
    if Json.hasFields members qualityFields then do
      let width ← (Json.field members "width").bind optionalPositiveInteger
      let height ← (Json.field members "height").bind optionalPositiveInteger
      let videoBitrate ← (Json.field members "video_bitrate").bind optionalPositiveInteger
      let audioBitrate ← (Json.field members "audio_bitrate").bind optionalPositiveInteger
      let audioSampleRate ← (Json.field members "audio_sample_rate").bind optionalPositiveInteger
      let audioChannels ← (Json.field members "audio_channels").bind optionalPositiveInteger
      let losslessAudio ← (Json.field members "lossless_audio").bind decodeLossless
      return ⟨width, height, videoBitrate, audioBitrate, audioSampleRate, audioChannels, losslessAudio⟩
    else none
  | _ => none

/-- The version is the one that is written, and the digest that of the file. -/
def sameIdentity (members : List (String × Json Double)) (digest : String) : Bool :=
  (Json.field members "version").any (Json.equalsInt · 1) &&
    match Json.field members "sha256" with
    | some (.string stored) => decide (stored = digest)
    | _ => false

def decodeDocument (relativePath : PyString) (digest : String) :
    Json Double → Option MediaFingerprint
  | .object members =>
    if Json.hasFields members payloadFields && sameIdentity members digest then do
      let modality ← (Json.field members "modality").bind decodeModality
      let durationMs ← (Json.field members "durationMs").bind optionalPositiveInteger
      let visual ← (Json.field members "visual").bind decodeHashes
      let audio ← (Json.field members "audio").bind decodeHashes
      guard (Consistent modality visual audio)
      let quality ← (Json.field members "quality").bind decodeQuality
      return ⟨relativePath, PosixPath.name relativePath, digest, modality, durationMs, visual, audio,
        quality⟩
    else none
  | _ => none

/-- A checkpoint that is read back, if it is of this file. -/
def decode (payload : List Char) (relativePath : PyString) (digest : String) :
    Option MediaFingerprint :=
  (Json.loads payload).bind (decodeDocument relativePath digest)

/-! ### The store -/

/-- The digest and the text of every checkpoint, by its selection and its relative path. -/
abbrev Checkpoints : Type := Dict (String × PyString) (String × List Char)

/-- The identity of an ordered selection, unless one of its paths cannot be encoded. -/
def selectionKey (tools : MediaTools) (relativePaths : List PyString) : Option String :=
  (PyString.encodeUtf8 (JsonSyntax.text (.array (relativePaths.map .string)))).map tools.sha256

namespace Checkpoints

/-- The fingerprint that is stored for a file, if its content is still the same. -/
def load (checkpoints : Checkpoints) (selection : String) (relativePath : PyString) (digest : String) :
    Option MediaFingerprint :=
  match checkpoints.get? (selection, relativePath) with
  | some (stored, payload) => if stored = digest then decode payload relativePath digest else none
  | none => none

/-- A checkpoint of a path takes the place of an earlier one. -/
def save (checkpoints : Checkpoints) (selection : String) (fingerprint : MediaFingerprint) :
    Checkpoints :=
  checkpoints.set (selection, fingerprint.relativePath) (fingerprint.sha256, encode fingerprint)

def clear (checkpoints : Checkpoints) (selection : String) : Checkpoints :=
  checkpoints.filter fun key _ => decide (key.1 ≠ selection)

end Checkpoints

/-! ### Scans -/

/-- A selected file. The path that it is shown under ends like the one it is read from. -/
structure SelectedMedia where
  source : PyString
  relativePath : PyString
  sameSuffix : (MediaPath.ofText source).suffix = (MediaPath.ofText relativePath).suffix

/-- When a scan is cancelled at a file: before its checkpoint could be saved, or after that. -/
inductive StopMoment where
  | before
  | after
  deriving DecidableEq

/-- What the machine does at a file of a scan. -/
structure ScanTurn where
  loads : Bool
  saves : Bool
  stop : Option StopMoment

/-- What the machine does when every file has been scanned. -/
structure ScanFinish where
  clears : Bool
  cancelled : Bool

/-- How fingerprints are grouped, unless that fails, and which files a group has. -/
structure MediaGrouping (Group : Type) where
  similarityGroups : List MediaFingerprint → Double → Option (List Group)
  relativePaths : Group → List PyString

/-- What a scan answers. -/
structure ScanOutput (Group : Type) where
  scannedFileCount : Nat
  fingerprintedFileCount : Nat
  similarFileCount : Nat
  unmatchedFileCount : Int
  minimumSimilarity : Double
  groups : List Group
  failures : List (PyString × String)
  deriving DecidableEq

/-- How a scan ends. -/
inductive ScanEnd (Group : Type) where
  | completed (output : ScanOutput Group)
  | failed
  | cancelled
  deriving DecidableEq

/-- Why a scan does not get to its end. -/
inductive ScanHalt where
  | cancelled
  | failed
  deriving DecidableEq

/-- What a scan has done so far, and the store, if there is one. -/
structure ScanState where
  checkpoints : Option Checkpoints
  extracted : Dict MediaPath (Except MediaFailure MediaFingerprint)
  found : List MediaFingerprint
  failures : List (PyString × String)

section

variable (tools : MediaTools) (files : MediaPath → Option (List UInt8)) (selection : String)

/-- Save a checkpoint if there is a store that can be written. -/
def saveCheckpoint (turn : ScanTurn) (checkpoints : Option Checkpoints)
    (fingerprint : MediaFingerprint) : Option Checkpoints :=
  checkpoints.map fun stored => if turn.saves then stored.save selection fingerprint else stored

/-- Load a checkpoint if there is a store that can be read. -/
def loadCheckpoint (turn : ScanTurn) (checkpoints : Option Checkpoints) (relativePath : PyString)
    (digest : String) : Option MediaFingerprint :=
  checkpoints.bind fun stored => if turn.loads then stored.load selection relativePath digest else none

/-- The fingerprint of bytes: that of the checkpoint, or a new one that is saved. -/
def checkpointedFingerprint (turn : ScanTurn) (checkpoints : Option Checkpoints) (source : MediaPath)
    (relativePath : PyString) (bytes : List UInt8) (digest : String) :
    Except MediaFailure MediaFingerprint × Option Checkpoints :=
  match loadCheckpoint selection turn checkpoints relativePath digest with
  | some cached => (.ok cached, checkpoints)
  | none =>
    match fingerprintFile tools bytes source relativePath digest with
    | .error failure => (.error failure, checkpoints)
    | .ok fingerprint => (.ok fingerprint, saveCheckpoint selection turn checkpoints fingerprint)

def resumableFingerprint (turn : ScanTurn) (checkpoints : Option Checkpoints) (source : MediaPath)
    (relativePath : PyString) : Except MediaFailure MediaFingerprint × Option Checkpoints :=
  match fileDigest tools (files source) with
  | .error failure => (.error failure, checkpoints)
  | .ok digest =>
    checkpointedFingerprint tools selection turn checkpoints source relativePath
      ((files source).getD []) digest

/-- A fingerprint under another path. -/
def renamed (fingerprint : MediaFingerprint) (relativePath : PyString) : MediaFingerprint :=
  if fingerprint.relativePath ≠ relativePath then
    { fingerprint with relativePath := relativePath, fileName := PosixPath.name relativePath }
  else fingerprint

/-- The fingerprint of a selected file, which is remembered unless the scan is going to fail. -/
def extractOne (turn : ScanTurn) (state : ScanState) (selected : SelectedMedia) :
    Except MediaFailure MediaFingerprint × ScanState :=
  let source := MediaPath.ofText selected.source
  match state.extracted.get? source with
  | some (.error failure) => (.error failure, state)
  | some (.ok fingerprint) => (.ok (renamed fingerprint selected.relativePath), state)
  | none =>
    match resumableFingerprint tools files selection turn state.checkpoints source
        selected.relativePath with
    | (.error .overflow, checkpoints) => (.error .overflow, { state with checkpoints := checkpoints })
    | (answer, checkpoints) =>
      (answer, { state with checkpoints := checkpoints, extracted := state.extracted.set source answer })

/-- Scan files from an index on, until one of them ends the scan. -/
def scanFiles (turns : Nat → ScanTurn) :
    Nat → List SelectedMedia → ScanState → ScanState × Option ScanHalt
  | _, [], state => (state, none)
  | index, selected :: rest, state =>
    if (turns index).stop = some .before then (state, some .cancelled)
    else
      let extraction := extractOne tools files selection (turns index) state selected
      if (turns index).stop = some .after then (extraction.2, some .cancelled)
      else
        match extraction.1 with
        | .ok fingerprint =>
          scanFiles turns (index + 1) rest
            { extraction.2 with found := extraction.2.found ++ [fingerprint] }
        | .error (.refused code _) =>
          scanFiles turns (index + 1) rest
            { extraction.2 with
              failures := extraction.2.failures ++ [(selected.relativePath, code)] }
        | .error .overflow => (extraction.2, some .failed)

end

variable {Group : Type}

/-- What a scan of so many files answers with these groups. -/
def scanOutput (grouping : MediaGrouping Group) (total : Nat) (minimum : Double) (state : ScanState)
    (groups : List Group) : ScanOutput Group :=
  let grouped := (groups.flatMap grouping.relativePaths).dedup
  { scannedFileCount := total
    fingerprintedFileCount := state.found.length
    similarFileCount := grouped.length
    unmatchedFileCount := state.found.length - grouped.length
    minimumSimilarity := minimum
    groups := groups
    failures := state.failures }

/-- A scan: how it ends, and the store after it. -/
def scan (tools : MediaTools) (grouping : MediaGrouping Group)
    (files : MediaPath → Option (List UInt8)) (selected : List SelectedMedia) (minimum : Double)
    (turns : Nat → ScanTurn) (finish : ScanFinish) (checkpoints : Option Checkpoints) :
    ScanEnd Group × Option Checkpoints :=
  match selectionKey tools (selected.map SelectedMedia.relativePath) with
  | none => (.failed, checkpoints)
  | some selection =>
    match scanFiles tools files selection turns 0 selected ⟨checkpoints, Dict.empty, [], []⟩ with
    | (state, some .cancelled) => (.cancelled, state.checkpoints)
    | (state, some .failed) => (.failed, state.checkpoints)
    | (state, none) =>
      match grouping.similarityGroups state.found minimum with
      | none => (.failed, state.checkpoints)
      | some groups =>
        (if finish.cancelled then .cancelled
          else .completed (scanOutput grouping selected.length minimum state groups),
          state.checkpoints.map fun stored =>
            if finish.clears then stored.clear selection else stored)

/-! ### Runs -/

/-- What happens to a store: a scan of some files, or what the worker of a cancelled scan still does,
which read its file while the scan was on. -/
inductive ScanAction where
  | scan (files : MediaPath → Option (List UInt8)) (selected : List SelectedMedia) (minimum : Double)
    (turns : Nat → ScanTurn) (finish : ScanFinish)
  | lateSave (selected : List SelectedMedia) (file : SelectedMedia) (bytes : List UInt8)
  | lateClear (selected : List SelectedMedia)

/-- A scan with checkpoints, or a save that comes late. -/
def step (tools : MediaTools) (grouping : MediaGrouping Group) (checkpoints : Checkpoints) :
    ScanAction → Checkpoints
  | .scan files selected minimum turns finish =>
    (scan tools grouping files selected minimum turns finish (some checkpoints)).2.getD checkpoints
  | .lateSave selected file bytes =>
    match selectionKey tools (selected.map SelectedMedia.relativePath),
        fingerprintFile tools bytes (MediaPath.ofText file.source) file.relativePath
          (tools.sha256 bytes) with
    | some selection, .ok fingerprint => checkpoints.save selection fingerprint
    | _, _ => checkpoints
  | .lateClear selected =>
    match selectionKey tools (selected.map SelectedMedia.relativePath) with
    | some selection => checkpoints.clear selection
    | none => checkpoints

/-- The store after actions, from none. -/
def run (tools : MediaTools) (grouping : MediaGrouping Group) (actions : List ScanAction) :
    Checkpoints :=
  actions.foldl (step tools grouping) Dict.empty

/-- A turn in which nothing goes wrong. -/
def undisturbed : ScanTurn := ⟨true, true, none⟩

/-- A scan without a store. -/
def plainScan (tools : MediaTools) (grouping : MediaGrouping Group)
    (files : MediaPath → Option (List UInt8)) (selected : List SelectedMedia) (minimum : Double) :
    ScanEnd Group :=
  (scan tools grouping files selected minimum (fun _ => undisturbed) ⟨true, false⟩ none).1

end MediaSimilarity

end Omnitensor
