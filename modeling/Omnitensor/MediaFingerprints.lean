/-
This file models the fingerprint of a media file.

A file whose suffix is one of media is opened by a decoder. Every decoded frame of its video counts in
a bucket of time, whose hash has the bits that most of its frames have; its audio is cut into windows,
each with a hash of its own. A fingerprint has hashes of the two, how long the medium is, and what its
container says of its quality.

What a decoder makes of the bytes of a file, which points of a small grey frame are lighter than the
ones before, and which bands of a window are present are parameters.
-/

import Omnitensor.DoubleArithmetic
import Omnitensor.Dict
import Omnitensor.Fallible
import Omnitensor.PosixPath

namespace Omnitensor

/-! ### Data -/

/-- What a medium consists of. -/
inductive MediaModality where
  | audio
  | video
  | audioVideo
  deriving DecidableEq

/-- Properties of a source, as its container gives them. -/
structure MediaQuality where
  width : Option Int
  height : Option Int
  videoBitrate : Option Int
  audioBitrate : Option Int
  audioSampleRate : Option Int
  audioChannels : Option Int
  losslessAudio : Option Bool
  deriving DecidableEq

/-- What a medium is compared by. -/
structure MediaFingerprint where
  relativePath : PyString
  fileName : PyString
  sha256 : String
  modality : MediaModality
  durationMs : Option Int
  visual : List Nat
  audio : List Nat
  quality : MediaQuality
  deriving DecidableEq

/-- Why there is no fingerprint: a stable refusal of the file, or a number too large for its format. -/
inductive MediaFailure where
  | refused (code detail : String)
  | overflow
  deriving DecidableEq

/-- A path: how it begins at the root, if it does, and its components. -/
structure MediaPath where
  root : PyString
  parts : List PyString
  deriving DecidableEq

/-- A decoded frame. Its points are those of its small grey copy, row by row. -/
structure VideoFrame where
  pts : Option Int
  lighter : List Bool

/-- The video of a container. Without frames they could not all be decoded. -/
structure VideoStream where
  width : Option Int
  height : Option Int
  bitRate : Option Int
  timeBase : Option Rat
  averageRate : Option Rat
  frames : Option (List VideoFrame)

/-- The audio of a container. Its chunks are resampled, and the words of numbers in single format. -/
structure AudioStream where
  codecName : PyString
  bitRate : Option Int
  sampleRate : Option Int
  channels : Option Int
  chunks : Option (List (List UInt32))

/-- An opened file, with the first stream of each kind. -/
structure MediaContainer where
  duration : Option Int
  video : Option VideoStream
  audio : Option AudioStream

/-- What the host and its libraries make of texts, bytes and windows. -/
structure MediaTools where
  lowerCase : PyString → PyString
  sha256 : List UInt8 → String
  /-- The container of a file of some suffix, unless it cannot be opened. -/
  openMedia : List UInt8 → PyString → Option MediaContainer
  /-- The bands of a window that are present, unless it is silent. -/
  bands : List UInt32 → Option (Vector Bool 32)

namespace MediaPath

def ofText (text : PyString) : MediaPath where
  root :=
    let slashes := (text.takeWhile fun point => decide (point = .scalar '/')).length
    if slashes = 0 then [] else if slashes = 2 then .ofString "//" else .ofString "/"
  parts := PosixPath.parts text

def name (path : MediaPath) : PyString := path.parts.getLast?.getD []

def suffix (path : MediaPath) : PyString := PosixPath.suffix path.name

end MediaPath

namespace MediaSimilarity

def videoBucketMs : Int := 500
def audioSampleRate : Nat := 16000
def audioWindowSamples : Nat := audioSampleRate

def mediaSuffixes : List PyString :=
  [".avi", ".flac", ".m4a", ".m4v", ".mkv", ".mov", ".mp3", ".mp4", ".ogg", ".opus", ".wav",
    ".webm"].map .ofString

/-! ### Hashes -/

/-- The number with a bit for every index that is accepted. -/
def gatherBits (width : Nat) (accept : Nat → Bool) : Nat :=
  (List.range width).foldl (fun result bit => if accept bit then result ||| 1 <<< bit else result) 0

/-- The hash of a frame: its lighter points. -/
def perceptualHash (frame : VideoFrame) : Nat :=
  gatherBits frame.lighter.length fun index => frame.lighter[index]?.getD false

def majorityHash (values : List Nat) (width : Nat) : Nat :=
  gatherBits width fun bit =>
    decide (values.length < 2 * (values.map fun value => value >>> bit &&& 1).sum)

def spectralHash (tools : MediaTools) (samples : List UInt32) : Nat :=
  match tools.bands samples with
  | none => 0
  | some present => gatherBits 32 fun index => present.toList[index]?.getD false

/-! ### Video -/

/-- The rate of frames, and zero where it is not known. -/
def frameRate (stream : VideoStream) : Option Double :=
  match stream.averageRate with
  | some rate => Double.ofQuotient rate.num rate.den
  | none => Double.ofQuotient 0 1

/-- The time of a frame: what its container gives, or what its index says at the rate of frames. -/
def frameTimestampMs (frame : VideoFrame) (stream : VideoStream) (index : Nat) (rate : Double) :
    Option Int :=
  match frame.pts, stream.timeBase with
  | some pts, some timeBase => do
    let seconds ← Double.ofQuotient (pts * timeBase).num (pts * timeBase).den
    let milliseconds ← seconds.mulNat 1000
    return max 0 milliseconds.rounded
  | _, _ =>
    if rate.negative = false ∧ 0 < rate.size then do
      let scaled ← Double.ofInt (index * 1000)
      let milliseconds ← scaled.div rate
      return milliseconds.rounded
    else some (index * videoBucketMs)

/-- The hashes of frames by bucket, and the time of the last frame. -/
structure VideoBuckets where
  buckets : Dict Int (List Nat)
  lastTimestamp : Option Int

/-- Count a frame in its bucket. -/
def addFrame (stream : VideoStream) (rate : Double) (seen : VideoBuckets) (frame : VideoFrame × Nat) :
    Option VideoBuckets := do
  let timestamp ← frameTimestampMs frame.1 stream frame.2 rate
  let bucket := timestamp / videoBucketMs
  let hashes := (seen.buckets.get? bucket).getD [] ++ [perceptualHash frame.1]
  return ⟨seen.buckets.set bucket hashes, some timestamp⟩

/-- The buckets of all frames, unless one of them cannot be decoded or placed. -/
def videoBuckets (stream : VideoStream) : Option VideoBuckets := do
  let rate ← frameRate stream
  let frames ← stream.frames
  frames.zipIdx.foldlM (addFrame stream rate) ⟨Dict.empty, none⟩

def endingMs (lastTimestamp : Option Int) (step : Int) : Option Int := lastTimestamp.map (· + step)

def videoFingerprints : Option VideoStream → Except MediaFailure (List Nat × Option Int)
  | none => .ok ([], none)
  | some stream =>
    match videoBuckets stream with
    | none => .error (.refused "video-invalid" "video frames could not be decoded")
    | some seen =>
      .ok ((seen.buckets.keys.mergeSort).map fun index =>
          majorityHash ((seen.buckets.get? index).getD []) 64,
        endingMs seen.lastTimestamp videoBucketMs)

/-! ### Audio -/

/-- The samples that are waiting, the hashes of full windows, and how many samples those had. -/
structure AudioWindows where
  pending : List UInt32
  windows : List Nat
  samplesSeen : Nat

/-- Cut full windows off the waiting samples. Each takes samples, so the fuel is not used up. -/
def consumeAudioWindows (tools : MediaTools) : Nat → AudioWindows → AudioWindows
  | 0, seen => seen
  | fuel + 1, seen =>
    if audioWindowSamples ≤ seen.pending.length then
      consumeAudioWindows tools fuel
        { pending := seen.pending.drop audioWindowSamples
          windows := seen.windows ++ [spectralHash tools (seen.pending.take audioWindowSamples)]
          samplesSeen := seen.samplesSeen + audioWindowSamples }
    else seen

def addChunk (tools : MediaTools) (seen : AudioWindows) (chunk : List UInt32) : AudioWindows :=
  let pending := seen.pending ++ chunk
  consumeAudioWindows tools pending.length { seen with pending := pending }

/-- The samples that remain make a last window unless they are too few. -/
def lastWindow (tools : MediaTools) (seen : AudioWindows) : AudioWindows :=
  if 128 ≤ seen.pending.length then
    { seen with
      windows := seen.windows ++ [spectralHash tools seen.pending]
      samplesSeen := seen.samplesSeen + seen.pending.length }
  else seen

/-- How long samples last, rounded to milliseconds. -/
def audioDuration (samplesSeen : Nat) : Except MediaFailure (Option Int) :=
  if samplesSeen = 0 then .ok none
  else
    match Double.ofQuotient (samplesSeen * 1000) audioSampleRate with
    | none => .error .overflow
    | some milliseconds => .ok (some milliseconds.rounded)

def audioFingerprints (tools : MediaTools) :
    Option AudioStream → Except MediaFailure (List Nat × Option Int)
  | none => .ok ([], none)
  | some stream =>
    match stream.chunks with
    | none => .error (.refused "audio-invalid" "audio stream could not be decoded")
    | some chunks =>
      let seen := lastWindow tools (chunks.foldl (addChunk tools) ⟨[], [], 0⟩)
      do
        let duration ← audioDuration seen.samplesSeen
        return (seen.windows, duration)

/-! ### Metadata -/

/-- How long the container says that it is: none where it does not, and a refusal where it overflows. -/
def containerDurationMs (container : MediaContainer) : Option (Option Int) :=
  match container.duration with
  | none => some none
  | some duration =>
    (Double.ofQuotient duration 1000).map fun milliseconds => some (max 1 milliseconds.rounded)

def positiveInt (value : Option Int) : Option Int := value.filter fun number => decide (0 < number)

/-- Whether a codec keeps every sample. -/
def lossless (codec : PyString) : Bool :=
  decide (codec ∈ [.ofString "alac", .ofString "flac", .ofString "wavpack"]) ||
    (PyString.ofString "pcm_").isPrefixOf codec

def mediaQuality (tools : MediaTools) (container : MediaContainer) : MediaQuality where
  width := positiveInt (container.video.bind VideoStream.width)
  height := positiveInt (container.video.bind VideoStream.height)
  videoBitrate := positiveInt (container.video.bind VideoStream.bitRate)
  audioBitrate := positiveInt (container.audio.bind AudioStream.bitRate)
  audioSampleRate := positiveInt (container.audio.bind AudioStream.sampleRate)
  audioChannels := positiveInt (container.audio.bind AudioStream.channels)
  losslessAudio := container.audio.map fun stream => lossless (tools.lowerCase stream.codecName)

/-! ### Files -/

/-- The digest of a file, which may not be readable. -/
def fileDigest (tools : MediaTools) : Option (List UInt8) → Except MediaFailure String
  | none => .error (.refused "media-unavailable" "selected media could not be read")
  | some bytes => .ok (tools.sha256 bytes)

/-- Open a file of a known suffix, which has to have a stream. -/
def openContainer (tools : MediaTools) (bytes : List UInt8) (suffix : PyString) :
    Except MediaFailure (MediaContainer × Option Int) :=
  if tools.lowerCase suffix ∉ mediaSuffixes then
    .error (.refused "media-unsupported" "selected file type is unsupported")
  else
    match tools.openMedia bytes suffix with
    | none => .error (.refused "media-invalid" "selected media could not be opened")
    | some container =>
      match containerDurationMs container with
      | none => .error (.refused "media-invalid" "selected media could not be opened")
      | some durationMs =>
        if container.video.isNone ∧ container.audio.isNone then
          .error (.refused "media-invalid" "selected media has no audio or video stream")
        else .ok (container, durationMs)

/-- The fingerprint of what was decoded, of which there has to be something. -/
def assembleFingerprint (relativePath : PyString) (digest : String) (durationMs : Option Int)
    (quality : MediaQuality) (visual audio : List Nat × Option Int) :
    Except MediaFailure MediaFingerprint :=
  if visual.1 = [] ∧ audio.1 = [] then
    .error (.refused "media-invalid" "selected media has no decodable audio or video content")
  else
    .ok
      { relativePath := relativePath
        fileName := PosixPath.name relativePath
        sha256 := digest
        modality :=
          if visual.1 ≠ [] ∧ audio.1 ≠ [] then .audioVideo else if visual.1 ≠ [] then .video else .audio
        durationMs := durationMs.or (Option.merge max visual.2 audio.2)
        visual := visual.1
        audio := audio.1
        quality := quality }

/-- The fingerprint of a media file, from what the tools read of its streams. -/
def fingerprintFile (tools : MediaTools) (bytes : List UInt8) (source : MediaPath)
    (relativePath : PyString) (digest : String) : Except MediaFailure MediaFingerprint := do
  let (container, durationMs) ← openContainer tools bytes source.suffix
  let visual ← videoFingerprints container.video
  let audio ← audioFingerprints tools container.audio
  assembleFingerprint relativePath digest durationMs (mediaQuality tools container) visual audio

/-! ### What every fingerprint satisfies -/

/-- The hashes that a medium of a modality has. -/
def Consistent (modality : MediaModality) (visual audio : List Nat) : Prop :=
  match modality with
  | .video => visual ≠ [] ∧ audio = []
  | .audio => visual = [] ∧ audio ≠ []
  | .audioVideo => visual ≠ [] ∧ audio ≠ []

instance (modality : MediaModality) (visual audio : List Nat) :
    Decidable (Consistent modality visual audio) := by
  cases modality <;> exact inferInstanceAs (Decidable (_ ∧ _))

/-- Each number that is given is positive. -/
structure PositiveQuality (quality : MediaQuality) : Prop where
  width : ∀ value ∈ quality.width, 0 < value
  height : ∀ value ∈ quality.height, 0 < value
  videoBitrate : ∀ value ∈ quality.videoBitrate, 0 < value
  audioBitrate : ∀ value ∈ quality.audioBitrate, 0 < value
  audioSampleRate : ∀ value ∈ quality.audioSampleRate, 0 < value
  audioChannels : ∀ value ∈ quality.audioChannels, 0 < value

/-- What a fingerprint satisfies that was made of a file. -/
structure ValidFingerprint (fingerprint : MediaFingerprint) : Prop where
  fileName : fingerprint.fileName = PosixPath.name fingerprint.relativePath
  duration : ∀ value ∈ fingerprint.durationMs, 0 < value
  visual : ∀ hash ∈ fingerprint.visual, hash < 2 ^ 64
  audio : ∀ hash ∈ fingerprint.audio, hash < 2 ^ 64
  modality : Consistent fingerprint.modality fingerprint.visual fingerprint.audio
  quality : PositiveQuality fingerprint.quality

theorem gatherBits_lt (width : Nat) (accept : Nat → Bool) : gatherBits width accept < 2 ^ width := by
  unfold gatherBits
  induction width with
  | zero => exact Nat.one_pos
  | succ width inductionHypothesis =>
    rw [List.range_succ, List.foldl_append]
    simp only [List.foldl_cons, List.foldl_nil]
    have wider := inductionHypothesis.trans (Nat.pow_lt_pow_right (by decide) width.lt_succ_self)
    split
    · refine Nat.or_lt_two_pow wider ?_
      rw [Nat.one_shiftLeft]
      exact Nat.pow_lt_pow_right (by decide) width.lt_succ_self
    · exact wider

theorem spectralHash_lt (tools : MediaTools) (samples : List UInt32) :
    spectralHash tools samples < 2 ^ 64 := by
  unfold spectralHash
  split
  · decide
  · exact (gatherBits_lt _ _).trans (by decide)

theorem frameTimestampMs_nonneg {frame : VideoFrame} {stream : VideoStream} {index : Nat}
    {rate : Double} {timestamp : Int}
    (placed : frameTimestampMs frame stream index rate = some timestamp) : 0 ≤ timestamp := by
  unfold frameTimestampMs at placed
  split at placed
  · obtain ⟨seconds, _, placed⟩ := Option.bind_eq_some_iff.mp placed
    obtain ⟨milliseconds, _, placed⟩ := Option.bind_eq_some_iff.mp placed
    cases placed
    exact le_max_left _ _
  · split at placed
    · next known =>
      obtain ⟨scaled, found, placed⟩ := Option.bind_eq_some_iff.mp placed
      obtain ⟨milliseconds, divided, placed⟩ := Option.bind_eq_some_iff.mp placed
      cases placed
      refine Double.rounded_nonneg ?_
      have sign : scaled.negative = false := (Double.negative_of_ofRatio found).trans
        (decide_eq_false (by omega))
      rw [Double.negative_of_ofRatio divided, sign, known.1]
      rfl
    · cases placed
      unfold videoBucketMs
      omega

theorem lastTimestamp_nonneg {stream : VideoStream} {rate : Double}
    (frames : List (VideoFrame × Nat)) {seen after : VideoBuckets}
    (nonneg : ∀ timestamp ∈ seen.lastTimestamp, 0 ≤ timestamp)
    (placed : frames.foldlM (addFrame stream rate) seen = some after) :
    ∀ timestamp ∈ after.lastTimestamp, 0 ≤ timestamp := by
  induction frames generalizing seen with
  | nil =>
    cases placed
    exact nonneg
  | cons frame frames inductionHypothesis =>
    rw [List.foldlM_cons] at placed
    obtain ⟨middle, added, rest⟩ := Option.bind_eq_some_iff.mp placed
    refine inductionHypothesis ?_ rest
    obtain ⟨timestamp, found, same⟩ := Option.bind_eq_some_iff.mp added
    cases same
    rintro _ ⟨⟩
    exact frameTimestampMs_nonneg found

variable {seen : AudioWindows} {ending durationMs : Option Int} {tools : MediaTools}
  {container : MediaContainer}

/-- Hashes of video are those of majorities, and its last frame lasts. -/
theorem videoFingerprints_valid {video : Option VideoStream} {hashes : List Nat}
    (made : videoFingerprints video = .ok (hashes, ending)) :
    (∀ hash ∈ hashes, hash < 2 ^ 64) ∧ ∀ duration ∈ ending, 0 < duration := by
  unfold videoFingerprints at made
  split at made
  · cases made
    exact ⟨fun _ => False.elim ∘ List.not_mem_nil, fun _ => nofun⟩
  · split at made
    · cases made
    · next seen found =>
      cases made
      refine ⟨fun hash member => ?_, fun duration member => ?_⟩
      · obtain ⟨index, _, rfl⟩ := List.mem_map.mp member
        exact gatherBits_lt 64 _
      · obtain ⟨timestamp, last, rfl⟩ := Option.map_eq_some_iff.mp member
        obtain ⟨rate, _, found⟩ := Option.bind_eq_some_iff.mp found
        obtain ⟨frames, _, found⟩ := Option.bind_eq_some_iff.mp found
        have nonneg := lastTimestamp_nonneg _
          (fun _ member => absurd member (Option.not_mem_none _)) found timestamp last
        unfold videoBucketMs
        omega

/-- Windows have hashes of few bits, and no window is short. -/
structure SoundWindows (seen : AudioWindows) : Prop where
  hashes : ∀ hash ∈ seen.windows, hash < 2 ^ 64
  samples : seen.samplesSeen = 0 ∨ 128 ≤ seen.samplesSeen

theorem SoundWindows.add (sound : SoundWindows seen) (tools : MediaTools)
    (window pending : List UInt32) {count : Nat} (long : 128 ≤ count) :
    SoundWindows ⟨pending, seen.windows ++ [spectralHash tools window], seen.samplesSeen + count⟩ where
  hashes hash member := by
    rcases List.mem_append.mp member with old | new
    · exact sound.hashes hash old
    · rw [List.mem_singleton.mp new]
      exact spectralHash_lt tools window
  samples := Or.inr (long.trans (Nat.le_add_left _ _))

theorem soundWindows_consumeAudioWindows (tools : MediaTools) (fuel : Nat)
    (sound : SoundWindows seen) : SoundWindows (consumeAudioWindows tools fuel seen) := by
  induction fuel generalizing seen with
  | zero => exact sound
  | succ fuel inductionHypothesis =>
    unfold consumeAudioWindows
    split
    · exact inductionHypothesis (sound.add tools _ _ (by decide))
    · exact sound

theorem soundWindows_foldl (tools : MediaTools) (chunks : List (List UInt32))
    (sound : SoundWindows seen) : SoundWindows (chunks.foldl (addChunk tools) seen) := by
  induction chunks generalizing seen with
  | nil => exact sound
  | cons chunk chunks inductionHypothesis =>
    refine inductionHypothesis (soundWindows_consumeAudioWindows tools _ ?_)
    exact ⟨sound.hashes, sound.samples⟩

theorem soundWindows_lastWindow (tools : MediaTools) (sound : SoundWindows seen) :
    SoundWindows (lastWindow tools seen) := by
  unfold lastWindow
  split
  · next long => exact sound.add tools _ _ long
  · exact sound

/-- Samples of a window last for some milliseconds. -/
theorem audioDuration_pos {samplesSeen : Nat} (long : samplesSeen = 0 ∨ 128 ≤ samplesSeen)
    {duration : Option Int} (measured : audioDuration samplesSeen = .ok duration) :
    ∀ value ∈ duration, 0 < value := by
  unfold audioDuration at measured
  split at measured
  · cases measured
    exact fun _ => nofun
  · next some =>
    split at measured
    · cases measured
    · next milliseconds found =>
      cases measured
      rintro _ ⟨⟩
      have exact : FloatFormat.binary64.Exact 8 := ⟨8, by decide⟩
      have eight := Double.le_rounded_of_ofQuotient (by decide) exact
        (by unfold audioSampleRate; omega) found
      exact lt_of_lt_of_le (by decide) eight

theorem audioFingerprints_valid {audio : Option AudioStream} {hashes : List Nat}
    (made : audioFingerprints tools audio = .ok (hashes, ending)) :
    (∀ hash ∈ hashes, hash < 2 ^ 64) ∧ ∀ duration ∈ ending, 0 < duration := by
  unfold audioFingerprints at made
  split at made
  · cases made
    exact ⟨fun _ => False.elim ∘ List.not_mem_nil, fun _ => nofun⟩
  · split at made
    · cases made
    · next chunks _ =>
      have silent : SoundWindows ⟨[], [], 0⟩ := ⟨fun _ => False.elim ∘ List.not_mem_nil, Or.inl rfl⟩
      have sound := soundWindows_lastWindow tools (soundWindows_foldl tools chunks silent)
      obtain ⟨duration, measured, made⟩ := bind_eq_ok.mp made
      cases made
      exact ⟨sound.hashes, audioDuration_pos sound.samples measured⟩

theorem containerDurationMs_pos (said : containerDurationMs container = some durationMs) :
    ∀ value ∈ durationMs, 0 < value := by
  unfold containerDurationMs at said
  split at said
  · cases said
    exact fun _ => nofun
  · obtain ⟨milliseconds, _, rfl⟩ := Option.map_eq_some_iff.mp said
    rintro _ ⟨⟩
    exact lt_of_lt_of_le Int.one_pos (le_max_left _ _)

theorem positiveInt_pos (value : Option Int) : ∀ number ∈ positiveInt value, 0 < number :=
  fun _ member => of_decide_eq_true (Option.filter_eq_some_iff.mp member).2

theorem positiveQuality_mediaQuality (tools : MediaTools) (container : MediaContainer) :
    PositiveQuality (mediaQuality tools container) where
  width := positiveInt_pos _
  height := positiveInt_pos _
  videoBitrate := positiveInt_pos _
  audioBitrate := positiveInt_pos _
  audioSampleRate := positiveInt_pos _
  audioChannels := positiveInt_pos _

theorem containerDurationMs_of_openContainer {bytes : List UInt8} {suffix : PyString}
    (opened : openContainer tools bytes suffix = .ok (container, durationMs)) :
    containerDurationMs container = some durationMs := by
  unfold openContainer at opened
  split at opened
  · cases opened
  · split at opened
    · cases opened
    · split at opened
      · cases opened
      · next said =>
        split at opened
        · cases opened
        · cases opened
          exact said

/-- Two positive times have a positive maximum. -/
theorem merge_max_pos {first second : Option Int} (left : ∀ value ∈ first, 0 < value)
    (right : ∀ value ∈ second, 0 < value) : ∀ value ∈ Option.merge max first second, 0 < value := by
  rcases first with _ | first <;> rcases second with _ | second <;> rintro _ ⟨⟩
  · exact right second rfl
  · exact left first rfl
  · exact lt_max_of_lt_left (left first rfl)

/-- What every fingerprint satisfies, and what it is called. -/
theorem validFingerprint_fingerprintFile {bytes : List UInt8} {source : MediaPath}
    {relativePath : PyString} {digest : String} {fingerprint : MediaFingerprint}
    (made : fingerprintFile tools bytes source relativePath digest = .ok fingerprint) :
    ValidFingerprint fingerprint ∧ fingerprint.relativePath = relativePath ∧
      fingerprint.sha256 = digest := by
  unfold fingerprintFile at made
  obtain ⟨⟨container, durationMs⟩, opened, made⟩ := bind_eq_ok.mp made
  obtain ⟨⟨visual, visualEnding⟩, video, made⟩ := bind_eq_ok.mp made
  obtain ⟨⟨audio, audioEnding⟩, sound, made⟩ := bind_eq_ok.mp made
  have said := containerDurationMs_pos (containerDurationMs_of_openContainer opened)
  have seen := videoFingerprints_valid video
  have heard := audioFingerprints_valid sound
  unfold assembleFingerprint at made
  split at made
  · cases made
  · next some =>
    cases made
    refine ⟨⟨rfl, fun value member => ?_, seen.1, heard.1, ?_, positiveQuality_mediaQuality _ _⟩, rfl, rfl⟩
    · rcases Option.or_eq_some_iff.mp member with own | ⟨_, observed⟩
      · exact said value own
      · exact merge_max_pos seen.2 heard.2 value observed
    · rcases visual with _ | ⟨first, visual⟩ <;> rcases audio with _ | ⟨second, audio⟩
      · exact absurd ⟨rfl, rfl⟩ some
      · exact ⟨rfl, List.cons_ne_nil _ _⟩
      · exact ⟨List.cons_ne_nil _ _, rfl⟩
      · exact ⟨List.cons_ne_nil _ _, List.cons_ne_nil _ _⟩

/-- Of the path of a file only its suffix matters. -/
theorem fingerprintFile_congr (tools : MediaTools) (bytes : List UInt8) {first second : MediaPath}
    (same : first.suffix = second.suffix) (relativePath : PyString) (digest : String) :
    fingerprintFile tools bytes first relativePath digest =
      fingerprintFile tools bytes second relativePath digest := by
  rw [fingerprintFile, fingerprintFile, same]

end MediaSimilarity

end Omnitensor
