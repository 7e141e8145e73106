/-
This file proves that a resumed media scan answers what a scan without checkpoints answers.

A checkpoint is read back as the fingerprint that it was written for. In every run a stored checkpoint
is that of some bytes with its digest under its path, and digests are of one file each: so loading a
checkpoint gives what the file itself would give, and a scan with the store keeps up with the scan
without one, file by file.
-/

import Omnitensor.MediaCheckpoints

namespace Omnitensor

namespace MediaSimilarity

/-! ### Checkpoints are read back -/

theorem optionalPositiveInteger_optionalInteger {value : Option Int}
    (positive : ∀ number ∈ value, 0 < number) :
    optionalPositiveInteger (optionalInteger value) = some value := by
  cases value with
  | none => rfl
  | some number => exact if_pos (positive number rfl)

theorem decodeHashes_hashItems {hashes : List Nat} (small : ∀ hash ∈ hashes, hash < 2 ^ 64) :
    decodeHashes (hashItems hashes) = some hashes := by
  rw [hashItems, decodeHashes]
  induction hashes with
  | nil => rfl
  | cons hash hashes inductionHypothesis =>
    have decoded : decodeHash (.int hash) = some hash := by
      rw [decodeHash, if_pos, Int.toNat_natCast]
      exact ⟨Int.natCast_nonneg hash, by exact_mod_cast small hash List.mem_cons_self⟩
    rw [List.map_cons, List.mapM_cons, decoded,
      inductionHypothesis fun other member => small other (List.mem_cons_of_mem _ member)]
    rfl

theorem decodeModality_modalityText (modality : MediaModality) :
    decodeModality (.string (modalityText modality)) = some modality := by
  cases modality <;> rfl

theorem decodeLossless_bool (value : Option Bool) :
    decodeLossless ((value.map Json.bool).getD .null) = some value := by
  cases value <;> rfl

theorem decodeQuality_qualityDocument {quality : MediaQuality} (positive : PositiveQuality quality) :
    decodeQuality (qualityDocument quality) = some quality := by
  simp [decodeQuality, qualityDocument, qualityFields, Json.hasFields, Json.field,
    optionalPositiveInteger_optionalInteger positive.width,
    optionalPositiveInteger_optionalInteger positive.height,
    optionalPositiveInteger_optionalInteger positive.videoBitrate,
    optionalPositiveInteger_optionalInteger positive.audioBitrate,
    optionalPositiveInteger_optionalInteger positive.audioSampleRate,
    optionalPositiveInteger_optionalInteger positive.audioChannels, decodeLossless_bool]

theorem readable_optionalInteger (value : Option Int) : Json.Readable (optionalInteger value) := by
  cases value <;> exact trivial

theorem readable_hashItems (hashes : List Nat) : Json.Readable (hashItems hashes) := by
  rw [hashItems, Json.Readable, Json.readableItems_iff]
  intro item member
  obtain ⟨hash, _, rfl⟩ := List.mem_map.mp member
  exact trivial

theorem readable_qualityDocument (quality : MediaQuality) : Json.Readable (qualityDocument quality) := by
  have lossless : Json.Readable ((quality.losslessAudio.map Json.bool).getD (.null : Json Double)) := by
    cases quality.losslessAudio <;> exact trivial
  simp [qualityDocument, Json.Readable, Json.ReadableMembers, readable_optionalInteger, lossless]

theorem readable_checkpointDocument (fingerprint : MediaFingerprint) :
    Json.Readable (checkpointDocument fingerprint) := by
  simp [checkpointDocument, Json.Readable, Json.ReadableMembers, readable_optionalInteger,
    readable_hashItems, readable_qualityDocument]

variable {checkpoints : Checkpoints} {fingerprint : MediaFingerprint} {file : SelectedMedia}
  {bytes : List UInt8} {turns : Nat → ScanTurn}

theorem decode_encode (valid : ValidFingerprint fingerprint) :
    decode (encode fingerprint) fingerprint.relativePath fingerprint.sha256 = some fingerprint := by
  rw [decode, encode, Json.loads_dumps (readable_checkpointDocument fingerprint), Option.bind_some]
  simp [decodeDocument, checkpointDocument, payloadFields, sameIdentity, Json.hasFields, Json.field,
    Json.equalsInt, decodeModality_modalityText,
    optionalPositiveInteger_optionalInteger valid.duration, decodeHashes_hashItems valid.visual,
    decodeHashes_hashItems valid.audio, valid.modality, decodeQuality_qualityDocument valid.quality,
    ← valid.fileName]

/-! ### What a store holds -/

/-- A checkpoint is the text of what some bytes of its digest are compared by, under its path. -/
def Sound (tools : MediaTools) (checkpoints : Checkpoints) : Prop :=
  ∀ key digest payload, checkpoints.get? key = some (digest, payload) →
    ∃ bytes fingerprint, tools.sha256 bytes = digest ∧ payload = encode fingerprint ∧
      fingerprintFile tools bytes (MediaPath.ofText key.2) key.2 digest = .ok fingerprint

variable {tools : MediaTools}

theorem sound_empty : Sound tools Dict.empty := fun _ _ _ => nofun

theorem Sound.save (sound : Sound tools checkpoints) (selection : String)
    (made : fingerprintFile tools bytes (MediaPath.ofText file.source) file.relativePath
      (tools.sha256 bytes) = .ok fingerprint) :
    Sound tools (checkpoints.save selection fingerprint) := by
  obtain ⟨_, path, digest⟩ := validFingerprint_fingerprintFile made
  intro key stored payload found
  rw [Checkpoints.save] at found
  by_cases same : key = (selection, fingerprint.relativePath)
  · rw [same, Dict.get?_set_self] at found
    cases found
    rw [fingerprintFile_congr tools bytes file.sameSuffix] at made
    rw [same, path, digest]
    exact ⟨bytes, fingerprint, rfl, rfl, made⟩
  · rw [Dict.get?_set_of_ne _ _ _ same] at found
    exact sound key stored payload found

theorem get?_clear (checkpoints : Checkpoints) (selection : String) (key : String × PyString)
    (row : String × List Char) :
    (checkpoints.clear selection).get? key = some row ↔
      key.1 ≠ selection ∧ checkpoints.get? key = some row := by
  rw [Dict.get?_eq_some_iff, Checkpoints.clear, Dict.mem_filter, ← Dict.get?_eq_some_iff,
    decide_eq_true_iff, and_comm]

theorem Sound.clear (sound : Sound tools checkpoints) (selection : String) :
    Sound tools (checkpoints.clear selection) :=
  fun key digest payload found => sound key digest payload ((get?_clear _ _ _ _).mp found).2

/-- Digests are of one file each, so a checkpoint is what its file would give. -/
theorem fingerprintFile_of_load (injective : Function.Injective tools.sha256)
    (sound : Sound tools checkpoints) {selection : String}
    (loaded : checkpoints.load selection file.relativePath (tools.sha256 bytes) = some fingerprint) :
    fingerprintFile tools bytes (MediaPath.ofText file.source) file.relativePath (tools.sha256 bytes) =
      .ok fingerprint := by
  unfold Checkpoints.load at loaded
  split at loaded
  · next stored payload found =>
    split at loaded
    · next same =>
      obtain ⟨original, written, digest, rfl, made⟩ := sound _ _ _ found
      obtain rfl : original = bytes := injective (digest.trans same)
      rw [digest] at loaded
      obtain ⟨valid, path, sha⟩ := validFingerprint_fingerprintFile made
      have back := decode_encode valid
      rw [path, sha, loaded] at back
      rw [fingerprintFile_congr tools original file.sameSuffix, digest, made, Option.some.inj back]
    · cases loaded
  · cases loaded

/-! ### One file -/

/-- A store that is there is sound. -/
def SoundStore (tools : MediaTools) (checkpoints : Option Checkpoints) : Prop :=
  ∀ stored ∈ checkpoints, Sound tools stored

theorem soundStore_saveCheckpoint {checkpoints : Option Checkpoints}
    (sound : SoundStore tools checkpoints) (selection : String) (turn : ScanTurn)
    (made : fingerprintFile tools bytes (MediaPath.ofText file.source) file.relativePath
      (tools.sha256 bytes) = .ok fingerprint) :
    SoundStore tools (saveCheckpoint selection turn checkpoints fingerprint) := by
  intro after member
  obtain ⟨stored, present, rfl⟩ := Option.map_eq_some_iff.mp member
  split
  · exact (sound stored present).save selection made
  · exact sound stored present

/-- With or without a checkpoint a file gives the same, and the store stays sound. -/
theorem resumableFingerprint_spec (injective : Function.Injective tools.sha256)
    (files : MediaPath → Option (List UInt8)) (selection : String) (turn quiet : ScanTurn)
    {checkpoints : Option Checkpoints} (sound : SoundStore tools checkpoints) (file : SelectedMedia) :
    (resumableFingerprint tools files selection turn checkpoints (MediaPath.ofText file.source)
        file.relativePath).1 =
      (resumableFingerprint tools files selection quiet none (MediaPath.ofText file.source)
        file.relativePath).1 ∧
    SoundStore tools (resumableFingerprint tools files selection turn checkpoints
      (MediaPath.ofText file.source) file.relativePath).2 := by
  unfold resumableFingerprint fileDigest
  cases files (MediaPath.ofText file.source) with
  | none => exact ⟨rfl, sound⟩
  | some bytes =>
    simp only [Option.getD_some, checkpointedFingerprint]
    cases loaded : loadCheckpoint selection turn checkpoints file.relativePath (tools.sha256 bytes) with
    | some cached =>
      obtain ⟨stored, present, found⟩ := Option.bind_eq_some_iff.mp loaded
      split at found
      · simp [loadCheckpoint, fingerprintFile_of_load injective (sound stored present) found, sound]
      · cases found
    | none =>
      cases made : fingerprintFile tools bytes (MediaPath.ofText file.source) file.relativePath
          (tools.sha256 bytes) with
      | error failure => simp [loadCheckpoint, sound]
      | ok fingerprint =>
        simp [loadCheckpoint, soundStore_saveCheckpoint sound selection turn made]

/-- The state of a scan without its store. -/
def withoutStore (state : ScanState) : ScanState := { state with checkpoints := none }

theorem snd_resumableFingerprint_none (files : MediaPath → Option (List UInt8)) (selection : String)
    (turn : ScanTurn) (source : MediaPath) (relativePath : PyString) :
    (resumableFingerprint tools files selection turn none source relativePath).2 = none := by
  unfold resumableFingerprint
  split
  · rfl
  · simp only [checkpointedFingerprint, loadCheckpoint, Option.bind_none]
    split
    · rfl
    · rfl

/-- A step over a file gives the same with a store as without one, and keeps the store sound. -/
theorem extractOne_spec (injective : Function.Injective tools.sha256)
    (files : MediaPath → Option (List UInt8)) (selection : String) (turn quiet : ScanTurn)
    {state : ScanState} (sound : SoundStore tools state.checkpoints) (file : SelectedMedia) :
    ((extractOne tools files selection turn state file).1,
        withoutStore (extractOne tools files selection turn state file).2) =
      extractOne tools files selection quiet (withoutStore state) file ∧
    SoundStore tools (extractOne tools files selection turn state file).2.checkpoints := by
  obtain ⟨same, kept⟩ := resumableFingerprint_spec injective files selection turn quiet sound file
  have nothing := @snd_resumableFingerprint_none tools files selection quiet
    (MediaPath.ofText file.source) file.relativePath
  unfold extractOne withoutStore
  dsimp only
  cases state.extracted.get? (MediaPath.ofText file.source) with
  | some memo => cases memo <;> exact ⟨rfl, sound⟩
  | none =>
    dsimp only
    generalize resumableFingerprint tools files selection turn state.checkpoints
      (MediaPath.ofText file.source) file.relativePath = stored at same kept ⊢
    generalize resumableFingerprint tools files selection quiet none
      (MediaPath.ofText file.source) file.relativePath = fresh at same nothing ⊢
    obtain ⟨answer, after⟩ := stored
    obtain ⟨_, _⟩ := fresh
    obtain rfl : answer = _ := same
    obtain rfl := nothing
    rcases answer with (_ | _) | fingerprint <;> exact ⟨rfl, kept⟩

/-! ### Whole scans -/

/-- Unless it is cancelled, a pass over files does what it does without a store. -/
theorem scanFiles_spec (injective : Function.Injective tools.sha256)
    (files : MediaPath → Option (List UInt8)) (selection : String) (turns : Nat → ScanTurn)
    (selected : List SelectedMedia) (index : Nat) {state : ScanState}
    (sound : SoundStore tools state.checkpoints) :
    ((scanFiles tools files selection turns index selected state).2 = some .cancelled ∨
      (withoutStore (scanFiles tools files selection turns index selected state).1,
          (scanFiles tools files selection turns index selected state).2) =
        scanFiles tools files selection (fun _ => undisturbed) index selected (withoutStore state)) ∧
    SoundStore tools (scanFiles tools files selection turns index selected state).1.checkpoints := by
  have calm (moment : StopMoment) : undisturbed.stop ≠ some moment := nofun
  induction selected generalizing index state with
  | nil => exact ⟨Or.inr rfl, sound⟩
  | cons file rest inductionHypothesis =>
    obtain ⟨same, kept⟩ :=
      extractOne_spec injective files selection (turns index) undisturbed sound file
    unfold scanFiles
    by_cases before : (turns index).stop = some .before
    · rw [if_pos before]
      exact ⟨Or.inl rfl, sound⟩
    · rw [if_neg before, if_neg (calm .before)]
      dsimp only
      by_cases after : (turns index).stop = some .after
      · rw [if_pos after]
        exact ⟨Or.inl rfl, kept⟩
      · rw [if_neg after, if_neg (calm .after), ← same]
        generalize extractOne tools files selection (turns index) state file = extraction at kept ⊢
        obtain ⟨(⟨code, _⟩ | _) | fingerprint, next⟩ := extraction
        · exact inductionHypothesis (index + 1) kept
        · exact ⟨Or.inr rfl, kept⟩
        · exact inductionHypothesis (index + 1) kept

variable {Group : Type} (grouping : MediaGrouping Group)

/-- Unless it is cancelled, a scan with a sound store ends like one without a store. -/
theorem scan_spec (injective : Function.Injective tools.sha256)
    (files : MediaPath → Option (List UInt8)) (selected : List SelectedMedia) (minimum : Double)
    (turns : Nat → ScanTurn) (finish : ScanFinish) (sound : Sound tools checkpoints) :
    ((scan tools grouping files selected minimum turns finish (some checkpoints)).1 = .cancelled ∨
      (scan tools grouping files selected minimum turns finish (some checkpoints)).1 =
        plainScan tools grouping files selected minimum) ∧
    SoundStore tools (scan tools grouping files selected minimum turns finish (some checkpoints)).2 := by
  have start : SoundStore tools (some checkpoints) := by
    rintro _ ⟨⟩
    exact sound
  unfold plainScan scan
  cases selectionKey tools (selected.map SelectedMedia.relativePath) with
  | none => exact ⟨Or.inr rfl, start⟩
  | some selection =>
    have begun : SoundStore tools (⟨some checkpoints, Dict.empty, [], []⟩ : ScanState).checkpoints := start
    obtain ⟨same, kept⟩ := scanFiles_spec injective files selection turns selected 0 begun
    change _ ∨ _ = scanFiles tools files selection (fun _ => undisturbed) 0 selected
      ⟨none, Dict.empty, [], []⟩ at same
    dsimp only
    generalize scanFiles tools files selection turns 0 selected
      ⟨some checkpoints, Dict.empty, [], []⟩ = pass at same kept ⊢
    obtain ⟨state, halt⟩ := pass
    rcases same with cancelled | same
    · obtain rfl : halt = some .cancelled := cancelled
      exact ⟨Or.inl rfl, kept⟩
    · rw [← same]
      rcases halt with _ | (_ | _)
      · dsimp only [withoutStore]
        cases grouping.similarityGroups state.found minimum with
        | none => exact ⟨Or.inr rfl, kept⟩
        | some groups =>
          refine ⟨?_, fun after member => ?_⟩
          · cases finish.cancelled
            · exact Or.inr rfl
            · exact Or.inl rfl
          · obtain ⟨stored, present, rfl⟩ := Option.map_eq_some_iff.mp member
            split
            · exact (kept stored present).clear selection
            · exact kept stored present
      · exact ⟨Or.inl rfl, kept⟩
      · exact ⟨Or.inr rfl, kept⟩

theorem Sound.step (injective : Function.Injective tools.sha256) (sound : Sound tools checkpoints)
    (action : ScanAction) :
    Sound tools (MediaSimilarity.step tools grouping checkpoints action) := by
  cases action with
  | scan files selected minimum turns finish =>
    obtain ⟨_, kept⟩ := scan_spec grouping injective files selected minimum turns finish sound
    unfold MediaSimilarity.step
    dsimp only
    cases after : (scan tools grouping files selected minimum turns finish (some checkpoints)).2 with
    | none => exact sound
    | some stored => exact kept stored after
  | lateSave selected file bytes =>
    unfold MediaSimilarity.step
    dsimp only
    split
    · next made => exact sound.save _ made
    · exact sound
  | lateClear selected =>
    unfold MediaSimilarity.step
    dsimp only
    split
    · exact sound.clear _
    · exact sound

theorem sound_run (injective : Function.Injective tools.sha256) (actions : List ScanAction) :
    Sound tools (run tools grouping actions) := by
  have kept (actions : List ScanAction) : ∀ checkpoints, Sound tools checkpoints →
      Sound tools (actions.foldl (MediaSimilarity.step tools grouping) checkpoints) := by
    induction actions with
    | nil => exact fun _ sound => sound
    | cons action actions inductionHypothesis =>
      exact fun _ sound => inductionHypothesis _ (sound.step grouping injective action)
  exact kept actions _ sound_empty

/-- No checkpoint of a selection is left by a completed scan of it that clears them. -/
theorem get?_of_completed {files : MediaPath → Option (List UInt8)} {selected : List SelectedMedia}
    {minimum : Double} {finish : ScanFinish} (clears : finish.clears = true) {after : Checkpoints}
    {output : ScanOutput Group} {selection : String}
    (known : selectionKey tools (selected.map SelectedMedia.relativePath) = some selection)
    (completed : scan tools grouping files selected minimum turns finish (some checkpoints) =
      (.completed output, some after)) (relativePath : PyString) :
    after.get? (selection, relativePath) = none := by
  unfold scan at completed
  rw [known] at completed
  dsimp only at completed
  split at completed
  · cases completed
  · cases completed
  · next state _ =>
    split at completed
    · cases completed
    · obtain ⟨_, cleared⟩ := Prod.mk.inj completed
      obtain ⟨stored, _, rfl⟩ := Option.map_eq_some_iff.mp cleared
      rw [if_pos clears]
      refine Option.eq_none_iff_forall_ne_some.mpr fun row found => ?_
      exact ((get?_clear _ _ _ _).mp found).1 rfl

/-- A scan that nobody cancels is not cancelled. -/
theorem scanFiles_not_cancelled {turns : Nat → ScanTurn} (calm : ∀ index, (turns index).stop = none)
    (files : MediaPath → Option (List UInt8)) (selection : String) (selected : List SelectedMedia)
    (index : Nat) (state : ScanState) :
    (scanFiles tools files selection turns index selected state).2 ≠ some .cancelled := by
  induction selected generalizing index state with
  | nil => exact nofun
  | cons file rest inductionHypothesis =>
    unfold scanFiles
    rw [calm index, if_neg nofun, if_neg nofun]
    dsimp only
    split
    · exact inductionHypothesis _ _
    · exact inductionHypothesis _ _
    · exact nofun

theorem scan_not_cancelled {finish : ScanFinish} (calm : ∀ index, (turns index).stop = none)
    (quiet : finish.cancelled = false) (files : MediaPath → Option (List UInt8))
    (selected : List SelectedMedia) (minimum : Double) (checkpoints : Option Checkpoints) :
    (scan tools grouping files selected minimum turns finish checkpoints).1 ≠ .cancelled := by
  unfold scan
  split
  · exact nofun
  · next selection _ =>
    have calmly := @scanFiles_not_cancelled tools _ calm files selection selected 0
      ⟨checkpoints, Dict.empty, [], []⟩
    split
    · next same =>
      rw [same] at calmly
      exact absurd rfl calmly
    · exact nofun
    · rw [quiet]
      split <;> exact nofun

/-- After any actions on a store, a scan that is not cancelled ends like one without a store; it is not
cancelled if nobody cancels it; a completed one whose clearing succeeds leaves no checkpoint of its
selection; and every fingerprint of a file is read back from its checkpoint. -/
theorem interrupted_scans_resume (injective : Function.Injective tools.sha256)
    (actions : List ScanAction) (files : MediaPath → Option (List UInt8))
    (selected : List SelectedMedia) (minimum : Double) (turns : Nat → ScanTurn)
    (finish : ScanFinish) :
    ((scan tools grouping files selected minimum turns finish (some (run tools grouping actions))).1 ≠
        .cancelled →
      (scan tools grouping files selected minimum turns finish (some (run tools grouping actions))).1 =
        plainScan tools grouping files selected minimum) ∧
    ((∀ index, (turns index).stop = none) → finish.cancelled = false →
      (scan tools grouping files selected minimum turns finish (some (run tools grouping actions))).1 ≠
        .cancelled) ∧
    (∀ selection output after, finish.clears = true →
      selectionKey tools (selected.map SelectedMedia.relativePath) = some selection →
      scan tools grouping files selected minimum turns finish (some (run tools grouping actions)) =
        (.completed output, some after) →
      ∀ relativePath, after.get? (selection, relativePath) = none) ∧
    ∀ bytes source relativePath digest fingerprint,
      fingerprintFile tools bytes source relativePath digest = .ok fingerprint →
      decode (encode fingerprint) relativePath digest = some fingerprint := by
  refine ⟨fun kept => ?_, fun calm quiet => ?_, fun selection output after clears known completed => ?_,
    fun bytes source relativePath digest fingerprint made => ?_⟩
  · have sound := sound_run grouping injective actions
    exact (scan_spec grouping injective files selected minimum turns finish sound).1.resolve_left kept
  · exact scan_not_cancelled grouping calm quiet files selected minimum _
  · exact get?_of_completed grouping clears known completed
  · obtain ⟨valid, path, sha⟩ := validFingerprint_fingerprintFile made
    have back := decode_encode valid
    rwa [path, sha] at back

/-! ### A scan that was interrupted -/

/-- The bytes of a file of 128 silent samples. -/
def silentWave : List UInt8 :=
  "RIFF".toUTF8.toList ++ [164, 0, 0, 0] ++ "WAVEfmt ".toUTF8.toList ++
    [16, 0, 0, 0, 1, 0, 1, 0, 128, 62, 0, 0, 128, 62, 0, 0, 1, 0, 8, 0] ++ "data".toUTF8.toList ++
    [128, 0, 0, 0] ++ List.replicate 128 128

/-- A digest without collisions, which has the SHA-256 of what is digested here. -/
def sampleSha256 (bytes : List UInt8) : String :=
  if bytes = silentWave then "27932467a1dc0f023af3ad271c19946c925e3a7dc8b9f02ee8ade9b395797776"
  else if bytes = [1] then "4bf5122f344554c53bde2ebb8cd2b7e3d1600ad631c385a5d7cce23c7785459a"
  else if bytes = "[\"a.wav\",\"b.wav\"]".toUTF8.toList then
    "f6e46674a05ffd7e6f0e29ac0346275770002e5868b0058e46b5c05a654892e6"
  else String.ofList ('-' :: bytes.map fun byte => Char.ofNat byte.toNat)

theorem sampleSha256_injective : Function.Injective sampleSha256 := by
  have other (text : String) (bytes : List UInt8) (digit : text.toList.head? ≠ some '-') :
      text ≠ String.ofList ('-' :: bytes.map fun byte => Char.ofNat byte.toNat) := by
    rintro rfl
    rw [String.toList_ofList] at digit
    exact digit rfl
  have listed : Function.Injective fun bytes : List UInt8 =>
      String.ofList ('-' :: bytes.map fun byte => Char.ofNat byte.toNat) := by
    intro first second same
    have chars := (List.cons.inj (String.ofList_injective same)).2
    refine List.map_injective_iff.mpr (fun one two equal => ?_) chars
    have scalar (byte : UInt8) : byte.toNat.isValidChar := Or.inl (byte.toNat_lt.trans (by decide))
    rw [Char.ofNat, Char.ofNat, dif_pos (scalar one), dif_pos (scalar two)] at equal
    exact UInt8.toNat_inj.mp (congrArg Char.toNat equal)
  intro first second same
  rw [sampleSha256, sampleSha256] at same
  -- Two known contents are the same or have different digests, and no other digest begins like these.
  split_ifs at same
  all_goals first
    | exact (‹first = _›).trans (‹second = _›).symm
    | exact absurd same (by decide)
    | exact absurd same (other _ _ (by decide))
    | exact absurd same.symm (other _ _ (by decide))
    | exact listed same

/-- Tools that open the silent file, and no other. -/
def waveTools : MediaTools where
  lowerCase := id
  sha256 := sampleSha256
  openMedia bytes _ :=
    if bytes = silentWave then
      some
        { duration := some 8000
          video := none
          audio := some
            { codecName := .ofString "pcm_u8"
              bitRate := some 128000
              sampleRate := some 16000
              channels := some 1
              chunks := some [List.replicate 128 0] } }
    else none
  bands _ := none

/-- A single fingerprint is in no group. -/
def noGroups : MediaGrouping (List PyString) := ⟨fun _ _ => some [], id⟩

def waveFiles (path : MediaPath) : Option (List UInt8) :=
  if path = MediaPath.ofText (.ofString "/m/a.wav") then some silentWave else some [1]

def waveSelection : List SelectedMedia :=
  [⟨.ofString "/m/a.wav", .ofString "a.wav", by decide +kernel⟩,
    ⟨.ofString "/m/b.wav", .ofString "b.wav", by decide +kernel⟩]

def leastSimilarity : Double := (Double.ofQuotient 4 5).getD ⟨false, 0, by decide⟩

/-- A scan that is cancelled when the checkpoint of its first file has been saved. -/
def interruptedScan : ScanAction :=
  .scan waveFiles waveSelection leastSimilarity (fun _ => ⟨true, true, some .after⟩) ⟨true, false⟩

theorem interrupted_scans_resume_wave :
    (run waveTools noGroups [interruptedScan]).size = 1 ∧
    (scan waveTools noGroups waveFiles waveSelection leastSimilarity (fun _ => undisturbed)
        ⟨true, false⟩ (some (run waveTools noGroups [interruptedScan]))).1 =
      plainScan waveTools noGroups waveFiles waveSelection leastSimilarity ∧
    plainScan waveTools noGroups waveFiles waveSelection leastSimilarity =
      .completed ⟨2, 1, 0, 1, leastSimilarity, [], [(.ofString "b.wav", "media-invalid")]⟩ := by
  have resumed := @interrupted_scans_resume waveTools _ noGroups sampleSha256_injective
    [interruptedScan] waveFiles waveSelection leastSimilarity (fun _ => undisturbed) ⟨true, false⟩
  exact ⟨by decide +kernel, resumed.1 (resumed.2.1 (fun _ => rfl) rfl), by decide +kernel⟩

end MediaSimilarity

end Omnitensor
