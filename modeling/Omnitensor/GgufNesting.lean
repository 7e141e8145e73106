/-
This file proves which headers the reader answers, with metadata or a refusal.

A metered reader goes through a header as the reader does and counts how many frames of the
interpreter the calls take that are open at once, up to the first byte that is refused. A header is
answered exactly when these are no more than there are, and what it is read as does not depend on
what comes behind it.
-/

import Omnitensor.Gguf

namespace Omnitensor

namespace Gguf

open ByteReading MeteredReading

/-- A metered reader of a header. -/
abbrev Meter (Result : Type) : Type := Metering String UInt8 Result

section

variable (costs : FrameCosts)

/-! ### Metered readers -/

def meterString (limit : Nat) : Meter String := .leaf costs.string (string limit)

/-- Step over so many items, given how an array is read. -/
def meterSkip (array : Meter Value) (kind count : Nat) : Meter Unit :=
  if kind = stringTag then
    .bind (.repeated (.bind (.leaf costs.unpack (unpack 8)) fun length =>
      .leaf costs.take (take length)) count) fun _ => .pure ()
  else if kind = arrayTag then .bind (.repeated array count) fun _ => .pure ()
  else
    match fixedKind kind with
    | none => .refuse (unsupported kind)
    | some fixed => .bind (.leaf costs.take (take (fixed.size * count))) fun _ => .pure ()

/-- Read so many items, given how an array is read. -/
def meterItems (array : Meter Value) (kind count : Nat) : Meter (List Value) :=
  if kind = stringTag then
    .call costs.comprehension
      (.repeated (.bind (meterString costs maxStringBytes) fun text => .pure (.str text)) count)
  else if kind = arrayTag then .call costs.comprehension (.repeated array count)
  else
    match fixedKind kind with
    | none => .refuse (unsupported kind)
    | some fixed => .call costs.comprehension
        (.repeated (.leaf costs.unpack (unpackValue fixed)) count)

/-- Read an array in so many bytes at most. -/
def meterArray : Nat → Meter Value
  -- an array takes four bytes at least, so that its kind is refused
  | 0 => .call costs.array (.bind (.leaf costs.unpack (unpack 4)) fun _ => .refuse "")
  | bytes + 1 => .call costs.array (.bind (.leaf costs.unpack (unpack 4)) fun kind =>
      .bind (.leaf costs.unpack (unpack 8)) fun count =>
        if maxArrayItems < count then
          .bind (.call costs.skip (meterSkip costs (meterArray bytes) kind count)) fun _ =>
            .pure (.skipped kind count)
        else .bind (meterItems costs (meterArray bytes) kind count) fun values => .pure (.list values))

def meterValue (bytes : Nat) : Meter Value :=
  .call costs.value (.bind (.leaf costs.unpack (unpack 4)) fun kind =>
    if kind = stringTag then
      .bind (meterString costs maxStringBytes) fun text => .pure (.str text)
    else if kind = arrayTag then meterArray costs bytes
    else
      match fixedKind kind with
      | none => .refuse (unsupported kind)
      | some fixed => .leaf costs.unpack (unpackValue fixed))

def meterPairs (bytes : Nat) : Nat → Dict String Value → Meter (Dict String Value)
  | 0, metadata => .pure metadata
  | count + 1, metadata => .bind (meterString costs maxKeyBytes) fun key =>
      .bind (meterValue costs bytes) fun value => meterPairs bytes count (metadata.set key value)

def meterParse (bytes : Nat) : Meter (Dict String Value) :=
  .bind (.leaf costs.take (take 4)) fun front =>
    if front ≠ magic then .refuse "file does not begin with the GGUF magic"
    else .bind (.leaf costs.unpack (unpack 4)) fun version =>
      if version ∉ supportedVersions then .refuse s!"unsupported GGUF version: {version}"
      else .bind (.leaf costs.unpack (unpack 8)) fun _ =>
        .bind (.leaf costs.unpack (unpack 8)) fun entries =>
          if maxEntries < entries then
            .refuse "GGUF header declares implausibly many entries"
          else meterPairs costs bytes entries Dict.empty

/-- How many frames the calls take that are open at once while a header is read, up to the first byte
that is refused. -/
def nesting (header : List UInt8) : Nat := (meterParse costs header.length header).depth

/-! ### What is read is a beginning -/

section

open Metering

variable {costs} {Result : Type}

theorem beginning_take (cost count : Nat) : ReadsBeginning (leaf cost (take count)) where
  append {data _ bytes rest} same more := by
    obtain ⟨rfl, taken⟩ := Metered.mk.inj same
    refine congrArg (Metered.mk cost) ?_
    rw [take] at taken ⊢
    split_ifs at taken with short
    cases taken
    rw [if_neg (by rw [List.length_append]; omega), List.take_append_of_le_length (by omega),
      List.drop_append_of_le_length (by omega)]
  shorter {data _ bytes rest} same := by
    have taken := (Metered.mk.inj same).2
    rw [take] at taken
    split_ifs at taken
    cases taken
    rw [List.length_drop]
    omega

theorem beginning_pure (cost : Nat) (value : Result) :
    ReadsBeginning (leaf cost fun data : List UInt8 => (.ok (value, data) : Except String _)) :=
  (ReadsBeginning.pure value).leaf

theorem beginning_unpack (cost size : Nat) : ReadsBeginning (leaf cost (unpack size)) :=
  (beginning_take cost size).leaf_bind fun bytes => beginning_pure cost (valueOf bytes)

theorem beginning_unpackValue (cost : Nat) (kind : FixedKind) :
    ReadsBeginning (leaf cost (unpackValue kind)) :=
  (beginning_take cost kind.size).leaf_bind fun bytes => beginning_pure cost (unpackFixed kind bytes)

theorem beginning_string (limit : Nat) : ReadsBeginning (meterString costs limit) := by
  have text (length : Nat) : ReadsBeginning (leaf costs.string fun data =>
      if limit < length then .error "GGUF header holds an implausibly long string"
      else take length data >>= fun taken => .ok (decodeReplacing taken.1, taken.2)) := by
    split_ifs
    · exact @ReadsBeginning.leaf _ _ _ 0 _ _ (.refuse _)
    · exact (beginning_take costs.string length).leaf_bind fun bytes =>
        beginning_pure costs.string (decodeReplacing bytes)
  exact (beginning_unpack costs.string 8).leaf_bind text

theorem beginning_skip {array : Meter Value} (inner : ReadsBeginning array) (kind count : Nat) :
    ReadsBeginning (meterSkip costs array kind count) := by
  unfold meterSkip
  split_ifs
  · exact (((beginning_unpack _ 8).bind fun length => beginning_take _ length).repeated count).bind
      fun _ => .pure ()
  · exact (inner.repeated count).bind fun _ => .pure ()
  · split
    · exact .refuse _
    · exact (beginning_take _ _).bind fun _ => .pure ()

theorem beginning_items {array : Meter Value} (inner : ReadsBeginning array) (kind count : Nat) :
    ReadsBeginning (meterItems costs array kind count) := by
  unfold meterItems
  split_ifs
  · exact (((beginning_string maxStringBytes).bind fun text => .pure (Value.str text)).repeated
      count).call _
  · exact (inner.repeated count).call _
  · split
    · exact .refuse _
    · exact ((beginning_unpackValue _ _).repeated count).call _

theorem beginning_array (bytes : Nat) : ReadsBeginning (meterArray costs bytes) := by
  induction bytes with
  | zero => exact ((beginning_unpack _ 4).bind fun _ => .refuse "").call _
  | succ bytes inductionHypothesis =>
    refine ((beginning_unpack _ 4).bind fun kind => (beginning_unpack _ 8).bind fun count => ?_).call _
    split_ifs
    · exact ((beginning_skip inductionHypothesis kind count).call _).bind fun _ => .pure _
    · exact (beginning_items inductionHypothesis kind count).bind fun values => .pure _

theorem beginning_value (bytes : Nat) : ReadsBeginning (meterValue costs bytes) := by
  refine ((beginning_unpack _ 4).bind fun kind => ?_).call _
  split_ifs
  · exact (beginning_string maxStringBytes).bind fun text => .pure _
  · exact beginning_array bytes
  · split
    · exact .refuse _
    · exact beginning_unpackValue _ _

theorem beginning_pairs (bytes count : Nat) (metadata : Dict String Value) :
    ReadsBeginning (meterPairs costs bytes count metadata) := by
  induction count generalizing metadata with
  | zero => exact .pure metadata
  | succ count inductionHypothesis =>
    exact (beginning_string maxKeyBytes).bind fun key => (beginning_value bytes).bind fun value =>
      inductionHypothesis (metadata.set key value)

theorem beginning_parse (bytes : Nat) : ReadsBeginning (meterParse costs bytes) := by
  refine (beginning_take _ 4).bind fun front => ?_
  split_ifs
  · exact .refuse _
  · refine (beginning_unpack _ 4).bind fun version => ?_
    split_ifs
    · refine (beginning_unpack _ 8).bind fun _ => (beginning_unpack _ 8).bind fun entries => ?_
      split_ifs
      · exact .refuse _
      · exact beginning_pairs bytes entries Dict.empty
    · exact .refuse _

end

end

/-! ### The reader runs as its meter says -/

section

open Metering

variable {costs : FrameCosts} {frames bytes : Nat} {data : List UInt8}

theorem snd_map_unit {Held : Type} (taken : Except Failure (Held × List UInt8)) :
    (Prod.snd <$> (taken >>= fun taken => .ok ((), taken.2)) : Except Failure _) =
      (taken >>= fun taken => .ok taken.2) := by
  cases taken <;> rfl

variable {plain : List UInt8 → Except Failure (Value × List UInt8)} {metadata : Dict String Value}

theorem skip_eq_run {array : Meter Value} (beginning : ReadsBeginning array)
    (each : ∀ data, data.length ≤ bytes → plain data = (array data).run frames) (kind count : Nat)
    (short : data.length ≤ bytes) : skip costs frames plain kind count data =
      Prod.snd <$> (meterSkip costs array kind count data).run frames := by
  have strings : repeatRead _ count data = Metered.run frames _ :=
    run_repeated ((beginning_unpack costs.unpack 8).bind fun length =>
      beginning_take costs.take length) (fun data _ => (run_bind frames data).symm) count short
  rw [skip, meterSkip]
  split_ifs
  · rw [run_bind, ← strings]
    simp only [run_leaf, run_pure, snd_map_unit]
    rfl
  · rw [run_bind, run_repeated beginning each count short]
    simp only [run_pure, snd_map_unit]
    rfl
  · cases fixedKind kind with
    | none => rw [run_refuse]; rfl
    | some fixed =>
      dsimp only
      rw [run_bind, run_leaf]
      simp only [run_pure, snd_map_unit]
      rfl

theorem items_eq_run {array : Meter Value} (beginning : ReadsBeginning array)
    (each : ∀ data, data.length ≤ bytes →
      plain data = (array data).run (frames - costs.comprehension)) (kind count : Nat)
    (short : data.length ≤ bytes) : readItems costs frames plain kind count data =
      (meterItems costs array kind count data).run frames := by
  rw [readItems, meterItems]
  split_ifs
  · rw [run_call, ← run_repeated ((beginning_string maxStringBytes).bind fun text =>
      .pure (Value.str text)) (fun data _ => (run_bind _ data).symm) count short]
    simp only [meterString, run_leaf, run_pure]
    rfl
  · rw [run_call, run_repeated beginning each count short]
  · cases fixedKind kind with
    | none => rw [run_refuse]
    | some fixed =>
      dsimp only
      rw [run_call, ← run_repeated (beginning_unpackValue costs.unpack fixed) (fun _ _ => rfl) count
        short]
      rfl

theorem length_of_unpack {size number : Nat} {data rest : List UInt8}
    (same : unpack size data = .ok (number, rest)) : rest.length + size = data.length := by
  obtain ⟨⟨bytes, others⟩, taken, later⟩ := bind_eq_ok.mp same
  cases later
  rw [take] at taken
  split_ifs at taken
  cases taken
  rw [List.length_drop]
  omega

theorem array_eq_run (bytes : Nat) : ∀ frames data, data.length ≤ bytes →
    array costs frames data = (meterArray costs bytes data).run frames := by
  induction bytes with
  | zero =>
    intro frames data short
    obtain rfl := List.eq_nil_of_length_eq_zero (Nat.le_zero.mp short)
    have refused : unpack 4 [] = .error "GGUF header ends inside a value" := rfl
    rw [array, meterArray, run_call, run_bind, run_leaf, calling, within, refused]
    split_ifs <;> rfl
  | succ bytes inductionHypothesis =>
    intro frames data short
    rw [array, meterArray, run_call, run_bind, run_leaf, calling]
    split_ifs
    · refine within_bind_congr ?_
      rintro ⟨kind, rest⟩ tagged
      dsimp only
      rw [run_bind, run_leaf]
      refine within_bind_congr ?_
      rintro ⟨count, others⟩ counted
      have first := length_of_unpack tagged
      have second := length_of_unpack counted
      have inside : others.length ≤ bytes := by omega
      dsimp only
      split_ifs
      · rw [run_bind, run_call, skip_eq_run (beginning_array bytes)
          (inductionHypothesis (frames - costs.array - costs.skip)) kind count inside, calling, calling]
        split_ifs
        · rw [map_eq_pure_bind]
          simp only [bind_assoc, run_pure]
          rfl
        · rfl
      · rw [run_bind, items_eq_run (beginning_array bytes)
          (inductionHypothesis (frames - costs.array - costs.comprehension)) kind count inside]
        simp only [run_pure]
        rfl
    · rfl

theorem value_eq_run {frames : Nat} (short : data.length ≤ bytes) :
    value costs frames data = (meterValue costs bytes data).run frames := by
  rw [value, meterValue, run_call, run_bind, run_leaf]
  refine congrArg (calling costs.value frames) (within_bind_congr ?_)
  rintro ⟨kind, rest⟩ tagged
  have first := length_of_unpack tagged
  dsimp only
  split_ifs
  · rw [run_bind]
    simp only [run_pure]
    rfl
  · exact array_eq_run bytes _ rest (by omega)
  · cases fixedKind kind with
    | none => exact (run_refuse _ _ _).symm
    | some fixed => rfl

theorem pairs_eq_run {count : Nat} (short : data.length ≤ bytes) :
    pairs costs frames count metadata data =
      (meterPairs costs bytes count metadata data).run frames := by
  induction count generalizing metadata data with
  | zero => exact (run_pure metadata frames data).symm
  | succ count inductionHypothesis =>
    rw [pairs, meterPairs, run_bind, meterString, run_leaf]
    refine within_bind_congr ?_
    rintro ⟨key, rest⟩ named
    have first := (@beginning_string costs maxKeyBytes).shorter
      (congrArg (Metered.mk costs.string) named)
    have inside := first.trans short
    dsimp only
    rw [run_bind, value_eq_run inside]
    cases taken : meterValue costs bytes rest with
    | mk depth result =>
      refine within_bind_congr ?_
      rintro ⟨held, others⟩ valued
      subst valued
      exact inductionHypothesis (((beginning_value bytes).shorter taken).trans inside)

theorem parse_eq_run {header : List UInt8} (short : header.length ≤ bytes) :
    parse costs frames header = Prod.fst <$> (meterParse costs bytes header).run frames := by
  rw [parse, meterParse, run_bind, run_leaf, map_eq_pure_bind, bind_assoc]
  refine within_bind_congr ?_
  rintro ⟨front, data⟩ begun
  have first := (beginning_take costs.take 4).shorter (congrArg (Metered.mk costs.take) begun)
  dsimp only
  split_ifs
  · rw [run_refuse]; rfl
  · rw [run_bind, run_leaf, bind_assoc]
    refine within_bind_congr ?_
    rintro ⟨version, data⟩ versioned
    have second := length_of_unpack versioned
    dsimp only
    split_ifs
    · rw [run_bind, run_leaf, bind_assoc]
      refine within_bind_congr ?_
      rintro ⟨tensors, data⟩ counted
      have third := length_of_unpack counted
      dsimp only
      rw [run_bind, run_leaf, bind_assoc]
      refine within_bind_congr ?_
      rintro ⟨entries, data⟩ listed
      have fourth := length_of_unpack listed
      dsimp only
      split_ifs
      · rw [run_refuse]; rfl
      · rw [pairs_eq_run (show data.length ≤ bytes by omega)]
    · rw [run_refuse]; rfl

/-! ### Answers -/

/-- A dictionary is returned or a `GgufError` raised. -/
def Answers (result : Except Failure (Dict String Value)) : Prop :=
  (∃ metadata, result = .ok metadata) ∨ ∃ message, result = .error (.refused message)

theorem answers_run_iff (metered : Metered String (Dict String Value × List UInt8)) :
    Answers (Prod.fst <$> metered.run frames) ↔ metered.depth ≤ frames := by
  obtain ⟨depth, result⟩ := metered
  rw [Metered.run, within]
  split_ifs with fits
  · refine iff_of_true ?_ fits
    cases result with
    | error message => exact Or.inr ⟨message, rfl⟩
    | ok taken => exact Or.inl ⟨taken.1, rfl⟩
  · refine iff_of_false ?_ fits
    rintro (⟨metadata, same⟩ | ⟨message, same⟩) <;> cases same

/-- No byte behind a header makes a difference to what it is read as. -/
theorem parse_append {header : List UInt8} (reads : parse costs frames header = .ok metadata)
    (more : List UInt8) : parse costs frames (header ++ more) = .ok metadata := by
  have longer : header.length ≤ (header ++ more).length := by simp
  rw [parse_eq_run longer] at reads
  rw [parse_eq_run (Nat.le_refl _)]
  cases taken : meterParse costs (header ++ more).length header with
  | mk depth result =>
    rw [taken, Metered.run, within] at reads
    split_ifs at reads with fits
    · cases result with
      | error message => cases reads
      | ok pair =>
        rw [(beginning_parse _).append taken more, Metered.run, within, if_pos fits]
        exact reads
    · cases reads

/-- With so many frames, a header ends in metadata or a refusal, and no byte behind it is read,
exactly when the calls that are open at once take no more frames. -/
theorem parse_answers_iff (costs : FrameCosts) (frames : Nat) (header : List UInt8) :
    (Answers (parse costs frames header) ∧
      ∀ metadata, parse costs frames header = .ok metadata →
        ∀ more, parse costs frames (header ++ more) = .ok metadata) ↔
    nesting costs header ≤ frames := by
  rw [nesting, ← answers_run_iff, ← parse_eq_run (Nat.le_refl _)]
  exact and_iff_left fun metadata reads => parse_append reads

end

end Gguf

end Omnitensor
