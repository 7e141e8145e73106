/-
This file defines the metadata of the GGUF format and proves when the reader inverts it.

A value is a number, a truth value, a string or an array of values of one kind, which may be arrays
again. Reading and skipping an array take the same bytes for items of every kind. The reader returns
every pair, with long arrays as their kind and count, exactly when no array is nested so deep that
the frames of the interpreter are used up. Headers go as deep as their length allows.
-/

import Omnitensor.GgufNesting

namespace Omnitensor

namespace Gguf

open ByteReading MeteredReading Metering

/-! ### The format -/

/-- A value of a fixed size. A floating-point number is given by its bits. -/
inductive Scalar where
  | uint8 (value : UInt8)
  | int8 (value : Int8)
  | uint16 (value : UInt16)
  | int16 (value : Int16)
  | uint32 (value : UInt32)
  | int32 (value : Int32)
  | float32 (bits : UInt32)
  | bool (value : Bool)
  | uint64 (value : UInt64)
  | int64 (value : Int64)
  | float64 (bits : UInt64)
  deriving DecidableEq

namespace Scalar

def kind : Scalar → FixedKind
  | .uint8 _ => .uint8
  | .int8 _ => .int8
  | .uint16 _ => .uint16
  | .int16 _ => .int16
  | .uint32 _ => .uint32
  | .int32 _ => .int32
  | .float32 _ => .float32
  | .bool _ => .bool
  | .uint64 _ => .uint64
  | .int64 _ => .int64
  | .float64 _ => .float64

/-- The word of a value, which is signed in two's complement. -/
def word : Scalar → Nat
  | .uint8 value => value.toNat
  | .int8 value => value.toUInt8.toNat
  | .uint16 value => value.toNat
  | .int16 value => value.toUInt16.toNat
  | .uint32 value => value.toNat
  | .int32 value => value.toUInt32.toNat
  | .float32 bits => bits.toNat
  | .bool value => value.toNat
  | .uint64 value => value.toNat
  | .int64 value => value.toUInt64.toNat
  | .float64 bits => bits.toNat

/-- The bytes of a value. -/
def encode (scalar : Scalar) : List UInt8 := bytesOf scalar.kind.size scalar.word

/-- The value as it is read. -/
def seen : Scalar → Value
  | .uint8 value => .int value.toNat
  | .int8 value => .int value.toInt
  | .uint16 value => .int value.toNat
  | .int16 value => .int value.toInt
  | .uint32 value => .int value.toNat
  | .int32 value => .int value.toInt
  | .float32 bits => .float32 bits
  | .bool value => .bool value
  | .uint64 value => .int value.toNat
  | .int64 value => .int value.toInt
  | .float64 bits => .float64 bits

end Scalar

/-- The kinds of values. -/
inductive Kind where
  | fixed (kind : FixedKind)
  | string
  | array
  deriving DecidableEq

/-- The tag of a kind of a fixed size. -/
def FixedKind.tag : FixedKind → Nat
  | .uint8 => 0
  | .int8 => 1
  | .uint16 => 2
  | .int16 => 3
  | .uint32 => 4
  | .int32 => 5
  | .float32 => 6
  | .bool => 7
  | .uint64 => 10
  | .int64 => 11
  | .float64 => 12

/-- The number that stands for a kind in a file. -/
def Kind.tag : Kind → Nat
  | .fixed kind => kind.tag
  | .string => stringTag
  | .array => arrayTag

/-- A value of the metadata. -/
inductive Datum where
  | fixed (value : Scalar)
  | string (text : String)
  | array (element : Kind) (items : List Datum)

namespace Datum

def kind : Datum → Kind
  | .fixed value => .fixed value.kind
  | .string _ => .string
  | .array _ _ => .array

/-- The bytes of a text, after their number. -/
def encodeString (text : String) : List UInt8 := bytesOf 8 (utf8 text).length ++ utf8 text

mutual

/-- The bytes of a value, without the tag of its kind. -/
def encode : Datum → List UInt8
  | .fixed value => value.encode
  | .string text => encodeString text
  | .array element items => bytesOf 4 element.tag ++ (bytesOf 8 items.length ++ encodeItems items)

def encodeItems : List Datum → List UInt8
  | [] => []
  | item :: items => encode item ++ encodeItems items

end

mutual

/-- The value as it is read: an array of too many items is its kind and count. -/
def seen : Datum → Value
  | .fixed value => value.seen
  | .string text => .str text
  | .array element items =>
    if maxArrayItems < items.length then .skipped element.tag items.length
    else .list (seenItems items)

def seenItems : List Datum → List Value
  | [] => []
  | item :: items => seen item :: seenItems items

end

mutual

/-- The items of an array are of its kind, and every string is within the limit. -/
def Valid : Datum → Prop
  | .fixed _ => True
  | .string text => (utf8 text).length ≤ maxStringBytes
  | .array element items => ValidItems element items

/-- Items of one kind, all of which are valid. -/
def ValidItems (element : Kind) : List Datum → Prop
  | [] => True
  | item :: items => (item.kind = element ∧ Valid item) ∧ ValidItems element items

end

section

variable (costs : FrameCosts)

/-- The frames that stepping over items takes, given those that reading them takes. -/
def skipFrames (element : Kind) (count reading : Nat) : Nat :=
  match element with
  | .fixed _ => costs.take
  | .string => if count = 0 then 0 else max costs.unpack costs.take
  | .array => reading

mutual

/-- The frames that reading a value takes, in an array or behind its kind. -/
def frames : Datum → Nat
  | .fixed _ => costs.unpack
  | .string _ => costs.string
  | .array element items => costs.array + max costs.unpack
      (if maxArrayItems < items.length then
        costs.skip + skipFrames costs element items.length (framesItems items)
      else costs.comprehension + framesItems items)

/-- The most frames that an item takes. -/
def framesItems : List Datum → Nat
  | [] => 0
  | item :: items => max (frames item) (framesItems items)

end

/-- The frames that a value takes with the kind before it. -/
def valueFrames (datum : Datum) : Nat := costs.value + max costs.unpack (frames costs datum)

end

theorem encodeItems_eq_flatMap (items : List Datum) : encodeItems items = items.flatMap encode := by
  induction items with
  | nil => rfl
  | cons item items inductionHypothesis => rw [encodeItems, inductionHypothesis, List.flatMap_cons]

theorem seenItems_eq_map (items : List Datum) : seenItems items = items.map seen := by
  induction items with
  | nil => rfl
  | cons item items inductionHypothesis => rw [seenItems, inductionHypothesis, List.map_cons]

theorem validItems_iff {element : Kind} {items : List Datum} :
    ValidItems element items ↔ ∀ item ∈ items, item.kind = element ∧ Valid item := by
  induction items with
  | nil => simp [ValidItems]
  | cons item items inductionHypothesis =>
    rw [ValidItems, inductionHypothesis, List.forall_mem_cons]

theorem framesItems_eq_peak (costs : FrameCosts) (items : List Datum) :
    framesItems costs items = peak (frames costs) items := by
  induction items with
  | nil => rfl
  | cons item items inductionHypothesis =>
    rw [framesItems, inductionHypothesis]
    rfl

/-- Every value takes a byte. -/
theorem length_encode_pos (datum : Datum) : 0 < (encode datum).length := by
  cases datum with
  | fixed value =>
    rw [encode, Scalar.encode, length_bytesOf]
    cases value.kind <;> decide
  | string text =>
    rw [encode, encodeString, List.length_append, length_bytesOf]
    omega
  | array element items =>
    rw [encode, List.length_append, length_bytesOf]
    omega

theorem length_le_flatMap (items : List Datum) : items.length ≤ (items.flatMap encode).length := by
  induction items with
  | nil => exact Nat.le_refl _
  | cons item items inductionHypothesis =>
    have positive := length_encode_pos item
    rw [List.length_cons, List.flatMap_cons, List.length_append]
    omega

end Datum

/-! ### Reading parts -/

theorem take_append (bytes rest : List UInt8) : take bytes.length (bytes ++ rest) = .ok (bytes, rest) := by
  rw [take, if_neg (by simp), List.take_left, List.drop_left]

variable {size number limit : Nat}

theorem unpack_bytesOf (small : number < 256 ^ size) (rest : List UInt8) :
    unpack size (bytesOf size number ++ rest) = .ok (number, rest) := by
  have taken := take_append (bytesOf size number) rest
  rw [length_bytesOf] at taken
  rw [unpack, taken, ok_bind]
  exact congrArg (fun number => Except.ok (number, rest)) (valueOf_bytesOf small)

theorem Scalar.word_lt (scalar : Scalar) : scalar.word < 256 ^ scalar.kind.size := by
  cases scalar with
  | uint8 value => exact value.toNat_lt
  | int8 value => exact value.toUInt8.toNat_lt
  | uint16 value => exact value.toNat_lt
  | int16 value => exact value.toUInt16.toNat_lt
  | uint32 value => exact value.toNat_lt
  | int32 value => exact value.toUInt32.toNat_lt
  | float32 bits => exact bits.toNat_lt
  | bool value => cases value <;> decide
  | uint64 value => exact value.toNat_lt
  | int64 value => exact value.toUInt64.toNat_lt
  | float64 bits => exact bits.toNat_lt

theorem signed_toNat {width : Nat} (size : Nat) (same : 256 ^ size = 2 ^ width) (bits : BitVec width) :
    signed size bits.toNat = bits.toInt := by
  rw [signed, BitVec.toInt_eq_toNat_cond, same]
  push_cast
  have power : (256 : Int) ^ size = 2 ^ width := by exact_mod_cast same
  rw [power]

/-- The bytes of a value are read as the value. -/
theorem unpackFixed_encode (scalar : Scalar) :
    unpackFixed scalar.kind scalar.encode = scalar.seen := by
  have read : valueOf scalar.encode = scalar.word := valueOf_bytesOf scalar.word_lt
  cases scalar with
  | uint8 value => exact congrArg (fun word : Nat => Value.int word) read
  | int8 value =>
    refine congrArg Value.int ?_
    rw [read]
    exact signed_toNat 1 rfl value.toBitVec
  | uint16 value => exact congrArg (fun word : Nat => Value.int word) read
  | int16 value =>
    refine congrArg Value.int ?_
    rw [read]
    exact signed_toNat 2 rfl value.toBitVec
  | uint32 value => exact congrArg (fun word : Nat => Value.int word) read
  | int32 value =>
    refine congrArg Value.int ?_
    rw [read]
    exact signed_toNat 4 rfl value.toBitVec
  | float32 bits =>
    refine congrArg Value.float32 ?_
    rw [read]
    exact UInt32.ofNat_toNat
  | bool value =>
    refine congrArg Value.bool ?_
    rw [read]
    cases value <;> rfl
  | uint64 value => exact congrArg (fun word : Nat => Value.int word) read
  | int64 value =>
    refine congrArg Value.int ?_
    rw [read]
    exact signed_toNat 8 rfl value.toBitVec
  | float64 bits =>
    refine congrArg Value.float64 ?_
    rw [read]
    exact UInt64.ofNat_toNat

theorem unpackValue_encode (scalar : Scalar) (rest : List UInt8) :
    unpackValue scalar.kind (scalar.encode ++ rest) = .ok (scalar.seen, rest) := by
  have taken := take_append scalar.encode rest
  rw [Scalar.encode, length_bytesOf, ← Scalar.encode] at taken
  rw [unpackValue, taken, ok_bind]
  exact congrArg (fun value => Except.ok (value, rest)) (unpackFixed_encode scalar)

theorem string_encodeString {text : String} (short : (utf8 text).length ≤ limit)
    (small : limit < 256 ^ 8) (rest : List UInt8) :
    string limit (Datum.encodeString text ++ rest) = .ok (text, rest) := by
  rw [string, Datum.encodeString, List.append_assoc, unpack_bytesOf (short.trans_lt small), ok_bind]
  dsimp only
  rw [if_neg (Nat.not_lt.mpr short), take_append, ok_bind]
  exact congrArg (fun text => Except.ok (text, rest)) (decodeReplacing_utf8 text)

theorem leaf_unpack_bytesOf (cost : Nat) (small : number < 256 ^ size) (rest : List UInt8) :
    leaf cost (unpack size) (bytesOf size number ++ rest) = ⟨cost, .ok (number, rest)⟩ :=
  congrArg (Metered.mk cost) (unpack_bytesOf small rest)

theorem meterString_encodeString (costs : FrameCosts) {text : String}
    (short : (utf8 text).length ≤ limit) (small : limit < 256 ^ 8) (rest : List UInt8) :
    meterString costs limit (Datum.encodeString text ++ rest) =
      ⟨costs.string, .ok (text, rest)⟩ :=
  congrArg (Metered.mk costs.string) (string_encodeString short small rest)

/-! ### Reading and skipping items -/

@[simp] theorem fixedKind_tag (kind : FixedKind) : fixedKind kind.tag = some kind := by
  cases kind <;> rfl

theorem tag_ne (kind : FixedKind) : kind.tag ≠ stringTag ∧ kind.tag ≠ arrayTag := by
  cases kind <;> decide

theorem Kind.tag_lt (kind : Kind) : kind.tag < 256 ^ 4 := by
  cases kind with
  | fixed kind => cases kind <;> decide
  | string => decide
  | array => decide

section

variable {costs : FrameCosts} {element : Kind} {items : List Datum} {array : Meter Value}

variable (costs) in
/-- The arrays among the items are read as their values. -/
def ReadsArrays (array : Meter Value) (items : List Datum) : Prop :=
  ∀ item ∈ items, item.kind = .array → ∀ rest,
    array (item.encode ++ rest) = ⟨item.frames costs, .ok (item.seen, rest)⟩

theorem meterItems_encode (valid : Datum.ValidItems element items)
    (nested : ReadsArrays costs array items) (rest : List UInt8) :
    meterItems costs array element.tag items.length (items.flatMap Datum.encode ++ rest) =
      ⟨costs.comprehension + Datum.framesItems costs items, .ok (items.map Datum.seen, rest)⟩ := by
  rw [Datum.validItems_iff] at valid
  have called {read : Meter Value} (each : ∀ item ∈ items, ∀ rest,
      read (item.encode ++ rest) = ⟨item.frames costs, .ok (item.seen, rest)⟩) :
      call costs.comprehension (repeated read items.length) (items.flatMap Datum.encode ++ rest) =
        ⟨costs.comprehension + Datum.framesItems costs items,
          .ok (items.map Datum.seen, rest)⟩ := by
    rw [call, repeated_flatMap each, Datum.framesItems_eq_peak]
  cases element with
  | fixed kind =>
    rw [Kind.tag, meterItems, if_neg (tag_ne kind).1, if_neg (tag_ne kind).2, fixedKind_tag]
    refine called fun item member rest => ?_
    obtain ⟨same, _⟩ := valid item member
    cases item with
    | fixed value =>
      cases same
      exact congrArg (Metered.mk costs.unpack) (unpackValue_encode value rest)
    | string text => cases same
    | array inner others => cases same
  | string =>
    rw [Kind.tag, meterItems, if_pos rfl]
    refine called fun item member rest => ?_
    obtain ⟨same, short⟩ := valid item member
    cases item with
    | fixed value => cases same
    | string text =>
      exact bind_pure_of_eq (meterString_encodeString costs short (by decide) rest) _
    | array inner others => cases same
  | array =>
    rw [Kind.tag, meterItems, if_neg (by decide), if_pos rfl]
    exact called fun item member rest => nested item member (valid item member).1 rest

/-- Stepping over items leaves what reading them leaves. -/
theorem meterSkip_encode (valid : Datum.ValidItems element items)
    (nested : ReadsArrays costs array items) (rest : List UInt8) :
    meterSkip costs array element.tag items.length (items.flatMap Datum.encode ++ rest) =
      ⟨Datum.skipFrames costs element items.length (Datum.framesItems costs items),
        .ok ((), rest)⟩ := by
  rw [Datum.validItems_iff] at valid
  cases element with
  | fixed kind =>
    have flat : ∀ item ∈ items, (Datum.encode item).length = kind.size := by
      intro item member
      obtain ⟨same, _⟩ := valid item member
      cases item with
      | fixed value =>
        cases same
        exact length_bytesOf _ _
      | string text => cases same
      | array inner others => cases same
    have size : kind.size * items.length = (items.flatMap Datum.encode).length := by
      rw [List.length_flatMap, List.map_congr_left flat, List.map_const', List.sum_replicate,
        smul_eq_mul, Nat.mul_comm]
    have taken := take_append (items.flatMap Datum.encode) rest
    rw [← size] at taken
    rw [Kind.tag, meterSkip, if_neg (tag_ne kind).1, if_neg (tag_ne kind).2, fixedKind_tag]
    exact bind_pure_of_eq (congrArg (Metered.mk costs.take) taken) _
  | string =>
    have stepped := @repeated_flatMap _ _ _ _
      (bind (leaf costs.unpack (unpack 8)) fun length => leaf costs.take (take length)) Datum.encode
      (fun item => (Datum.encode item).drop 8) (fun _ => max costs.unpack costs.take) items
      (fun item member rest => ?_) rest
    · have most : peak (fun _ => max costs.unpack costs.take) items =
          if items.length = 0 then 0 else max costs.unpack costs.take := by
        induction items with
        | nil => rfl
        | cons item items _ =>
          rw [List.length_cons, if_neg (Nat.succ_ne_zero _)]
          exact le_antisymm (peak_le.mpr fun _ _ => Nat.le_refl _)
            (show _ ≤ max (max costs.unpack costs.take) (peak _ items) from le_max_left _ _)
      rw [Kind.tag, meterSkip, if_pos rfl, bind_pure_of_eq stepped, most]
      rfl
    · obtain ⟨same, short⟩ := valid item member
      cases item with
      | fixed value => cases same
      | string text =>
        have dropped : (Datum.encode (.string text)).drop 8 = utf8 text :=
          List.drop_left' (length_bytesOf _ _)
        have small : (utf8 text).length < 256 ^ 8 := Nat.lt_of_le_of_lt short (by decide)
        rw [dropped, Datum.encode, Datum.encodeString, List.append_assoc,
          bind_of_eq (leaf_unpack_bytesOf _ small _), leaf, take_append]
      | array inner others => cases same
  | array =>
    have stepped := repeated_flatMap
      (fun item member rest => nested item member (valid item member).1 rest) rest
    rw [Kind.tag, meterSkip, if_neg (by decide), if_pos rfl, bind_pure_of_eq stepped,
      ← Datum.framesItems_eq_peak]
    rfl

/-! ### Arrays -/

/-- An array is read as its value if its items are. -/
theorem meterArray_encode_of_items {bytes : Nat} (valid : Datum.ValidItems element items)
    (small : items.length < 256 ^ 8) (nested : ReadsArrays costs (meterArray costs bytes) items)
    (rest : List UInt8) :
    meterArray costs (bytes + 1) ((Datum.array element items).encode ++ rest) =
      ⟨(Datum.array element items).frames costs, .ok ((Datum.array element items).seen, rest)⟩ := by
  rw [meterArray, call, Datum.encode, List.append_assoc, List.append_assoc,
    bind_of_eq (leaf_unpack_bytesOf _ element.tag_lt _), bind_of_eq (leaf_unpack_bytesOf _ small _),
    Datum.seen, Datum.frames, Datum.encodeItems_eq_flatMap]
  split_ifs
  · have skipped := meterSkip_encode valid nested rest
    have called : call costs.skip (meterSkip costs (meterArray costs bytes) element.tag items.length)
        (items.flatMap Datum.encode ++ rest) = ⟨costs.skip + Datum.skipFrames costs element
          items.length (Datum.framesItems costs items), .ok ((), rest)⟩ := by rw [call, skipped]
    rw [bind_pure_of_eq called]
    exact congrArg (Metered.mk · _) (by dsimp only; omega)
  · rw [bind_pure_of_eq (meterItems_encode valid nested rest), Datum.seenItems_eq_map]
    exact congrArg (Metered.mk · _) (by dsimp only; omega)

mutual

/-- Reading and skipping agree at every depth. -/
theorem meterArray_encode : ∀ (datum : Datum), datum.Valid → datum.kind = .array → ∀ bytes,
    datum.encode.length ≤ bytes → datum.encode.length < 256 ^ 8 → ∀ rest,
      meterArray costs bytes (datum.encode ++ rest) =
        ⟨datum.frames costs, .ok (datum.seen, rest)⟩
  | .fixed _, _ => nofun
  | .string _, _ => nofun
  | .array element items, valid => by
    intro _ bytes long small rest
    rw [Datum.encode, List.length_append, List.length_append, length_bytesOf,
      Datum.encodeItems_eq_flatMap] at long small
    obtain ⟨bytes, rfl⟩ := Nat.exists_eq_add_of_le' (show 1 ≤ bytes by omega)
    have count := Datum.length_le_flatMap items
    exact meterArray_encode_of_items valid (by omega)
      (meterArray_encodeItems items valid bytes (by omega) (by omega)) rest

theorem meterArray_encodeItems : ∀ {element : Kind} (items : List Datum),
    Datum.ValidItems element items → ∀ bytes, (items.flatMap Datum.encode).length ≤ bytes →
      (items.flatMap Datum.encode).length < 256 ^ 8 →
        ReadsArrays costs (meterArray costs bytes) items
  | _, [], _, _, _, _ => fun _ member => absurd member List.not_mem_nil
  | _, item :: items, valid, bytes, long, small => by
    rw [List.flatMap_cons, List.length_append] at long small
    exact List.forall_mem_cons.mpr
      ⟨fun isArray => meterArray_encode item valid.1.2 isArray bytes (by omega) (by omega),
        meterArray_encodeItems items valid.2 bytes (by omega) (by omega)⟩

end

end

/-! ### Headers -/

/-- The bytes of a pair: its key, the tag of its value and its value. -/
def encodePair (pair : String × Datum) : List UInt8 :=
  Datum.encodeString pair.1 ++ (bytesOf 4 pair.2.kind.tag ++ pair.2.encode)

/-- The bytes of a header: the magic, the version, the number of tensors and the metadata. -/
def encodeHeader (version tensors : Nat) (metadata : List (String × Datum)) : List UInt8 :=
  magic ++ (bytesOf 4 version ++ (bytesOf 8 tensors ++
    (bytesOf 8 metadata.length ++ metadata.flatMap encodePair)))

/-- Metadata within the limits of the reader. -/
structure Admissible (metadata : List (String × Datum)) : Prop where
  distinct : (metadata.map Prod.fst).Nodup
  few : metadata.length ≤ maxEntries
  keys : ∀ pair ∈ metadata, (utf8 pair.1).length ≤ maxKeyBytes
  valid : ∀ pair ∈ metadata, pair.2.Valid

section

variable (costs : FrameCosts)

/-- The frames that the pairs of some metadata take: a key, a value. -/
def pairFrames (pair : String × Datum) : Nat := max costs.string (pair.2.valueFrames costs)

/-- The frames that reading a header takes. -/
def headerFrames (metadata : List (String × Datum)) : Nat :=
  max costs.take (max costs.unpack (peak (pairFrames costs) metadata))

variable {costs}

variable {bytes : Nat} {metadata : List (String × Datum)}

theorem meterValue_encode {datum : Datum} (valid : datum.Valid) (long : datum.encode.length ≤ bytes)
    (small : datum.encode.length < 256 ^ 8) (rest : List UInt8) :
    meterValue costs bytes (bytesOf 4 datum.kind.tag ++ (datum.encode ++ rest)) =
      ⟨datum.valueFrames costs, .ok (datum.seen, rest)⟩ := by
  rw [meterValue, call, bind_of_eq (leaf_unpack_bytesOf _ datum.kind.tag_lt _)]
  cases datum with
  | fixed scalar =>
    rw [Datum.kind, Kind.tag, if_neg (tag_ne _).1, if_neg (tag_ne _).2, fixedKind_tag, Datum.encode]
    dsimp only
    rw [leaf, unpackValue_encode]
    rfl
  | string text =>
    rw [Datum.kind, Kind.tag, if_pos rfl, Datum.encode,
      bind_pure_of_eq (meterString_encodeString costs valid (by decide) rest)]
    rfl
  | array element items =>
    rw [Datum.kind, Kind.tag, if_neg (by decide), if_pos rfl,
      meterArray_encode _ valid rfl bytes long small]
    rfl

theorem meterPairs_encode (keys : ∀ pair ∈ metadata, (utf8 pair.1).length ≤ maxKeyBytes)
    (valid : ∀ pair ∈ metadata, pair.2.Valid) (long : (metadata.flatMap encodePair).length ≤ bytes)
    (small : (metadata.flatMap encodePair).length < 256 ^ 8) (known : Dict String Value)
    (rest : List UInt8) :
    meterPairs costs bytes metadata.length known (metadata.flatMap encodePair ++ rest) =
      ⟨peak (pairFrames costs) metadata,
        .ok (metadata.foldl (fun known pair => known.set pair.1 pair.2.seen) known, rest)⟩ := by
  induction metadata generalizing known with
  | nil => rfl
  | cons pair metadata inductionHypothesis =>
    obtain ⟨key, otherKeys⟩ := List.forall_mem_cons.mp keys
    obtain ⟨first, others⟩ := List.forall_mem_cons.mp valid
    rw [List.flatMap_cons, List.length_append, encodePair, List.length_append,
      List.length_append] at long small
    rw [List.length_cons, meterPairs, List.flatMap_cons, encodePair, List.append_assoc,
      List.append_assoc, List.append_assoc,
      bind_of_eq (meterString_encodeString costs key (by decide) _),
      bind_of_eq (meterValue_encode first (by omega) (by omega) _),
      inductionHypothesis otherKeys others (by omega) (by omega)]
    exact congrArg (Metered.mk · _) (max_assoc _ _ _).symm

theorem meterParse_encode {version tensors : Nat} (supported : version ∈ supportedVersions)
    (tensorsSmall : tensors < 256 ^ 8) (admissible : Admissible metadata)
    (long : (metadata.flatMap encodePair).length ≤ bytes)
    (small : (metadata.flatMap encodePair).length < 256 ^ 8) (rest : List UInt8) :
    meterParse costs bytes (encodeHeader version tensors metadata ++ rest) =
      ⟨headerFrames costs metadata,
        .ok (metadata.foldl (fun known pair => known.set pair.1 pair.2.seen) Dict.empty, rest)⟩ := by
  have versionSmall : version < 256 ^ 4 := by
    have all : ∀ version ∈ supportedVersions, version < 256 ^ 4 := by decide
    exact all version supported
  have few := admissible.few
  have count : metadata.length < 256 ^ 8 := few.trans_lt (by decide)
  have front (data) : leaf costs.take (take 4) (magic ++ data) = ⟨costs.take, .ok (magic, data)⟩ :=
    congrArg (Metered.mk costs.take) (take_append magic data)
  rw [meterParse, encodeHeader, List.append_assoc, bind_of_eq (front _), if_neg (not_not.mpr rfl),
    List.append_assoc, bind_of_eq (leaf_unpack_bytesOf _ versionSmall _),
    if_neg (not_not.mpr supported), List.append_assoc,
    bind_of_eq (leaf_unpack_bytesOf _ tensorsSmall _), List.append_assoc,
    bind_of_eq (leaf_unpack_bytesOf _ count _), if_neg (Nat.not_lt.mpr few),
    meterPairs_encode admissible.keys admissible.valid long small]
  exact congrArg (Metered.mk · _) (by dsimp only [headerFrames]; omega)

/-- The metadata of a header that is no longer than what is read of a file. -/
theorem readMetadata_encode {version tensors : Nat} {metadata : List (String × Datum)}
    (supported : version ∈ supportedVersions) (tensorsSmall : tensors < 256 ^ 8)
    (admissible : Admissible metadata)
    (fits : (encodeHeader version tensors metadata).length ≤ maxHeaderBytes) (frames : Nat)
    (rest : List UInt8) :
    readMetadata costs frames (encodeHeader version tensors metadata ++ rest) =
      if headerFrames costs metadata ≤ frames then
        .ok (metadata.foldl (fun known pair => known.set pair.1 pair.2.seen) Dict.empty)
      else .error .exhausted := by
  have long : (metadata.flatMap encodePair).length ≤ maxHeaderBytes := by
    simp only [encodeHeader, List.length_append] at fits
    omega
  rw [readMetadata, List.take_append, List.take_of_length_le fits]
  have short : (encodeHeader version tensors metadata ++
      rest.take (maxHeaderBytes - (encodeHeader version tensors metadata).length)).length ≤
        maxHeaderBytes := by
    rw [List.length_append, List.length_take]
    omega
  rw [parse_eq_run short, meterParse_encode supported tensorsSmall admissible long
    (long.trans_lt (by decide)), Metered.run, within]
  split_ifs <;> rfl

/-- Distinct keys are kept with their values, in order. -/
theorem entries_foldl_seen (distinct : (metadata.map Prod.fst).Nodup) :
    (metadata.foldl (fun known pair => known.set pair.1 pair.2.seen) Dict.empty).entries =
      metadata.map fun pair => (pair.1, pair.2.seen) := by
  have set := @Dict.entries_foldl_set String Value _ Dict.empty
    (metadata.map fun pair => (pair.1, pair.2.seen))
    (by rw [Dict.keys_empty, List.nil_append, List.map_map]; exact distinct)
  rw [List.foldl_map] at set
  exact set

/-- The reader returns exactly the pairs of a header exactly when the frames are enough for the calls
that are open at once. With enough of them, stepping over items and reading them leave the same. -/
theorem readMetadata_iff (costs : FrameCosts) {version tensors : Nat}
    {metadata : List (String × Datum)} (supported : version ∈ supportedVersions)
    (tensorsSmall : tensors < 256 ^ 8) (admissible : Admissible metadata)
    (fits : (encodeHeader version tensors metadata).length ≤ maxHeaderBytes) (frames : Nat)
    (rest : List UInt8) :
    ((∃ read, readMetadata costs frames (encodeHeader version tensors metadata ++ rest) = .ok read ∧
        read.entries = metadata.map fun pair => (pair.1, pair.2.seen)) ↔
      headerFrames costs metadata ≤ frames) ∧
    ∀ (element : Kind) (items : List Datum), Datum.ValidItems element items →
      (items.flatMap Datum.encode).length ≤ maxHeaderBytes → ∀ after,
        (skip costs frames (array costs frames) element.tag items.length
            (items.flatMap Datum.encode ++ after) =
          if Datum.skipFrames costs element items.length (Datum.framesItems costs items) ≤ frames then
            .ok after
          else .error .exhausted) ∧
        (readItems costs frames (array costs (frames - costs.comprehension)) element.tag items.length
            (items.flatMap Datum.encode ++ after) =
          if costs.comprehension + Datum.framesItems costs items ≤ frames then
            .ok (items.map Datum.seen, after)
          else .error .exhausted) := by
  constructor
  · rw [readMetadata_encode supported tensorsSmall admissible fits]
    constructor
    · rintro ⟨read, same, _⟩
      by_contra deep
      rw [if_neg deep] at same
      cases same
    · intro enough
      rw [if_pos enough]
      exact ⟨_, rfl, entries_foldl_seen admissible.distinct⟩
  · intro element items valid short after
    have small : (items.flatMap Datum.encode).length < 256 ^ 8 := short.trans_lt (by decide)
    have inside : (items.flatMap Datum.encode).length ≤ (items.flatMap Datum.encode ++ after).length :=
      by simp
    have nested : ReadsArrays costs (meterArray costs _) items :=
      meterArray_encodeItems items valid _ inside small
    have whole := Nat.le_refl (items.flatMap Datum.encode ++ after).length
    rw [skip_eq_run (beginning_array _) (array_eq_run _ frames) _ _ whole,
      items_eq_run (beginning_array _) (array_eq_run _ (frames - costs.comprehension)) _ _ whole,
      meterSkip_encode valid nested, meterItems_encode valid nested, Metered.run, Metered.run, within,
      within]
    constructor <;> split_ifs <;> rfl

/-- The frames of CPython 3.11 for the functions of the reader. -/
def pythonFrames : FrameCosts := ⟨1, 2, 3, 1, 1, 1, 1, Nat.le_refl 1⟩

/-- A name and an array of two arrays, one of them empty. -/
theorem readMetadata_iff_nested :
    ∃ read, readMetadata pythonFrames 7 (encodeHeader 3 291 [("general.name", .string "tiny"),
        ("table", .array .array [.array (.fixed .int8) [.fixed (.int8 (-3))], .array .string []])] ++
          [7]) = .ok read ∧
      read.entries = [("general.name", .str "tiny"),
        ("table", .list [.list [.int (-3)], .list []])] := by
  have admissible : Admissible [("general.name", .string "tiny"),
      ("table", .array .array [.array (.fixed .int8) [.fixed (.int8 (-3))], .array .string []])] := by
    refine ⟨by decide, by decide, by decide, ?_⟩
    simp only [List.forall_mem_cons, Datum.Valid, Datum.ValidItems, Datum.kind, Scalar.kind]
    exact ⟨by decide, by simp⟩
  exact (readMetadata_iff pythonFrames (by decide) (by decide) admissible (by decide) 7 [7]).1.mpr
    (by decide)

/-! ### Deep arrays -/

/-- An array of an array, and so on, of an empty array. -/
def nest : Nat → Datum
  | 0 => .array (.fixed .uint8) []
  | depth + 1 => .array .array [nest depth]

theorem valid_nest (depth : Nat) : (nest depth).Valid := by
  induction depth with
  | zero => trivial
  | succ depth inductionHypothesis =>
    have kind : (nest depth).kind = .array := by cases depth <;> rfl
    exact ⟨⟨kind, inductionHypothesis⟩, trivial⟩

theorem lt_frames_nest (costs : FrameCosts) (depth : Nat) : depth < (nest depth).frames costs := by
  have positive := costs.arrayPositive
  induction depth with
  | zero =>
    rw [nest, Datum.frames]
    omega
  | succ depth inductionHypothesis =>
    have short : ¬ maxArrayItems < [nest depth].length := Nat.not_lt.mpr (by decide : 1 ≤ maxArrayItems)
    rw [nest, Datum.frames, if_neg short, Datum.framesItems, Datum.framesItems]
    omega

theorem length_encode_nest (depth : Nat) : (nest depth).encode.length = 12 * (depth + 1) := by
  induction depth with
  | zero => rfl
  | succ depth inductionHypothesis =>
    rw [nest, Datum.encode, List.length_append, List.length_append, length_bytesOf, length_bytesOf,
      Datum.encodeItems, List.length_append, inductionHypothesis, Datum.encodeItems, List.length_nil]
    omega

theorem admissible_nest (depth : Nat) : Admissible [("deep", nest depth)] where
  distinct := List.nodup_singleton _
  few := (by decide : 1 ≤ maxEntries)
  keys := List.forall_mem_singleton.mpr (by decide : (utf8 "deep").length ≤ maxKeyBytes)
  valid := List.forall_mem_singleton.mpr (valid_nest depth)

theorem length_encodeHeader_nest (depth : Nat) :
    (encodeHeader 3 0 [("deep", nest depth)]).length = 52 + 12 * depth := by
  have magicLength : magic.length = 4 := rfl
  have keyLength : (Datum.encodeString "deep").length = 12 := rfl
  simp only [encodeHeader, encodePair, List.flatMap_cons, List.flatMap_nil, List.length_append,
    length_bytesOf, length_encode_nest, List.length_nil, magicLength, keyLength]
  omega

theorem readMetadata_nest {depth frames : Nat} (fits : 52 + 12 * depth ≤ maxHeaderBytes)
    (deep : frames ≤ depth) :
    readMetadata costs frames (encodeHeader 3 0 [("deep", nest depth)]) = .error .exhausted := by
  have read := @readMetadata_encode costs 3 0 _ (by decide) (by decide) (admissible_nest depth)
    (length_encodeHeader_nest depth ▸ fits) frames []
  rw [List.append_nil] at read
  refine read.trans (if_neg fun enough => ?_)
  have nested := lt_frames_nest costs depth
  have value : (nest depth).frames costs ≤ headerFrames costs [("deep", nest depth)] := by
    simp only [headerFrames, peak, List.map_cons, List.foldr_cons, pairFrames, Datum.valueFrames]
    omega
  omega

/-- A header of some kilobytes is not read with a thousand frames. -/
theorem not_reads_every_header : ∃ metadata : List (String × Datum), Admissible metadata ∧
    (encodeHeader 3 0 metadata).length ≤ maxHeaderBytes ∧
    readMetadata pythonFrames 1000 (encodeHeader 3 0 metadata) = .error .exhausted :=
  ⟨_, admissible_nest 1000, length_encodeHeader_nest 1000 ▸ (by decide : 52 + 12 * 1000 ≤ _),
    readMetadata_nest (by decide) (by decide)⟩

/-- A header of a thousand and one arrays, of some kilobytes, is not answered with a thousand
frames. -/
theorem not_answers_deep :
    (encodeHeader 3 0 [("deep", nest 1000)]).length = 12052 ∧
      ¬ Answers (parse pythonFrames 1000 (encodeHeader 3 0 [("deep", nest 1000)])) := by
  have read := @readMetadata_nest pythonFrames 1000 1000 (by decide) (Nat.le_refl _)
  rw [readMetadata, List.take_of_length_le (by rw [length_encodeHeader_nest]; decide)] at read
  refine ⟨length_encodeHeader_nest 1000, ?_⟩
  rw [read]
  rintro (⟨metadata, same⟩ | ⟨message, same⟩) <;> cases same

end

end Gguf

end Omnitensor
