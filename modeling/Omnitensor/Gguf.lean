/-
This file models the reader of a GGUF header.

The reader keeps what is left of the header. A list of more items than are kept is stepped over and
reported as its kind and count. Arrays nest, and the functions that read and skip them call each
other; each such call takes frames of the interpreter, and there are only so many of them. How many
a call takes is up to the interpreter, so they are parameters.
-/

import Omnitensor.ByteReading
import Omnitensor.Dict
import Omnitensor.MeteredReading

namespace Omnitensor

namespace Gguf

open ByteReading MeteredReading

/-- A `GgufError` with its message, or the `RecursionError` of an interpreter without frames. -/
abbrev Failure : Type := Stop String

/-- The frames of the interpreter that calls take. The first three are of calls with all that they
call, the others of calls alone. A comprehension takes a frame before CPython 3.12 and none since. -/
structure FrameCosts where
  take : Nat
  unpack : Nat
  string : Nat
  value : Nat
  array : Nat
  skip : Nat
  comprehension : Nat
  arrayPositive : 1 ≤ array

def magic : List UInt8 := [0x47, 0x47, 0x55, 0x46]

def supportedVersions : List Nat := [2, 3]

def maxHeaderBytes : Nat := 48 * 1024 * 1024

def maxKeyBytes : Nat := 1024

def maxStringBytes : Nat := 64 * 1024

/-- The most entries of a header. -/
def maxEntries : Nat := 4096

def maxArrayItems : Nat := 65536

/-! ### Kinds -/

/-- The kinds of a fixed size. -/
inductive FixedKind where
  | uint8
  | int8
  | uint16
  | int16
  | uint32
  | int32
  | float32
  | bool
  | uint64
  | int64
  | float64
  deriving DecidableEq

/-- The size of a value, in bytes. -/
def FixedKind.size : FixedKind → Nat
  | .uint8 | .int8 | .bool => 1
  | .uint16 | .int16 => 2
  | .uint32 | .int32 | .float32 => 4
  | .uint64 | .int64 | .float64 => 8

/-- The kind of a fixed size that a tag stands for. -/
def fixedKind : Nat → Option FixedKind
  | 0 => some .uint8
  | 1 => some .int8
  | 2 => some .uint16
  | 3 => some .int16
  | 4 => some .uint32
  | 5 => some .int32
  | 6 => some .float32
  | 7 => some .bool
  | 10 => some .uint64
  | 11 => some .int64
  | 12 => some .float64
  | _ => none

/-- The tag of strings. -/
def stringTag : Nat := 8

/-- The tag of arrays. -/
def arrayTag : Nat := 9

/-! ### Values -/

/-- A value that was read. A floating-point number is kept as its bits. -/
inductive Value where
  | int (value : Int)
  | bool (value : Bool)
  | float32 (bits : UInt32)
  | float64 (bits : UInt64)
  | str (text : String)
  | list (items : List Value)
  /-- An array too long to be worth holding. -/
  | skipped (kind count : Nat)

/-- The number that a word of so many bytes stands for in two's complement. -/
def signed (size word : Nat) : Int :=
  if 2 * word < 256 ^ size then word else (word : Int) - 256 ^ size

/-- The value that bytes of a kind stand for. -/
def unpackFixed (kind : FixedKind) (bytes : List UInt8) : Value :=
  match kind with
  | .uint8 | .uint16 | .uint32 | .uint64 => .int (valueOf bytes)
  | .int8 | .int16 | .int32 | .int64 => .int (signed kind.size (valueOf bytes))
  | .float32 => .float32 (UInt32.ofNat (valueOf bytes))
  | .float64 => .float64 (UInt64.ofNat (valueOf bytes))
  | .bool => .bool (decide (valueOf bytes ≠ 0))

/-! ### The reader -/

def take (count : Nat) (data : List UInt8) : Except String (List UInt8 × List UInt8) :=
  if data.length < count then .error "GGUF header ends inside a value"
  else .ok (data.take count, data.drop count)

/-- Read a number of so many bytes. -/
def unpack (size : Nat) (data : List UInt8) : Except String (Nat × List UInt8) := do
  let (bytes, data) ← take size data
  return (valueOf bytes, data)

/-- Read a value of a fixed size. -/
def unpackValue (kind : FixedKind) (data : List UInt8) : Except String (Value × List UInt8) := do
  let (bytes, data) ← take kind.size data
  return (unpackFixed kind bytes, data)

def string (limit : Nat) (data : List UInt8) : Except String (String × List UInt8) := do
  let (length, data) ← unpack 8 data
  if limit < length then .error "GGUF header holds an implausibly long string"
  else
    let (bytes, data) ← take length data
    return (decodeReplacing bytes, data)

def unsupported (kind : Nat) : String := s!"unsupported GGUF value type: {kind}"

section

variable (costs : FrameCosts)

/-- Step over so many items of a kind with so many frames left, given how an array is read. -/
def skip (frames : Nat) (array : List UInt8 → Except Failure (Value × List UInt8))
    (kind count : Nat) (data : List UInt8) : Except Failure (List UInt8) :=
  if kind = stringTag then do
    let stepOver := fun data => do
      let (length, data) ← within costs.unpack frames (unpack 8 data)
      within costs.take frames (take length data)
    return (← repeatRead stepOver count data).2
  else if kind = arrayTag then do return (← repeatRead array count data).2
  else
    match fixedKind kind with
    | none => .error (.refused (unsupported kind))
    | some fixed => do return (← within costs.take frames (take (fixed.size * count) data)).2

/-- Read so many items of a kind with so many frames left for the comprehension, given how an array
is read. -/
def readItems (frames : Nat) (array : List UInt8 → Except Failure (Value × List UInt8))
    (kind count : Nat) (data : List UInt8) : Except Failure (List Value × List UInt8) :=
  let left := frames - costs.comprehension
  if kind = stringTag then
    let readString := fun data => do
      let (text, data) ← within costs.string left (string maxStringBytes data)
      return (Value.str text, data)
    calling costs.comprehension frames (repeatRead readString count data)
  else if kind = arrayTag then calling costs.comprehension frames (repeatRead array count data)
  else
    match fixedKind kind with
    | none => .error (.refused (unsupported kind))
    | some fixed => calling costs.comprehension frames
        (repeatRead (fun data => within costs.unpack left (unpackValue fixed data)) count data)

/-- Read an array with so many frames left for it and the calls below it. -/
def array (frames : Nat) (data : List UInt8) : Except Failure (Value × List UInt8) :=
  if costs.array ≤ frames then do
    let (kind, data) ← within costs.unpack (frames - costs.array) (unpack 4 data)
    let (count, data) ← within costs.unpack (frames - costs.array) (unpack 8 data)
    if maxArrayItems < count then
      let left := frames - costs.array - costs.skip
      let data ← calling costs.skip (frames - costs.array)
        (skip costs left (fun data => array left data) kind count data)
      return (.skipped kind count, data)
    else
      let left := frames - costs.array - costs.comprehension
      let (values, data) ←
        readItems costs (frames - costs.array) (fun data => array left data) kind count data
      return (.list values, data)
  else .error .exhausted
termination_by frames
decreasing_by
  all_goals
    have positive := costs.arrayPositive
    omega

/-- One value of a header: its kind, and then a text, an array or a number. -/
def value (frames : Nat) (data : List UInt8) : Except Failure (Value × List UInt8) :=
  calling costs.value frames do
    let left := frames - costs.value
    let (kind, data) ← within costs.unpack left (unpack 4 data)
    if kind = stringTag then
      let (text, data) ← within costs.string left (string maxStringBytes data)
      return (.str text, data)
    else if kind = arrayTag then array costs left data
    else
      match fixedKind kind with
      | none => .error (.refused (unsupported kind))
      | some fixed => within costs.unpack left (unpackValue fixed data)

/-- Read so many pairs into a dictionary. -/
def pairs (frames : Nat) : Nat → Dict String Value → List UInt8 →
    Except Failure (Dict String Value × List UInt8)
  | 0, metadata, data => .ok (metadata, data)
  | count + 1, metadata, data => do
    let (key, data) ← within costs.string frames (string maxKeyBytes data)
    let (value, data) ← value costs frames data
    pairs frames count (metadata.set key value) data

/-- Read a header with so many frames left for the calls of `_parse`. -/
def parse (frames : Nat) (header : List UInt8) : Except Failure (Dict String Value) := do
  let (bytes, data) ← within costs.take frames (take 4 header)
  if bytes ≠ magic then .error (.refused "file does not begin with the GGUF magic")
  else
    let (version, data) ← within costs.unpack frames (unpack 4 data)
    if version ∉ supportedVersions then
      .error (.refused s!"unsupported GGUF version: {version}")
    else
      let (_, data) ← within costs.unpack frames (unpack 8 data)
      let (entries, data) ← within costs.unpack frames (unpack 8 data)
      if maxEntries < entries then
        .error (.refused "GGUF header declares implausibly many entries")
      else
        let (metadata, _) ← pairs costs frames entries Dict.empty data
        return metadata

/-- Every metadata pair in the header of a file. -/
def readMetadata (frames : Nat) (file : List UInt8) : Except Failure (Dict String Value) :=
  parse costs frames (file.take maxHeaderBytes)

end

end Gguf

end Omnitensor
