/-
This file models inputs that are passed by reference: a path with the shape, the format and the
digest of a buffer.

A file is what a call sees of it: the size that its status tells and the bytes that are read, which
need not be as many. A buffer is read in chunks and its numbers are checked as they pass, with what
is left of a number carried into the next chunk; checking chunk by chunk comes to checking all whole
numbers of the buffer. Verifying a reference reads no other bytes than loading it does, and does not
count them.

The digest is a parameter, and so is the policy that permits paths.
-/

import Omnitensor.Fallible
import Omnitensor.TensorContract

namespace Omnitensor

/-! ### Slices -/

section

variable {Element : Type}

/-- A list in slices of a length, the last of which may be shorter. -/
def slices (stride : Nat) (list : List Element) : List (List Element) :=
  (List.range ((list.length + stride - 1) / stride)).map fun index =>
    (list.drop (index * stride)).take stride

theorem flatten_map_slices (stride count : Nat) (list : List Element) :
    ((List.range count).map fun index => (list.drop (index * stride)).take stride).flatten =
      list.take (count * stride) := by
  induction count with
  | zero => simp
  | succ count inductionHypothesis =>
    rw [List.range_succ, List.map_append, List.flatten_append, inductionHypothesis, Nat.succ_mul,
      List.take_add]
    simp

variable {stride : Nat} {list slice : List Element}

theorem le_slices_mul (positive : 0 < stride) (length : Nat) :
    length ≤ (length + stride - 1) / stride * stride := by
  have covered := Nat.lt_div_mul_add (a := length + stride - 1) positive
  omega

theorem flatten_slices (positive : 0 < stride) (list : List Element) :
    (slices stride list).flatten = list := by
  rw [slices, flatten_map_slices, List.take_of_length_le (le_slices_mul positive _)]

theorem length_slices_mul (positive : 0 < stride) (count : Nat)
    (length : list.length = count * stride) : (slices stride list).length = count := by
  rw [slices, List.length_map, List.length_range, length, Nat.add_sub_assoc positive,
    Nat.add_comm, Nat.add_mul_div_right _ _ positive, Nat.div_eq_of_lt (by omega), Nat.zero_add]

theorem length_of_mem_slices (positive : 0 < stride) {count : Nat}
    (length : list.length = count * stride) (inside : slice ∈ slices stride list) :
    slice.length = stride := by
  obtain ⟨index, small, rfl⟩ := List.mem_map.mp inside
  have few := length_slices_mul positive count length
  rw [slices, List.length_map, List.length_range] at few
  rw [few, List.mem_range] at small
  have room : (index + 1) * stride ≤ count * stride := Nat.mul_le_mul_right _ small
  rw [Nat.succ_mul] at room
  rw [List.length_take, List.length_drop, length]
  omega

theorem mem_of_mem_slices (positive : 0 < stride) (inside : slice ∈ slices stride list)
    {element : Element} (member : element ∈ slice) : element ∈ list := by
  rw [← flatten_slices positive list]
  exact List.mem_flatten_of_mem inside member

end

/-! ### Data -/

/-- What a call sees of a file: the size its status tells and the bytes that are read, if it can
be looked at and read. -/
structure InputFile where
  size : Option Nat
  content : Option (List UInt8)

/-- What a call sees of the file system, and which paths it may read. -/
structure InputRoots where
  permits : String → Bool
  describe : String
  file : String → InputFile

def defaultMaxTensorBytes : Nat := 64 * 1024 * 1024
def maxRank : Nat := 6
def maxDimension : Nat := 65536
def readChunkBytes : Nat := 1024 * 1024

namespace Dtype

/-- How many bytes an element takes. -/
def size : Dtype → Nat
  | .float32 => 4
  | .float64 => 8
  | .int32 => 4
  | .int64 => 8
  | .uint8 => 1

def ofText (text : String) : Option Dtype :=
  [float32, float64, int32, int64, uint8].find? fun dtype => decide (dtype.text = text)

/-- Whether elements may fail to be finite. -/
def checked : Dtype → Bool
  | .float32 => true
  | .float64 => true
  | _ => false

theorem size_pos (dtype : Dtype) : 0 < dtype.size := by
  cases dtype <;> decide

end Dtype

/-- A raw numeric buffer on disk, with a shape that was accepted. -/
structure TensorReference where
  path : String
  shape : List Nat
  dtype : Dtype
  sha256 : String
  ranked : shape ≠ []
  rankBounded : shape.length ≤ maxRank
  positive : ∀ dimension ∈ shape, 1 ≤ dimension

namespace TensorReference

def elementCount (reference : TensorReference) : Nat := reference.shape.prod

def expectedBytes (reference : TensorReference) : Nat :=
  reference.elementCount * reference.dtype.size

/-- The refusal of a reference to a tensor. -/
def invalid (detail : String) : DispatchFailure := .refused "input-ref-invalid" detail

/-! ### Parsing -/

def parseDimension : Json Double → Except DispatchFailure Nat
  | .int dimension =>
    if 1 ≤ dimension ∧ dimension ≤ maxDimension then .ok dimension.toNat
    else .error (invalid ("shape dimension out of range: " ++ toString dimension))
  | _ => .error (invalid "shape dimensions must be integers")

variable {value : Json Double} {shape : List Nat} {flat : List (Json Double)}

theorem one_le_of_parseDimension {dimension : Nat} (parsed : parseDimension value = .ok dimension) :
    1 ≤ dimension := by
  unfold parseDimension at parsed
  split at parsed
  · split at parsed
    · cases parsed
      omega
    · cases parsed
  · cases parsed

theorem valid_of_mapM_parseDimension {values : List (Json Double)}
    (parsed : values.mapM parseDimension = .ok shape) (given : 0 < values.length)
    (few : values.length ≤ maxRank) :
    shape ≠ [] ∧ shape.length ≤ maxRank ∧ ∀ dimension ∈ shape, 1 ≤ dimension := by
  have length := length_of_mapM parsed
  refine ⟨List.length_pos_iff.mp (length ▸ given), length ▸ few, fun dimension inside => ?_⟩
  obtain ⟨_, _, one⟩ := exists_of_mem_mapM parsed dimension inside
  exact one_le_of_parseDimension one

/-- A shape that is accepted has some dimensions but not too many, and all of them are positive. -/
def parseShape (value : Option (Json Double)) :
    Except DispatchFailure
      { shape : List Nat // shape ≠ [] ∧ shape.length ≤ maxRank ∧ ∀ dimension ∈ shape,
        1 ≤ dimension } :=
  match value with
  | some (.array values) =>
    if given : 0 < values.length then
      if few : values.length ≤ maxRank then
        match parsed : values.mapM parseDimension with
        | .error failure => .error failure
        | .ok shape => .ok ⟨shape, valid_of_mapM_parseDimension parsed given few⟩
      else .error (invalid "rank must not exceed 6")
    else .error (invalid "input reference shape is invalid")
  | _ => .error (invalid "input reference shape is invalid")

/-- The format of a reference, which a value that cannot be hashed is not even compared with. -/
def parseDtype (value : Option (Json Double)) : Except DispatchFailure Dtype :=
  match value with
  | none => .ok .float32
  | some (.array _) => .error (.crashed "TypeError")
  | some (.object _) => .error (.crashed "TypeError")
  | some (.string text) =>
    match Dtype.ofText text with
    | some dtype => .ok dtype
    | none => .error (invalid "dtype must be one of float32, float64, int32, int64, uint8")
  | some _ => .error (invalid "dtype must be one of float32, float64, int32, int64, uint8")

def parseReference : Json Double → Except DispatchFailure TensorReference
  | .object members =>
    match Json.field members "path" with
    | some (.string path) =>
      if path = "" then .error (invalid "input reference path is invalid")
      else do
        let dtype ← parseDtype (Json.field members "dtype")
        let shape ← parseShape (Json.field members "shape")
        match Json.field members "sha256" with
        | some (.string digest) =>
          if digest.length = 64 then
            -- No character but the letters has a hexadecimal digit as its lower case.
            return {
              path
              shape := shape.1
              dtype
              sha256 := digest.toLower
              ranked := shape.2.1
              rankBounded := shape.2.2.1
              positive := shape.2.2.2 }
          else .error (invalid "input reference must declare a sha256 digest")
        | _ => .error (invalid "input reference must declare a sha256 digest")
    | _ => .error (invalid "input reference path is invalid")
  | _ => .error (invalid "an input reference must be an object")

/-- The references that a payload declares, if it declares any. -/
def parseReferences (payload : List (String × Json Double)) (maxTensors : Nat) :
    Except DispatchFailure (Option (List TensorReference)) :=
  match Json.field payload "inputRefs" with
  | none => .ok none
  | some .null => .ok none
  | some (.array []) => .error (invalid "inputRefs must be a non-empty array")
  | some (.array references) =>
    if maxTensors < references.length then
      .error (invalid ("at most " ++ toString maxTensors ++ " referenced inputs are allowed"))
    else if (Json.field payload "inputs").isSome then
      .error (invalid "a payload carries either inputs or inputRefs, never both")
    else do return some (← references.mapM parseReference)
  | some _ => .error (invalid "inputRefs must be a non-empty array")

/-! ### Values -/

/-- The number that bytes spell, the least significant first. -/
def littleEndianValue : List UInt8 → Nat
  | [] => 0
  | byte :: bytes => byte.toNat + 256 * littleEndianValue bytes

/-- The signed number of a word of so many bits. -/
def signedValue (bits word : Nat) : Int :=
  if word < 2 ^ (bits - 1) then word else (word : Int) - 2 ^ bits

/-- What a word holds that is no finite number. -/
def specialValue (negative : Bool) (fraction : Nat) : Json Double :=
  .constant (if fraction ≠ 0 then .nan else if negative then .negativeInfinity else .infinity)

def singleValue (word : Nat) : Json Double :=
  match Double.unpack word with
  | some number => .float number
  | none => specialValue (decide (2 ^ 31 ≤ word)) (word % 2 ^ 23)

def doubleValue (word : Nat) : Json Double :=
  if finite : word % 2 ^ 63 < FloatFormat.binary64.codes then
    .float ⟨decide (2 ^ 63 ≤ word), word % 2 ^ 63, finite⟩
  else specialValue (decide (2 ^ 63 ≤ word)) (word % 2 ^ 52)

/-- The element that bytes hold. -/
def elementValue (dtype : Dtype) (bytes : List UInt8) : Json Double :=
  match dtype with
  | .float32 => singleValue (littleEndianValue bytes)
  | .float64 => doubleValue (littleEndianValue bytes)
  | .int32 => .int (signedValue 32 (littleEndianValue bytes))
  | .int64 => .int (signedValue 64 (littleEndianValue bytes))
  | .uint8 => .int (littleEndianValue bytes)

/-- The first elements of a buffer. -/
def elementValues (dtype : Dtype) : Nat → List UInt8 → List (Json Double)
  | 0, _ => []
  | count + 1, bytes =>
    elementValue dtype (bytes.take dtype.size) ::
      elementValues dtype count (bytes.drop dtype.size)

/-- A number, and a finite one. -/
def finiteValue : Json Double → Bool
  | .int _ => true
  | .float _ => true
  | _ => false

/-! ### Reading -/

/-- The rules that hold before a byte is read. -/
def permitted (reference : TensorReference) (roots : InputRoots) (maxTensorBytes : Nat) :
    Except DispatchFailure Unit :=
  if roots.permits reference.path = false then
    .error (.refused "input-ref-denied" ("that path may not be read; " ++ roots.describe))
  else if maxTensorBytes < reference.expectedBytes then
    .error (.refused "input-ref-too-large" (toString reference.expectedBytes ++
      " bytes exceeds the " ++ toString maxTensorBytes ++ "-byte limit"))
  else
    match (roots.file reference.path).size with
    | none => .error (.refused "input-ref-denied" "that path may not be read")
    | some size =>
      if size = reference.expectedBytes then .ok ()
      else .error (.refused "input-ref-mismatch" ("declared shape needs " ++
        toString reference.expectedBytes ++ " bytes, file holds " ++ toString size))

/-- Check the chunks of a buffer as they are read, with how much has been read and what is left of
an element. -/
def scanChunks (dtype : Dtype) (maxBytes : Nat) :
    Nat → List UInt8 → List (List UInt8) → Except DispatchFailure Unit
  | _, _, [] => .ok ()
  | total, carry, chunk :: chunks =>
    if maxBytes < total + chunk.length then
      .error (.refused "input-ref-too-large" ("file exceeds " ++ toString maxBytes ++ " bytes"))
    else if dtype.checked then
      let carried := carry ++ chunk
      let count := carried.length / dtype.size
      if (elementValues dtype count carried).all finiteValue then
        scanChunks dtype maxBytes (total + chunk.length) (carried.drop (count * dtype.size)) chunks
      else .error (invalid "referenced tensors must contain finite numbers")
    else scanChunks dtype maxBytes (total + chunk.length) carry chunks

/-- The bytes of a file, checked on the way, with their digest. -/
def readReference (reference : TensorReference) (roots : InputRoots)
    (digest : List UInt8 → String) (maxBytes : Nat) :
    Except DispatchFailure (List UInt8 × String) :=
  match (roots.file reference.path).content with
  | none => .error (.refused "input-ref-denied" "that path may not be read")
  | some content => do
    scanChunks reference.dtype maxBytes 0 [] (slices readChunkBytes content)
    return (content, digest content)

/-- Refuse a reference that could not be loaded, without keeping a byte. -/
def verifyReference (reference : TensorReference) (roots : InputRoots)
    (digest : List UInt8 → String) (maxTensorBytes : Nat) : Except DispatchFailure Unit := do
  permitted reference roots maxTensorBytes
  let (_, found) ← readReference reference roots digest maxTensorBytes
  if found = reference.sha256 then return ()
  else .error (.refused "input-ref-mismatch" "the file does not match the declared sha256")

/-! ### Loading -/

def unpack (payload : List UInt8) (reference : TensorReference) :
    Except DispatchFailure (List (Json Double)) :=
  if payload.length = reference.expectedBytes then
    .ok (elementValues reference.dtype reference.elementCount payload)
  else .error (.refused "input-ref-mismatch" ("declared shape needs " ++
    toString reference.expectedBytes ++ " bytes, the read returned " ++ toString payload.length))

/-- A flat list is cut along all dimensions but the first. -/
def reshape (flat : List (Json Double)) : List Nat → List (Json Double)
  | [] => flat
  | [_] => flat
  | _ :: dimension :: shape =>
    (slices (dimension :: shape).prod flat).map fun slice =>
      .array (reshape slice (dimension :: shape))

/-- Read a buffer into nested arrays. -/
def loadReferencedTensor (reference : TensorReference) (roots : InputRoots)
    (digest : List UInt8 → String) (maxTensorBytes : Nat) :
    Except DispatchFailure (Json Double) := do
  permitted reference roots maxTensorBytes
  let (payload, found) ← readReference reference roots digest maxTensorBytes
  if found = reference.sha256 then
    return .array (reshape (← unpack payload reference) reference.shape)
  else .error (.refused "input-ref-mismatch" "the file does not match the declared sha256")

def referencedInputs (payload : List (String × Json Double)) (roots : InputRoots)
    (digest : List UInt8 → String) (maxTensors maxTensorBytes : Nat) :
    Except DispatchFailure (Option (List (Json Double))) := do
  match ← parseReferences payload maxTensors with
  | none => return none
  | some references =>
    return some (← references.mapM fun reference =>
      loadReferencedTensor reference roots digest maxTensorBytes)

/-! ### What is read -/

@[simp] theorem length_elementValues (dtype : Dtype) (count : Nat) (bytes : List UInt8) :
    (elementValues dtype count bytes).length = count := by
  induction count generalizing bytes with
  | zero => rfl
  | succ count inductionHypothesis => rw [elementValues, List.length_cons, inductionHypothesis]

theorem elementValues_add (dtype : Dtype) (first second : Nat) (bytes : List UInt8) :
    elementValues dtype (first + second) bytes =
      elementValues dtype first bytes ++
        elementValues dtype second (bytes.drop (first * dtype.size)) := by
  induction first generalizing bytes with
  | zero => rw [Nat.zero_add, Nat.zero_mul, List.drop_zero, elementValues, List.nil_append]
  | succ first inductionHypothesis =>
    rw [Nat.succ_add, elementValues, elementValues, inductionHypothesis, List.drop_drop,
      List.cons_append, Nat.succ_mul, Nat.add_comm dtype.size]

/-- The first elements of a buffer do not depend on what comes after them. -/
theorem elementValues_append {dtype : Dtype} {count : Nat} {bytes : List UInt8}
    (enough : count * dtype.size ≤ bytes.length) (rest : List UInt8) :
    elementValues dtype count (bytes ++ rest) = elementValues dtype count bytes := by
  induction count generalizing bytes with
  | zero => rfl
  | succ count inductionHypothesis =>
    rw [Nat.succ_mul] at enough
    have first : dtype.size ≤ bytes.length := by omega
    rw [elementValues, elementValues, List.take_append_of_le_length first,
      List.drop_append_of_le_length first, inductionHypothesis (by rw [List.length_drop]; omega)]

/-- All whole elements of a buffer are finite numbers, where they may fail to be. -/
def FiniteElements (dtype : Dtype) (bytes : List UInt8) : Prop :=
  dtype.checked = true →
    (elementValues dtype (bytes.length / dtype.size) bytes).all finiteValue = true

theorem finiteElements_nil (dtype : Dtype) : FiniteElements dtype [] := fun _ => by
  rw [List.length_nil, Nat.zero_div]
  rfl

/-- Checking a chunk and then the rest, with what is left carried, checks all whole elements. -/
theorem finiteElements_append (dtype : Dtype) (carried rest : List UInt8) :
    (elementValues dtype ((carried ++ rest).length / dtype.size) (carried ++ rest)).all finiteValue =
      ((elementValues dtype (carried.length / dtype.size) carried).all finiteValue &&
        (elementValues dtype
          ((carried.drop (carried.length / dtype.size * dtype.size) ++ rest).length / dtype.size)
          (carried.drop (carried.length / dtype.size * dtype.size) ++ rest)).all finiteValue) := by
  have whole : carried.length / dtype.size * dtype.size ≤ carried.length :=
    Nat.div_mul_le_self _ _
  have count : (carried ++ rest).length / dtype.size = carried.length / dtype.size +
      (carried.drop (carried.length / dtype.size * dtype.size) ++ rest).length / dtype.size := by
    rw [← Nat.mul_add_div dtype.size_pos]
    congr 1
    rw [List.length_append, List.length_append, List.length_drop, Nat.mul_comm dtype.size]
    omega
  rw [count, elementValues_add, elementValues_append whole, List.drop_append_of_le_length whole,
    List.all_append]

/-- What is carried is no whole element. -/
theorem elementValues_carried (dtype : Dtype) (carried : List UInt8) :
    elementValues dtype
      ((carried.drop (carried.length / dtype.size * dtype.size)).length / dtype.size)
      (carried.drop (carried.length / dtype.size * dtype.size)) = [] := by
  have short : (carried.drop (carried.length / dtype.size * dtype.size)).length < dtype.size := by
    have left := Nat.div_add_mod' carried.length dtype.size
    have less := Nat.mod_lt carried.length dtype.size_pos
    rw [List.length_drop]
    omega
  rw [Nat.div_eq_of_lt short]
  rfl

/-- Reading chunk by chunk checks the length of a buffer and all its whole elements. -/
theorem scanChunks_eq_ok {dtype : Dtype} {maxBytes total : Nat} {carry : List UInt8}
    {chunks : List (List UInt8)} (few : total ≤ maxBytes) (checked : FiniteElements dtype carry) :
    scanChunks dtype maxBytes total carry chunks = .ok () ↔
      total + chunks.flatten.length ≤ maxBytes ∧
        FiniteElements dtype (carry ++ chunks.flatten) := by
  induction chunks generalizing total carry with
  | nil =>
    rw [scanChunks, List.flatten_nil, List.length_nil, List.append_nil]
    exact iff_of_true rfl ⟨few, checked⟩
  | cons chunk chunks inductionHypothesis =>
    rw [scanChunks, List.flatten_cons, List.length_append, ← Nat.add_assoc]
    split
    · exact iff_of_false (fun same => by cases same) fun all => by omega
    · rename_i room
      split
      · rename_i floats
        simp only
        have append := finiteElements_append dtype (carry ++ chunk) chunks.flatten
        rw [List.append_assoc] at append
        split
        · rename_i finite
          rw [inductionHypothesis (Nat.not_lt.mp room) fun _ => by rw [elementValues_carried]; rfl]
          simp only [FiniteElements, append, finite, floats, Bool.true_and, forall_const]
        · rename_i special
          refine iff_of_false (fun same => by cases same) fun all => special ?_
          have finite := all.2 floats
          rw [append, Bool.and_eq_true] at finite
          exact finite.1
      · rename_i whole
        rw [inductionHypothesis (Nat.not_lt.mp room) checked]
        simp only [FiniteElements, whole, Bool.false_eq_true, false_implies]

/-- What verifying and loading ask of a file in common. -/
structure Accepts (reference : TensorReference) (roots : InputRoots)
    (digest : List UInt8 → String) (maxTensorBytes : Nat) (content : List UInt8) : Prop where
  permits : roots.permits reference.path = true
  fits : reference.expectedBytes ≤ maxTensorBytes
  size : (roots.file reference.path).size = some reference.expectedBytes
  stored : (roots.file reference.path).content = some content
  bounded : content.length ≤ maxTensorBytes
  finite : FiniteElements reference.dtype content
  sha256 : digest content = reference.sha256

section

variable {reference : TensorReference} {roots : InputRoots} {digest : List UInt8 → String}
  {maxTensorBytes : Nat}

theorem permitted_eq_ok :
    permitted reference roots maxTensorBytes = .ok () ↔
      roots.permits reference.path = true ∧ reference.expectedBytes ≤ maxTensorBytes ∧
        (roots.file reference.path).size = some reference.expectedBytes := by
  unfold permitted
  split
  · rename_i denied
    exact iff_of_false (fun same => by cases same) fun all => by rw [denied] at all; cases all.1
  · rename_i permits
    split
    · rename_i large
      exact iff_of_false (fun same => by cases same) fun all => absurd all.2.1 (Nat.not_le.mpr large)
    · rename_i fits
      cases (roots.file reference.path).size with
      | none => exact iff_of_false (fun same => by cases same) fun all => by cases all.2.2
      | some size =>
        simp only [Option.some.injEq]
        split
        · rename_i same
          exact iff_of_true rfl ⟨Bool.eq_true_of_not_eq_false permits, Nat.not_lt.mp fits, same⟩
        · rename_i different
          exact iff_of_false (fun same => by cases same) fun all => different all.2.2

variable {content : List UInt8}

theorem readReference_eq_ok {found : String} :
    readReference reference roots digest maxTensorBytes = .ok (content, found) ↔
      (roots.file reference.path).content = some content ∧ content.length ≤ maxTensorBytes ∧
        FiniteElements reference.dtype content ∧ digest content = found := by
  unfold readReference
  cases (roots.file reference.path).content with
  | none => exact iff_of_false (fun same => by cases same) fun all => by cases all.1
  | some stored =>
    have scan := @scanChunks_eq_ok reference.dtype maxTensorBytes 0 []
      (slices readChunkBytes stored) (Nat.zero_le _) (finiteElements_nil reference.dtype)
    rw [flatten_slices (by decide), Nat.zero_add, List.nil_append] at scan
    simp only [bind_eq_ok, scan, exists_const, Option.some.injEq]
    constructor
    · rintro ⟨⟨bounded, finite⟩, same⟩
      cases same
      exact ⟨rfl, bounded, finite, rfl⟩
    · rintro ⟨rfl, bounded, finite, rfl⟩
      exact ⟨⟨bounded, finite⟩, rfl⟩

theorem Accepts.allowed (accepts : Accepts reference roots digest maxTensorBytes content) :
    permitted reference roots maxTensorBytes = .ok () :=
  permitted_eq_ok.mpr ⟨accepts.permits, accepts.fits, accepts.size⟩

theorem Accepts.read (accepts : Accepts reference roots digest maxTensorBytes content) :
    readReference reference roots digest maxTensorBytes = .ok (content, reference.sha256) :=
  readReference_eq_ok.mpr ⟨accepts.stored, accepts.bounded, accepts.finite, accepts.sha256⟩

/-- A reference is verified if its file is accepted. -/
theorem verifyReference_eq_ok :
    verifyReference reference roots digest maxTensorBytes = .ok () ↔
      ∃ content, Accepts reference roots digest maxTensorBytes content := by
  constructor
  · intro verified
    obtain ⟨_, allowed, verified⟩ := bind_eq_ok.mp verified
    obtain ⟨permits, fits, size⟩ := permitted_eq_ok.mp allowed
    obtain ⟨⟨content, found⟩, read, same⟩ := bind_eq_ok.mp verified
    obtain ⟨stored, bounded, finite, rfl⟩ := readReference_eq_ok.mp read
    simp only at same
    split at same
    · rename_i sha256
      exact ⟨content, permits, fits, size, stored, bounded, finite, sha256⟩
    · cases same
  · rintro ⟨content, accepts⟩
    exact bind_eq_ok.mpr ⟨_, accepts.allowed, bind_eq_ok.mpr ⟨_, accepts.read, if_pos rfl⟩⟩

/-- A reference is loaded if its file is accepted and as many bytes are read as its shape needs. -/
theorem loadReferencedTensor_eq_ok {tensor : Json Double} :
    loadReferencedTensor reference roots digest maxTensorBytes = .ok tensor ↔
      ∃ content, Accepts reference roots digest maxTensorBytes content ∧
        content.length = reference.expectedBytes ∧
        tensor = .array (reshape
          (elementValues reference.dtype reference.elementCount content) reference.shape) := by
  constructor
  · intro loaded
    obtain ⟨_, allowed, loaded⟩ := bind_eq_ok.mp loaded
    obtain ⟨permits, fits, size⟩ := permitted_eq_ok.mp allowed
    obtain ⟨⟨content, found⟩, read, same⟩ := bind_eq_ok.mp loaded
    obtain ⟨stored, bounded, finite, rfl⟩ := readReference_eq_ok.mp read
    simp only at same
    split at same
    · rename_i sha256
      obtain ⟨values, read, same⟩ := bind_eq_ok.mp same
      unfold unpack at read
      split at read
      · rename_i length
        cases read
        cases same
        exact ⟨content, ⟨permits, fits, size, stored, bounded, finite, sha256⟩, length, rfl⟩
      · cases read
    · cases same
  · rintro ⟨content, accepts, length, rfl⟩
    refine bind_eq_ok.mpr ⟨_, accepts.allowed, bind_eq_ok.mpr ⟨_, accepts.read, ?_⟩⟩
    simp only [unpack, if_pos length, if_true]
    rfl

end

/-! ### Shapes -/

theorem hasShape_nil (finite : finiteValue value = true) : Tensor.HasShape [] value := by
  cases value with
  | int number => trivial
  | float number => trivial
  | _ => cases finite

/-- Numbers are reshaped to a tensor of the shape, if they are as many as it takes. -/
theorem hasShape_reshape (ranked : shape ≠ []) (positive : ∀ dimension ∈ shape, 1 ≤ dimension)
    (length : flat.length = shape.prod) (finite : ∀ value ∈ flat, finiteValue value = true) :
    Tensor.HasShape shape (.array (reshape flat shape)) := by
  induction shape generalizing flat with
  | nil => exact absurd rfl ranked
  | cons dimension shape inductionHypothesis =>
    obtain ⟨_, others⟩ := List.forall_mem_cons.mp positive
    rw [List.prod_cons] at length
    cases shape with
    | nil =>
      rw [List.prod_nil, Nat.mul_one] at length
      exact ⟨length, fun value inside => hasShape_nil (finite value inside)⟩
    | cons next shape =>
      have stride : 0 < (next :: shape).prod := List.prod_pos fun dimension inside =>
        others dimension inside
      refine ⟨by rw [reshape, List.length_map, length_slices_mul stride _ length], ?_⟩
      rw [reshape, List.forall_mem_map]
      intro slice inside
      refine inductionHypothesis (List.cons_ne_nil _ _) others
        (length_of_mem_slices stride length inside) fun value member =>
          finite value (mem_of_mem_slices stride inside member)

mutual

/-- The numbers of a tensor in order. -/
def leaves : Json Double → List (Json Double)
  | .array items => itemLeaves items
  | value => [value]

def itemLeaves : List (Json Double) → List (Json Double)
  | [] => []
  | item :: items => leaves item ++ itemLeaves items

end

theorem itemLeaves_eq (items : List (Json Double)) : itemLeaves items = items.flatMap leaves := by
  induction items with
  | nil => rfl
  | cons item items inductionHypothesis =>
    rw [itemLeaves, inductionHypothesis, List.flatMap_cons]

theorem leaves_of_finite (finite : finiteValue value = true) : leaves value = [value] := by
  cases value with
  | array items => cases finite
  | _ => rfl

theorem leaves_array (finite : ∀ value ∈ flat, finiteValue value = true) :
    leaves (.array flat) = flat := by
  rw [leaves, itemLeaves_eq, List.flatMap_congr fun value inside =>
    leaves_of_finite (finite value inside)]
  exact List.flatMap_singleton' flat

/-- Reshaping moves no number. -/
theorem leaves_reshape (positive : ∀ dimension ∈ shape, 1 ≤ dimension)
    (finite : ∀ value ∈ flat, finiteValue value = true) :
    leaves (.array (reshape flat shape)) = flat := by
  induction shape generalizing flat with
  | nil => exact leaves_array finite
  | cons dimension shape inductionHypothesis =>
    obtain ⟨_, others⟩ := List.forall_mem_cons.mp positive
    cases shape with
    | nil => exact leaves_array finite
    | cons next shape =>
      have stride : 0 < (next :: shape).prod := List.prod_pos fun dimension inside =>
        others dimension inside
      have inner : ∀ slice ∈ slices (next :: shape).prod flat,
          leaves (.array (reshape slice (next :: shape))) = slice := fun slice inside =>
        inductionHypothesis others fun value member =>
          finite value (mem_of_mem_slices stride inside member)
      rw [leaves, itemLeaves_eq, reshape, List.flatMap_map, List.flatMap_congr inner]
      exact List.flatMap_id.trans (flatten_slices stride flat)

theorem finite_of_not_checked {dtype : Dtype} (whole : ¬ dtype.checked = true) (count : Nat)
    (bytes : List UInt8) : ∀ value ∈ elementValues dtype count bytes, finiteValue value = true := by
  induction count generalizing bytes with
  | zero => exact fun _ inside => absurd inside List.not_mem_nil
  | succ count inductionHypothesis =>
    rw [elementValues, List.forall_mem_cons]
    refine ⟨?_, inductionHypothesis _⟩
    cases dtype with
    | float32 => exact absurd rfl whole
    | float64 => exact absurd rfl whole
    | _ => rfl

/-- What is loaded has the declared shape, and its numbers are those of the bytes that were read. -/
theorem shaped_of_accepts {reference : TensorReference} {roots : InputRoots}
    {digest : List UInt8 → String} {maxTensorBytes : Nat} {content : List UInt8}
    (accepts : Accepts reference roots digest maxTensorBytes content)
    (length : content.length = reference.expectedBytes) :
    Tensor.HasShape reference.shape (.array (reshape
        (elementValues reference.dtype reference.elementCount content) reference.shape)) ∧
      leaves (.array (reshape
        (elementValues reference.dtype reference.elementCount content) reference.shape)) =
        elementValues reference.dtype reference.elementCount content := by
  have finite : ∀ value ∈ elementValues reference.dtype reference.elementCount content,
      finiteValue value = true := by
    by_cases checked : reference.dtype.checked = true
    · have all := accepts.finite checked
      rw [length, expectedBytes, Nat.mul_div_cancel _ reference.dtype.size_pos] at all
      exact List.all_eq_true.mp all
    · exact finite_of_not_checked checked _ _
  exact ⟨hasShape_reshape reference.ranked reference.positive (length_elementValues _ _ _) finite,
    leaves_reshape reference.positive finite⟩

end TensorReference

end Omnitensor
