/-
This file models the shape of a model that is read from the metadata of its file, and proves when the
shape is usable.

A number is usable if it is an integer of at least one. Three numbers have to be; the others have a
default: as many key and value heads as heads, and keys and values as wide as one head, which is the
embedding divided by the heads. A model of more heads than its embedding is wide has keys and values of
width zero by default, and nothing refuses them. The cache a model takes is read as an exact rational.
-/

import Omnitensor.DocumentExtraction
import Omnitensor.Gguf

namespace Omnitensor

namespace Gguf

/-! ### Shapes -/

/-- What a model's own header says about its size. -/
structure ModelShape where
  name : String
  architecture : String
  fileBytes : Nat
  blocks : Int
  kvHeads : Int
  keyLength : Int
  valueLength : Int
  deriving DecidableEq

/-- Cache bytes one token costs at one byte per element. -/
def ModelShape.kvBytesPerToken (shape : ModelShape) : ℚ :=
  shape.blocks * shape.kvHeads * (shape.keyLength + shape.valueLength)

/-- A text without white space at its ends. -/
def strip (text : String) : String :=
  let blank := fun char => PyString.space (.scalar char)
  String.ofList ((text.toList.dropWhile blank).reverse.dropWhile blank).reverse

/-- The text of a value, given how one is formatted that is no text. -/
def textOf (format : Value → String) : Value → String
  | .str text => text
  | value => format value

/-- The usable number that a key stands for. -/
def usable (metadata : Dict String Value) (key : String) : Option Int :=
  match metadata.get? key with
  | some (.int value) => if value < 1 then none else some value
  | _ => none

/-- The key of a number of an architecture. -/
def keyOf (architecture suffix : String) : String := s!"{architecture}.{suffix}"

/-- The key of a number of its attention. -/
def attentionKey (architecture suffix : String) : String := s!"{architecture}.attention.{suffix}"

/-- A number of the architecture that a shape cannot do without. -/
def declared (metadata : Dict String Value) (architecture suffix : String) : Except Failure Int :=
  match usable metadata (keyOf architecture suffix) with
  | some value => .ok value
  | none => .error (.refused s!"GGUF file declares no usable {suffix}")

/-- A length that attention declares, or the width of one head. -/
def length (metadata : Dict String Value) (architecture suffix : String) (fallback : Int) : Int :=
  (usable metadata (attentionKey architecture suffix)).getD fallback

/-- The architecture that is declared. -/
def architectureOf (format : Value → String) (metadata : Dict String Value) : String :=
  strip (textOf format ((metadata.get? "general.architecture").getD (.str "")))

/-- The shape that the metadata of a file declares, given the stem of its path and its size. -/
def readShape (format : Value → String) (stem : String) (fileBytes : Nat)
    (metadata : Dict String Value) : Except Failure ModelShape := do
  let architecture := architectureOf format metadata
  if architecture = "" then .error (.refused "GGUF file declares no architecture")
  else
    let heads ← declared metadata architecture "attention.head_count"
    let embedding ← declared metadata architecture "embedding_length"
    let kvHeads := (usable metadata s!"{architecture}.attention.head_count_kv").getD heads
    let headDimension := embedding / heads
    let name := textOf format ((metadata.get? "general.name").getD (.str stem))
    let blocks ← declared metadata architecture "block_count"
    return {
      name := String.ofList (name.toList.take 120)
      architecture
      fileBytes
      blocks
      kvHeads
      keyLength := length metadata architecture "key_length" headDimension
      valueLength := length metadata architecture "value_length" headDimension }

/-! ### The cache -/

/-- Bytes per cached element, by cache type. -/
def cachePrecisions : List (String × ℚ) :=
  [("f32", 4), ("f16", 2), ("bf16", 2), ("q8_0", 34 / 32), ("q5_1", 24 / 32), ("q5_0", 22 / 32),
    ("q4_1", 20 / 32), ("q4_0", 18 / 32)]

/-- The size of a cache, before it is rounded. -/
def cacheSize (shape : ModelShape) (perElement : ℚ) (contextTokens : Int) : ℚ :=
  shape.kvBytesPerToken * perElement * contextTokens

/-! ### What is usable -/

variable {value heads embedding : Int} {shape : ModelShape} {architecture suffix : String}

theorem usable_pos {metadata : Dict String Value} {key : String}
    (declares : usable metadata key = some value) : 1 ≤ value := by
  rw [usable] at declares
  split at declares
  · split_ifs at declares with small
    cases declares
    omega
  · cases declares

theorem getD_usable_pos {metadata : Dict String Value} {key : String} {fallback : Int} :
    1 ≤ (usable metadata key).getD fallback ↔ 1 ≤ fallback ∨ (usable metadata key).isSome := by
  cases declares : usable metadata key with
  | none => simp
  | some value => simpa using usable_pos declares

/-- A shape all of whose numbers are at least one. -/
structure Usable (shape : ModelShape) : Prop where
  blocks : 1 ≤ shape.blocks
  kvHeads : 1 ≤ shape.kvHeads
  keyLength : 1 ≤ shape.keyLength
  valueLength : 1 ≤ shape.valueLength

/-- A cache of any precision takes something, and more for a longer context. -/
def Counted (shape : ModelShape) : Prop :=
  ∀ cache ∈ cachePrecisions, (∀ context : Int, 1 ≤ context → 0 < cacheSize shape cache.2 context) ∧
    ∀ shorter longer : Int, shorter < longer → cacheSize shape cache.2 shorter < cacheSize shape cache.2 longer

theorem precision_pos : ∀ cache ∈ cachePrecisions, 0 < cache.2 := by
  intro cache member
  simp only [cachePrecisions, List.mem_cons, List.not_mem_nil, or_false] at member
  rcases member with rfl | rfl | rfl | rfl | rfl | rfl | rfl | rfl <;> norm_num

theorem Usable.counted (usable : Usable shape) : Counted shape := by
  intro cache member
  have blocks : (0 : ℚ) < shape.blocks := Int.cast_pos.mpr usable.blocks
  have kvHeads : (0 : ℚ) < shape.kvHeads := Int.cast_pos.mpr usable.kvHeads
  have keyLength : (0 : ℚ) < shape.keyLength := Int.cast_pos.mpr usable.keyLength
  have valueLength : (0 : ℚ) < shape.valueLength := Int.cast_pos.mpr usable.valueLength
  have perToken : 0 < shape.kvBytesPerToken * cache.2 :=
    mul_pos (mul_pos (mul_pos blocks kvHeads) (add_pos keyLength valueLength))
      (precision_pos cache member)
  refine ⟨fun context some => mul_pos perToken (Int.cast_pos.mpr some), fun shorter longer less => ?_⟩
  exact mul_lt_mul_of_pos_left (Int.cast_lt.mpr less) perToken

variable {format : Value → String} {stem : String} {fileBytes : Nat} {metadata : Dict String Value}

theorem declared_eq_ok :
    declared metadata architecture suffix = .ok value ↔
      usable metadata (keyOf architecture suffix) = some value := by
  rw [declared]
  cases usable metadata (keyOf architecture suffix) with
  | none => exact iff_of_false nofun nofun
  | some other => simp

/-- The numbers that a shape needs, declared by metadata with an architecture. -/
structure Declares (format : Value → String) (metadata : Dict String Value)
    (heads embedding blocks : Int) : Prop where
  architecture : architectureOf format metadata ≠ ""
  heads : usable metadata (keyOf (architectureOf format metadata) "attention.head_count") = some heads
  embedding : usable metadata (keyOf (architectureOf format metadata) "embedding_length") = some embedding
  blocks : usable metadata (keyOf (architectureOf format metadata) "block_count") = some blocks

/-- The keys and the values have a declared width. -/
def DeclaresWidths (format : Value → String) (metadata : Dict String Value) : Prop :=
  (usable metadata (attentionKey (architectureOf format metadata) "key_length")).isSome ∧
    (usable metadata (attentionKey (architectureOf format metadata) "value_length")).isSome

theorem readShape_eq_ok (returns : readShape format stem fileBytes metadata = .ok shape) :
    ∃ heads embedding blocks, Declares format metadata heads embedding blocks ∧
      shape.blocks = blocks ∧
      shape.kvHeads = (usable metadata
        s!"{architectureOf format metadata}.attention.head_count_kv").getD heads ∧
      shape.keyLength = length metadata (architectureOf format metadata) "key_length"
        (embedding / heads) ∧
      shape.valueLength = length metadata (architectureOf format metadata) "value_length"
        (embedding / heads) := by
  rw [readShape] at returns
  split_ifs at returns with nameless
  cases heads : declared metadata (architectureOf format metadata) "attention.head_count" with
  | error failure => simp only [heads] at returns; cases returns
  | ok headCount =>
    cases embedding : declared metadata (architectureOf format metadata) "embedding_length" with
    | error failure => simp only [heads, embedding] at returns; cases returns
    | ok embeddingLength =>
      cases blocks : declared metadata (architectureOf format metadata) "block_count" with
      | error failure => simp only [heads, embedding, blocks] at returns; cases returns
      | ok blockCount =>
        simp only [heads, embedding, blocks] at returns
        cases returns
        exact ⟨headCount, embeddingLength, blockCount,
          ⟨nameless, declared_eq_ok.mp heads, declared_eq_ok.mp embedding, declared_eq_ok.mp blocks⟩,
          rfl, rfl, rfl, rfl⟩

theorem Declares.readShape_isOk {heads embedding blocks : Int}
    (declares : Declares format metadata heads embedding blocks) :
    ∃ shape, readShape format stem fileBytes metadata = .ok shape := by
  simp only [readShape, if_neg declares.architecture, declared_eq_ok.mpr declares.heads,
    declared_eq_ok.mpr declares.embedding, declared_eq_ok.mpr declares.blocks]
  exact ⟨_, rfl⟩

theorem declared_eq_error {failure : Failure}
    (raises : declared metadata architecture suffix = .error failure) :
    ∃ message, failure = .refused message := by
  rw [declared] at raises
  split at raises
  · cases raises
  · cases raises
    exact ⟨_, rfl⟩

/-- Every refusal of a shape is a refusal of the format. -/
theorem readShape_eq_error {failure : Failure}
    (raises : readShape format stem fileBytes metadata = .error failure) :
    ∃ message, failure = .refused message := by
  rw [readShape] at raises
  split_ifs at raises with nameless
  · cases raises
    exact ⟨_, rfl⟩
  cases heads : declared metadata (architectureOf format metadata) "attention.head_count" with
  | error other =>
    simp only [heads] at raises
    cases raises
    exact declared_eq_error heads
  | ok headCount =>
    cases embedding : declared metadata (architectureOf format metadata) "embedding_length" with
    | error other =>
      simp only [heads, embedding] at raises
      cases raises
      exact declared_eq_error embedding
    | ok embeddingLength =>
      cases blocks : declared metadata (architectureOf format metadata) "block_count" with
      | error other =>
        simp only [heads, embedding, blocks] at raises
        cases raises
        exact declared_eq_error blocks
      | ok blockCount =>
        simp only [heads, embedding, blocks] at raises
        cases raises

/-- One head of an embedding has a width unless there are more heads than the embedding is wide. -/
theorem headDimension_pos (positive : 1 ≤ heads) : 1 ≤ embedding / heads ↔ heads ≤ embedding := by
  rw [Int.le_ediv_iff_mul_le (by omega), Int.one_mul]

/-- A shape that is returned is usable if one head has a width or both widths are declared. -/
theorem usable_readShape_iff {blocks : Int}
    (declares : Declares format metadata heads embedding blocks)
    (returns : readShape format stem fileBytes metadata = .ok shape) :
    Usable shape ↔ heads ≤ embedding ∨ DeclaresWidths format metadata := by
  obtain ⟨_, _, _, ⟨_, heads', embedding', blocks'⟩, shapeBlocks, shapeHeads, shapeKey, shapeValue⟩ :=
    readShape_eq_ok returns
  obtain rfl := Option.some.inj (declares.heads.symm.trans heads')
  obtain rfl := Option.some.inj (declares.embedding.symm.trans embedding')
  obtain rfl := Option.some.inj (declares.blocks.symm.trans blocks')
  have positive := usable_pos declares.heads
  have key := @getD_usable_pos metadata
    (attentionKey (architectureOf format metadata) "key_length") (embedding / heads)
  have value := @getD_usable_pos metadata
    (attentionKey (architectureOf format metadata) "value_length") (embedding / heads)
  rw [headDimension_pos positive] at key value
  constructor
  · rintro ⟨_, _, keyLength, valueLength⟩
    rw [shapeKey] at keyLength
    rw [shapeValue] at valueLength
    by_cases fits : heads ≤ embedding
    · exact .inl fits
    · exact .inr ⟨(key.mp keyLength).resolve_left fits, (value.mp valueLength).resolve_left fits⟩
  · intro wide
    refine ⟨?_, ?_, ?_, ?_⟩
    · rw [shapeBlocks]
      exact usable_pos declares.blocks
    · rw [shapeHeads]
      exact getD_usable_pos.mpr (.inl positive)
    · rw [shapeKey]
      exact key.mpr (wide.imp_right And.left)
    · rw [shapeValue]
      exact value.mpr (wide.imp_right And.right)

/-! ### Usable or refused -/

/-- The metadata is refused, or its shape is usable and its cache is counted. -/
def UsableOrRefused (format : Value → String) (stem : String) (fileBytes : Nat)
    (metadata : Dict String Value) : Prop :=
  (∃ message, readShape format stem fileBytes metadata = .error (.refused message)) ∨
    ∃ shape, readShape format stem fileBytes metadata = .ok shape ∧ Usable shape ∧ Counted shape

/-- A shape is usable or refused exactly if metadata that declares more heads than its embedding is wide
declares how wide keys and values are. -/
theorem readShape_usable_iff (format : Value → String) (stem : String) (fileBytes : Nat)
    (metadata : Dict String Value) :
    UsableOrRefused format stem fileBytes metadata ↔
      ∀ heads embedding blocks, Declares format metadata heads embedding blocks →
        heads ≤ embedding ∨ DeclaresWidths format metadata := by
  constructor
  · intro answers heads embedding blocks declares
    obtain ⟨shape, returns⟩ := @Declares.readShape_isOk format stem fileBytes metadata _ _ _ declares
    rcases answers with ⟨message, raises⟩ | ⟨other, returned, usable, _⟩
    · rw [returns] at raises
      cases raises
    · exact (usable_readShape_iff declares returned).mp usable
  · intro wide
    cases reads : readShape format stem fileBytes metadata with
    | error failure =>
      obtain ⟨message, rfl⟩ := readShape_eq_error reads
      exact .inl ⟨message, reads⟩
    | ok shape =>
      obtain ⟨heads, embedding, blocks, declares, _⟩ := readShape_eq_ok reads
      have usable := (usable_readShape_iff declares reads).mpr (wide heads embedding blocks declares)
      exact .inr ⟨shape, reads, usable, usable.counted⟩

/-- More heads than the embedding is wide. -/
def narrow : Dict String Value :=
  ⟨[("general.architecture", .str "llama"), ("llama.attention.head_count", .int 64),
    ("llama.embedding_length", .int 32), ("llama.block_count", .int 1)], by decide⟩

/-- A model of 64 heads over an embedding of 32 is given keys and values of width zero, and its cache
is counted as free. -/
theorem readShape_free : (∃ shape, readShape (fun _ => "") "model" 4096 narrow = .ok shape ∧
      shape.keyLength = 0 ∧ shape.valueLength = 0 ∧
      ∀ context, cacheSize shape 2 context = 0) ∧
    ¬ UsableOrRefused (fun _ => "") "model" 4096 narrow := by
  have returns : readShape (fun _ => "") "model" 4096 narrow =
      .ok ⟨"model", "llama", 4096, 1, 64, 0, 0⟩ := by decide +kernel
  refine ⟨⟨_, returns, rfl, rfl, fun context => ?_⟩, ?_⟩
  · simp [cacheSize, ModelShape.kvBytesPerToken]
  · rintro (⟨message, raises⟩ | ⟨shape, returned, usable, _⟩)
    · rw [returns] at raises
      cases raises
    · rw [returns] at returned
      cases returned
      exact absurd usable.keyLength (by decide)

end Gguf

end Omnitensor
