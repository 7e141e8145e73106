/-
This file develops the strings of Python and the bytes UTF-8 gives them.

A string is a sequence of code points, which an escape can make half of a surrogate pair. A string
without such halves has bytes, as many as its code points take, and is read back from them. Strings
are ordered by their code points.
-/

import Mathlib

namespace Omnitensor

/-! ### Code points -/

/-- A code point of a string: a scalar value, or half of a surrogate pair. -/
inductive CodePoint where
  | scalar (char : Char)
  | surrogate (half : Fin 2048)
  deriving Repr

namespace CodePoint

/-- The number of a code point. -/
def value : CodePoint → Nat
  | scalar char => char.toNat
  | surrogate half => 55296 + half

theorem value_injective : Function.Injective value := by
  intro first second same
  match first, second with
  | scalar first, scalar second => exact congrArg scalar (Char.toNat_inj.mp same)
  | surrogate first, surrogate second =>
    exact congrArg surrogate (Fin.ext (Nat.add_left_cancel same))
  | scalar char, surrogate half =>
    have valid := char.valid
    simp only [UInt32.isValidChar, Nat.isValidChar, Char.toNat_val] at valid
    simp only [value] at same
    omega
  | surrogate half, scalar char =>
    have valid := char.valid
    simp only [UInt32.isValidChar, Nat.isValidChar, Char.toNat_val] at valid
    simp only [value] at same
    omega

instance : LinearOrder CodePoint := LinearOrder.lift' value value_injective

instance : LawfulBEq CodePoint := inferInstance

/-- The scalar value a code point is, if it is one. -/
def char? : CodePoint → Option Char
  | scalar char => some char
  | surrogate _ => none

/-- The code point of a code unit. -/
def ofUnit (unit : Nat) : CodePoint :=
  if half : unit - 55296 < 2048 ∧ 55296 ≤ unit then .surrogate ⟨unit - 55296, half.1⟩
  else .scalar (Char.ofNat unit)

theorem ofUnit_half (half : Fin 2048) : ofUnit (55296 + half) = surrogate half := by
  rw [ofUnit, dif_pos ⟨by omega, by omega⟩]
  exact congrArg surrogate (Fin.ext (Nat.add_sub_cancel_left _ _))

theorem ofUnit_toNat (char : Char) : ofUnit char.toNat = scalar char := by
  have valid := char.valid
  simp only [UInt32.isValidChar, Nat.isValidChar, Char.toNat_val] at valid
  rw [ofUnit, dif_neg (by omega), Char.ofNat_toNat]

/-- How many bytes a code point takes. -/
def utf8Size : CodePoint → Nat
  | scalar char => char.utf8Size
  | surrogate _ => 3

end CodePoint

/-! ### Strings -/

/-- A string of Python. -/
abbrev PyString : Type := List CodePoint

namespace PyString

instance : LawfulBEq PyString := inferInstance

/-- The string of scalar values. -/
def ofChars (chars : List Char) : PyString := chars.map CodePoint.scalar

/-- The string of a literal. -/
def ofString (text : String) : PyString := ofChars text.toList

/-- The scalar values of a string, unless it holds half of a surrogate pair. -/
def chars? (text : PyString) : Option (List Char) := text.mapM CodePoint.char?

/-- The string of scalar values a string is, unless it holds half of a surrogate pair. -/
def toString? (text : PyString) : Option String := (chars? text).map String.ofList

instance : Coe String PyString := ⟨ofString⟩

/-- A string that holds no half of a surrogate pair. -/
def Encodable (text : PyString) : Prop := ∀ point ∈ text, point.char?.isSome

instance (text : PyString) : Decidable (Encodable text) :=
  inferInstanceAs (Decidable (∀ point ∈ text, point.char?.isSome))

/-- How many bytes a string takes. -/
def byteSize (text : PyString) : Nat := (text.map CodePoint.utf8Size).sum

@[simp] theorem ofChars_nil : ofChars [] = [] := rfl

@[simp] theorem ofChars_cons (char : Char) (chars : List Char) :
    ofChars (char :: chars) = .scalar char :: ofChars chars := rfl

@[simp] theorem ofChars_append (first second : List Char) :
    ofChars (first ++ second) = ofChars first ++ ofChars second := List.map_append

@[simp] theorem length_ofChars (chars : List Char) : (ofChars chars).length = chars.length :=
  List.length_map _

@[simp] theorem byteSize_nil : byteSize [] = 0 := rfl

@[simp] theorem byteSize_cons (point : CodePoint) (text : PyString) :
    byteSize (point :: text) = point.utf8Size + byteSize text := List.sum_cons

theorem chars?_ofChars (chars : List Char) : chars? (ofChars chars) = some chars := by
  induction chars with
  | nil => rfl
  | cons char chars inductionHypothesis =>
    rw [chars?] at inductionHypothesis
    rw [ofChars_cons, chars?, List.mapM_cons, inductionHypothesis]
    rfl

variable {text : PyString}

theorem eq_ofChars_of_chars? {chars : List Char} (same : chars? text = some chars) :
    text = ofChars chars := by
  induction text generalizing chars with
  | nil =>
    cases same
    rfl
  | cons point text inductionHypothesis =>
    rw [chars?, List.mapM_cons] at same
    cases point with
    | surrogate half => cases same
    | scalar char =>
      cases others : text.mapM CodePoint.char? with
      | none =>
        rw [others] at same
        cases same
      | some tail =>
        rw [others] at same
        cases same
        rw [inductionHypothesis others, ofChars_cons]

theorem toString?_eq_some {scalars : String} :
    text.toString? = some scalars ↔ text = ofString scalars := by
  refine ⟨fun same => ?_, fun same => ?_⟩
  · obtain ⟨chars, read, rfl⟩ := Option.map_eq_some_iff.mp same
    rw [eq_ofChars_of_chars? read, ofString, String.toList_ofList]
  · rw [same, toString?, ofString, chars?_ofChars, Option.map_some, String.ofList_toList]

@[simp] theorem ofString_inj {first second : String} :
    ofString first = ofString second ↔ first = second := by
  refine ⟨fun same => ?_, congrArg ofString⟩
  exact Option.some.inj ((toString?_eq_some.mpr rfl).symm.trans (toString?_eq_some.mpr same))

theorem encodable_ofChars (chars : List Char) : Encodable (ofChars chars) := by
  intro point member
  obtain ⟨char, _, rfl⟩ := List.mem_map.mp member
  rfl

theorem encodable_append {first second : PyString} :
    Encodable (first ++ second) ↔ Encodable first ∧ Encodable second := List.forall_mem_append

theorem encodable_cons {point : CodePoint} :
    Encodable (point :: text) ↔ point.char?.isSome ∧ Encodable text := List.forall_mem_cons

theorem encodable_iff : Encodable text ↔ ∃ chars, text = ofChars chars := by
  refine ⟨fun encodable => ?_, fun ⟨chars, same⟩ => same ▸ encodable_ofChars chars⟩
  induction text with
  | nil => exact ⟨[], rfl⟩
  | cons point text inductionHypothesis =>
    obtain ⟨scalar, others⟩ := encodable_cons.mp encodable
    obtain ⟨chars, rfl⟩ := inductionHypothesis others
    cases point with
    | surrogate half => cases scalar
    | scalar char => exact ⟨char :: chars, rfl⟩

/-! ### Bytes -/

/-- The bytes of a string, unless it holds half of a surrogate pair. -/
def encodeUtf8 (text : PyString) : Option (List UInt8) :=
  (chars? text).map fun chars => chars.flatMap String.utf8EncodeChar

/-- The string of some bytes, if they are UTF-8. -/
def decodeUtf8 (bytes : List UInt8) : Option PyString :=
  bytes.toByteArray.utf8Decode?.map fun chars => ofChars chars.toList

theorem encodeUtf8_ofChars (chars : List Char) :
    encodeUtf8 (ofChars chars) = some (chars.flatMap String.utf8EncodeChar) := by
  rw [encodeUtf8, chars?_ofChars]
  rfl

/-- What is encoded is decoded. -/
theorem decodeUtf8_flatMap (chars : List Char) :
    decodeUtf8 (chars.flatMap String.utf8EncodeChar) = some (ofChars chars) := by
  have same : (chars.flatMap String.utf8EncodeChar).toByteArray = chars.utf8Encode := rfl
  rw [decodeUtf8, same, List.utf8Decode?_utf8Encode]
  rfl

theorem length_flatMap_utf8 (chars : List Char) :
    (chars.flatMap String.utf8EncodeChar).length = byteSize (ofChars chars) := by
  induction chars with
  | nil => rfl
  | cons char chars inductionHypothesis =>
    rw [List.flatMap_cons, List.length_append, String.length_utf8EncodeChar, inductionHypothesis,
      ofChars_cons, byteSize_cons]
    rfl

/-- A string without halves has as many bytes as its code points take, and is read back. -/
theorem encodeUtf8_of_encodable (encodable : Encodable text) :
    ∃ bytes, encodeUtf8 text = some bytes ∧ bytes.length = byteSize text ∧
      decodeUtf8 bytes = some text := by
  obtain ⟨chars, rfl⟩ := encodable_iff.mp encodable
  exact ⟨_, encodeUtf8_ofChars chars, length_flatMap_utf8 chars, decodeUtf8_flatMap chars⟩

end PyString

end Omnitensor
