/-
This file develops numbers and texts in bytes.

A number of a given width is read from its bytes, the least significant first.

Text is read from UTF-8, with a replacement character for each longest part that begins a character
but does not end it, and for each byte that begins none.
-/

import Mathlib

namespace Omnitensor

namespace ByteReading

/-! ### Numbers -/

/-- The bytes of a number, the least significant first. -/
def bytesOf : Nat → Nat → List UInt8
  | 0, _ => []
  | width + 1, number => UInt8.ofNat number :: bytesOf width (number / 256)

/-- The number of some bytes. -/
def valueOf : List UInt8 → Nat
  | [] => 0
  | byte :: bytes => byte.toNat + 256 * valueOf bytes

@[simp] theorem length_bytesOf (width number : Nat) : (bytesOf width number).length = width := by
  induction width generalizing number with
  | zero => rfl
  | succ width inductionHypothesis => rw [bytesOf, List.length_cons, inductionHypothesis]

theorem valueOf_bytesOf {width number : Nat} (small : number < 256 ^ width) :
    valueOf (bytesOf width number) = number := by
  induction width generalizing number with
  | zero => exact (Nat.lt_one_iff.mp small).symm
  | succ width inductionHypothesis =>
    have rest : number / 256 < 256 ^ width := by
      rw [Nat.div_lt_iff_lt_mul (by decide)]
      rwa [pow_succ] at small
    rw [bytesOf, valueOf, inductionHypothesis rest, UInt8.toNat_ofNat']
    exact Nat.mod_add_div number 256

/-! ### Text -/

/-- A byte that continues a character. -/
def continues (byte : UInt8) : Bool := decide (0x80 ≤ byte) && decide (byte ≤ 0xBF)

/-- The first two bytes of a character of three or four bytes. -/
def begins (first second : UInt8) : Bool :=
  if first = 0xE0 then decide (0xA0 ≤ second) && decide (second ≤ 0xBF)
  else if first = 0xED then decide (0x80 ≤ second) && decide (second ≤ 0x9F)
  else if first = 0xF0 then decide (0x90 ≤ second) && decide (second ≤ 0xBF)
  else if first = 0xF4 then decide (0x80 ≤ second) && decide (second ≤ 0x8F)
  else decide (0xE1 ≤ first) && decide (first ≤ 0xF3) && continues second

/-- How many bytes one replacement character stands for, where no character is. -/
def illFormedLength : List UInt8 → Nat
  | first :: second :: third :: _ =>
    if begins first second then
      if decide (0xF0 ≤ first) && continues third then 3 else 2
    else 1
  | [first, second] => if begins first second then 2 else 1
  | _ => 1

/-- The characters of some bytes. -/
def decodeChars : Nat → List UInt8 → List Char
  | 0, _ => []
  | _ + 1, [] => []
  | fuel + 1, bytes =>
    match bytes.toByteArray.utf8DecodeChar? 0 with
    | some char => char :: decodeChars fuel (bytes.drop char.utf8Size)
    | none => '\uFFFD' :: decodeChars fuel (bytes.drop (illFormedLength bytes))

/-- The text of some bytes. Every character takes a byte, so the fuel is not used up. -/
def decodeReplacing (bytes : List UInt8) : String :=
  String.ofList (decodeChars bytes.length bytes)

/-- The bytes of a text. -/
def utf8 (text : String) : List UInt8 := text.toList.flatMap String.utf8EncodeChar

theorem decodeChars_flatMap (chars : List Char) {fuel : Nat}
    (enough : (chars.flatMap String.utf8EncodeChar).length ≤ fuel) :
    decodeChars fuel (chars.flatMap String.utf8EncodeChar) = chars := by
  induction chars generalizing fuel with
  | nil => cases fuel <;> rfl
  | cons char chars inductionHypothesis =>
    have size := String.length_utf8EncodeChar char
    have positive := Char.utf8Size_pos char
    rw [List.flatMap_cons, List.length_append] at enough
    obtain ⟨fuel, rfl⟩ := Nat.exists_eq_add_of_le' (show 1 ≤ fuel by omega)
    have first : (String.utf8EncodeChar char ++
        chars.flatMap String.utf8EncodeChar).toByteArray.utf8DecodeChar? 0 = some char := by
      rw [List.toByteArray_append]
      exact ByteArray.utf8DecodeChar?_utf8EncodeChar_append
    have rest : (String.utf8EncodeChar char ++ chars.flatMap String.utf8EncodeChar).drop
        char.utf8Size = chars.flatMap String.utf8EncodeChar := List.drop_left' size
    rw [List.flatMap_cons]
    cases bytes : String.utf8EncodeChar char ++ chars.flatMap String.utf8EncodeChar with
    | nil =>
      have none := congrArg List.length bytes
      rw [List.length_append, List.length_nil] at none
      omega
    | cons byte others =>
      rw [bytes] at first rest
      rw [decodeChars, first]
      · simp only [rest, inductionHypothesis (show _ ≤ fuel by omega)]
      · nofun

/-- A text is read from its bytes. -/
theorem decodeReplacing_utf8 (text : String) : decodeReplacing (utf8 text) = text := by
  rw [decodeReplacing, utf8, decodeChars_flatMap _ (Nat.le_refl _), String.ofList_toList]

end ByteReading

end Omnitensor
