/-
This file develops bytes as words and as base64 text.

A word of four bytes begins with its lowest. Base64 writes three bytes as four characters of an
alphabet of 64 and fills the last group up with padding; the reader admits nothing else. What is
written is read back, and its length depends on the number of bytes only.
-/

import Mathlib

namespace Omnitensor

/-! ### Words -/

/-- The four bytes of a word, the lowest first. -/
def littleEndian (word : Nat) : List UInt8 :=
  [UInt8.ofNat word, UInt8.ofNat (word / 256), UInt8.ofNat (word / 65536),
    UInt8.ofNat (word / 16777216)]

/-- The word of four bytes, the lowest first. -/
def wordOf (first second third fourth : UInt8) : Nat :=
  first.toNat + 256 * second.toNat + 65536 * third.toNat + 16777216 * fourth.toNat

theorem wordOf_lt (first second third fourth : UInt8) :
    wordOf first second third fourth < 2 ^ 32 := by
  have := first.toNat_lt
  have := second.toNat_lt
  have := third.toNat_lt
  have := fourth.toNat_lt
  unfold wordOf
  omega

theorem wordOf_littleEndian {word : Nat} (small : word < 2 ^ 32) :
    wordOf (UInt8.ofNat word) (UInt8.ofNat (word / 256)) (UInt8.ofNat (word / 65536))
      (UInt8.ofNat (word / 16777216)) = word := by
  simp only [wordOf, UInt8.toNat_ofNat']
  omega

namespace Base64

/-! ### Text -/

/-- The alphabet. -/
def alphabet : List Char :=
  "ABCDEFGHIJKLMNOPQRSTUVWXYZabcdefghijklmnopqrstuvwxyz0123456789+/".toList

/-- The character of six bits. -/
def digit (value : Nat) : Char := alphabet.getD value '='

/-- The six bits of a character. -/
def digitValue (char : Char) : Option Nat :=
  if 'A' ≤ char ∧ char ≤ 'Z' then some (char.toNat - 65)
  else if 'a' ≤ char ∧ char ≤ 'z' then some (char.toNat - 71)
  else if '0' ≤ char ∧ char ≤ '9' then some (char.toNat + 4)
  else if char = '+' then some 62
  else if char = '/' then some 63
  else none

/-- The text of bytes. -/
def encode : List UInt8 → List Char
  | [] => []
  | [first] => [digit (first.toNat / 4), digit (first.toNat % 4 * 16), '=', '=']
  | [first, second] =>
    [digit (first.toNat / 4), digit (first.toNat % 4 * 16 + second.toNat / 16),
      digit (second.toNat % 16 * 4), '=']
  | first :: second :: third :: rest =>
    digit (first.toNat / 4) :: digit (first.toNat % 4 * 16 + second.toNat / 16) ::
      digit (second.toNat % 16 * 4 + third.toNat / 64) :: digit (third.toNat % 64) :: encode rest

/-- The bytes of a text, if it is one of base64. Bits beyond the last byte are dropped. -/
def decode : List Char → Option (List UInt8)
  | [] => some []
  | [first, second, '=', '='] => do
    let first ← digitValue first
    let second ← digitValue second
    return [UInt8.ofNat (first * 4 + second / 16)]
  | [first, second, third, '='] => do
    let first ← digitValue first
    let second ← digitValue second
    let third ← digitValue third
    return [UInt8.ofNat (first * 4 + second / 16), UInt8.ofNat (second * 16 + third / 4)]
  | first :: second :: third :: fourth :: rest => do
    let first ← digitValue first
    let second ← digitValue second
    let third ← digitValue third
    let fourth ← digitValue fourth
    let bytes ← decode rest
    return UInt8.ofNat (first * 4 + second / 16) :: UInt8.ofNat (second * 16 + third / 4) ::
      UInt8.ofNat (third * 64 + fourth) :: bytes
  | _ => none

/-! ### Reading a text back -/

theorem digitValue_digit : ∀ value < 64, digitValue (digit value) = some value := by
  decide +kernel

theorem digit_ne_padding (value : Nat) (small : value < 64) : digit value ≠ '=' := by
  intro padding
  have none := digitValue_digit value small
  rw [padding] at none
  cases none

theorem ofNat_eq (byte : UInt8) {number : Nat} (same : number % 256 = byte.toNat) :
    UInt8.ofNat number = byte :=
  UInt8.toNat.inj (by rw [UInt8.toNat_ofNat', ← same])

attribute [local simp] decode in
theorem decode_two {first second : Nat} (firstSmall : first < 64) (secondSmall : second < 64) :
    decode [digit first, digit second, '=', '='] =
      some [UInt8.ofNat (first * 4 + second / 16)] := by
  rw [decode, digitValue_digit first firstSmall, digitValue_digit second secondSmall]
  rfl

theorem decode_three {first second third : Nat} (firstSmall : first < 64)
    (secondSmall : second < 64) (thirdSmall : third < 64) :
    decode [digit first, digit second, digit third, '='] =
      some [UInt8.ofNat (first * 4 + second / 16), UInt8.ofNat (second * 16 + third / 4)] := by
  rw [decode, digitValue_digit first firstSmall, digitValue_digit second secondSmall,
    digitValue_digit third thirdSmall]
  · rfl
  · exact digit_ne_padding third thirdSmall

theorem decode_four {first second third fourth : Nat} (firstSmall : first < 64)
    (secondSmall : second < 64) (thirdSmall : third < 64) (fourthSmall : fourth < 64)
    (rest : List Char) :
    decode (digit first :: digit second :: digit third :: digit fourth :: rest) =
      (decode rest).map fun bytes => UInt8.ofNat (first * 4 + second / 16) ::
        UInt8.ofNat (second * 16 + third / 4) :: UInt8.ofNat (third * 64 + fourth) :: bytes := by
  have filled := digit_ne_padding fourth fourthSmall
  rw [decode, digitValue_digit first firstSmall, digitValue_digit second secondSmall,
    digitValue_digit third thirdSmall, digitValue_digit fourth fourthSmall]
  · cases decode rest <;> rfl
  · exact fun _ padding => absurd padding filled
  · exact fun padding => absurd padding filled

theorem decode_encode (bytes : List UInt8) : decode (encode bytes) = some bytes := by
  fun_induction encode bytes with
  | case1 => rfl
  | case2 first =>
    have := first.toNat_lt
    rw [decode_two (by omega) (by omega), ofNat_eq first (by omega)]
  | case3 first second =>
    have := first.toNat_lt
    have := second.toNat_lt
    rw [decode_three (by omega) (by omega) (by omega), ofNat_eq first (by omega),
      ofNat_eq second (by omega)]
  | case4 first second third rest inductionHypothesis =>
    have := first.toNat_lt
    have := second.toNat_lt
    have := third.toNat_lt
    rw [decode_four (by omega) (by omega) (by omega) (by omega), inductionHypothesis,
      ofNat_eq first (by omega), ofNat_eq second (by omega),
      ofNat_eq third (by omega)]
    rfl

theorem digit_mem (value : Nat) : digit value ∈ '=' :: alphabet := by
  rw [digit, List.getD_eq_getElem?_getD]
  cases found : alphabet[value]? with
  | none => exact List.mem_cons_self
  | some char => exact List.mem_cons_of_mem _ (List.mem_of_getElem? found)

theorem mem_encode : ∀ bytes, ∀ char ∈ encode bytes, char ∈ '=' :: alphabet
  | [] => fun _ member => by cases member
  | [_] => by simp [encode, List.mem_cons.mp (digit_mem _)]
  | [_, _] => by simp [encode, List.mem_cons.mp (digit_mem _)]
  | first :: second :: third :: rest => by
    rw [encode]
    simp only [List.forall_mem_cons, digit_mem, true_and]
    exact mem_encode rest

end Base64

end Omnitensor
