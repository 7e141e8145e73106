/-
This file develops the cursors that pages of results are continued with.

A cursor is a small document in the alphabet of base64 that is safe in addresses. Its reader is lenient:
it skips what is not of the alphabet and stops where padding is complete. A cursor that was written for a
revision and a query is read back as its offset, and refused for any other.
-/

import Omnitensor.IndexRoundTrip
import Omnitensor.PythonText

namespace Omnitensor

/-! ### Base64 that is safe in addresses -/

namespace Base64

/-- The bytes of a group of two to four digits. -/
def groupBytes : List Nat → List UInt8
  | [first, second] => [UInt8.ofNat (first * 4 + second / 16)]
  | [first, second, third] =>
    [UInt8.ofNat (first * 4 + second / 16), UInt8.ofNat (second * 16 + third / 4)]
  | [first, second, third, fourth] =>
    [UInt8.ofNat (first * 4 + second / 16), UInt8.ofNat (second * 16 + third / 4),
      UInt8.ofNat (third * 64 + fourth)]
  | _ => []

/-- The bytes of a text after the digits of an open group and so much padding. What is not of the
alphabet is skipped, and nothing is read after the padding that completes a group. -/
def decodeLoosely (group : List Nat) (pads : Nat) : List Char → Option (List UInt8)
  | [] => if group.isEmpty then some [] else none
  | char :: rest =>
    if char = '=' then
      if 2 ≤ group.length ∧ 4 ≤ group.length + (pads + 1) then some (groupBytes group)
      else decodeLoosely group (if 2 ≤ group.length then pads + 1 else pads) rest
    else
      match digitValue char with
      | none => decodeLoosely group pads rest
      | some value =>
        if group.length = 3 then
          (decodeLoosely [] 0 rest).map (groupBytes (group ++ [value]) ++ ·)
        else decodeLoosely (group ++ [value]) 0 rest

def urlChar (char : Char) : Char :=
  if char = '+' then '-' else if char = '/' then '_' else char

def standardChar (char : Char) : Char :=
  if char = '-' then '+' else if char = '_' then '/' else char

/-- `base64.urlsafe_b64encode(bytes)`. -/
def urlsafeEncode (bytes : List UInt8) : List Char := (encode bytes).map urlChar

/-- `base64.urlsafe_b64decode(text)`. -/
def urlsafeDecode (text : List Char) : Option (List UInt8) :=
  decodeLoosely [] 0 (text.map standardChar)

theorem decodeLoosely_digit {group : List Nat} {pads value : Nat} (small : value < 64)
    (short : group.length ≠ 3) (rest : List Char) :
    decodeLoosely group pads (digit value :: rest) = decodeLoosely (group ++ [value]) 0 rest := by
  rw [decodeLoosely, if_neg (digit_ne_padding value small), digitValue_digit value small]
  exact if_neg short

/-- What is written is read, also by a lenient reader. -/
theorem decodeLoosely_encode (bytes : List UInt8) : decodeLoosely [] 0 (encode bytes) = some bytes := by
  fun_induction encode bytes with
  | case1 => rfl
  | case2 first =>
    have := first.toNat_lt
    rw [decodeLoosely_digit (by omega) (by simp), decodeLoosely_digit (by omega) (by simp)]
    simp only [List.nil_append, List.cons_append, decodeLoosely, if_true, List.length_cons,
      List.length_nil]
    simp only [groupBytes]
    rw [ofNat_eq first (by omega)]
    rfl
  | case3 first second =>
    have := first.toNat_lt
    have := second.toNat_lt
    rw [decodeLoosely_digit (by omega) (by simp), decodeLoosely_digit (by omega) (by simp),
      decodeLoosely_digit (by omega) (by simp)]
    simp only [List.nil_append, List.cons_append, decodeLoosely, if_true, List.length_cons,
      List.length_nil]
    simp only [groupBytes]
    rw [ofNat_eq first (by omega), ofNat_eq second (by omega)]
    rfl
  | case4 first second third rest inductionHypothesis =>
    have := first.toNat_lt
    have := second.toNat_lt
    have := third.toNat_lt
    rw [decodeLoosely_digit (by omega) (by simp), decodeLoosely_digit (by omega) (by simp),
      decodeLoosely_digit (by omega) (by simp), decodeLoosely,
      if_neg (digit_ne_padding _ (by omega)), digitValue_digit _ (by omega)]
    simp only [List.nil_append, List.cons_append, List.length_cons, List.length_nil, if_true,
      inductionHypothesis, Option.map_some, groupBytes]
    rw [ofNat_eq first (by omega), ofNat_eq second (by omega), ofNat_eq third (by omega)]

/-- The characters that are safe in addresses are translated back, and are ASCII. -/
theorem all_urlChar : ('=' :: alphabet).all (fun char =>
    decide (standardChar (urlChar char) = char) && decide ((urlChar char).toNat < 128)) = true := by
  decide +kernel

theorem standardChar_urlChar {char : Char} (member : char ∈ '=' :: alphabet) :
    standardChar (urlChar char) = char := by
  have both := List.all_eq_true.mp all_urlChar char member
  exact of_decide_eq_true (Bool.and_eq_true_iff.mp both).1

theorem urlChar_ascii {char : Char} (member : char ∈ '=' :: alphabet) :
    (urlChar char).toNat < 128 := by
  have both := List.all_eq_true.mp all_urlChar char member
  exact of_decide_eq_true (Bool.and_eq_true_iff.mp both).2

theorem urlsafeDecode_urlsafeEncode (bytes : List UInt8) :
    urlsafeDecode (urlsafeEncode bytes) = some bytes := by
  have same : (encode bytes).map (standardChar ∘ urlChar) = encode bytes :=
    (List.map_congr_left fun char member =>
      standardChar_urlChar (mem_encode bytes char member)).trans (List.map_id _)
  rw [urlsafeDecode, urlsafeEncode, List.map_map, same, decodeLoosely_encode]

end Base64

/-! ### Cursors -/

/-- Why a query does not return: a stable refusal, or what the index raises. -/
inductive SearchFailure where
  | refused (code detail : String)
  | index (failure : IndexFailure)
  deriving DecidableEq

namespace Cursor

def version : Int := 1

/-- A document in UTF-8. -/
def documentBytes (document : Json Double) : List UInt8 :=
  (Json.dumps document).flatMap String.utf8EncodeChar

/-- The document that bytes in UTF-8 are the text of. -/
def readDocument (bytes : List UInt8) : Option (Json Double) := do
  Json.loads (← PyString.chars? (← PyString.decodeUtf8 bytes))

def encodeCursor (revision offset : Nat) (fingerprint : String) : String :=
  String.ofList (Base64.urlsafeEncode (documentBytes (.object [
    ("v", .int version), ("r", .int revision), ("o", .int offset), ("q", .string fingerprint)])))

/-- The offset of a cursor, if it belongs to a revision and a query. -/
def decodeCursor (cursor : String) (revision : Nat) (fingerprint : String) :
    Except SearchFailure Nat :=
  if cursor = "" then .error (.refused "cursor-invalid" "cursor must be a non-empty string")
  else if cursor.toList.any fun char => decide (128 ≤ char.toNat) then
    .error (.refused "cursor-invalid" "cursor is not readable")
  else
    match (Base64.urlsafeDecode cursor.toList).bind readDocument with
    | none => .error (.refused "cursor-invalid" "cursor is not readable")
    | some (.object members) =>
      if !((Json.field members "v").getD .null).equalsInt version then
        .error (.refused "cursor-invalid" "cursor version is not recognised")
      else
        match Json.field members "o" with
        | some (.int offset) =>
          if offset < 0 then .error (.refused "cursor-invalid" "cursor offset is invalid")
          else
            match Json.field members "q" with
            | some (.string query) =>
              if query ≠ fingerprint then
                .error (.refused "cursor-mismatch" "cursor belongs to a different query")
              else if !((Json.field members "r").getD .null).equalsInt revision then
                .error (.refused "cursor-stale" "the index changed; restart the query")
              else .ok offset.toNat
            | _ => .error (.refused "cursor-mismatch" "cursor belongs to a different query")
        | _ => .error (.refused "cursor-invalid" "cursor offset is invalid")
    | some _ => .error (.refused "cursor-invalid" "cursor version is not recognised")

/-- A document is read back from its bytes. -/
theorem readDocument_documentBytes {document : Json Double} (readable : Json.Readable document) :
    readDocument (documentBytes document) = some document := by
  rw [readDocument, documentBytes, PyString.decodeUtf8_flatMap]
  change (PyString.chars? (PyString.ofChars (Json.dumps document))).bind Json.loads = _
  rw [PyString.chars?_ofChars]
  exact Json.loads_dumps readable

/-- A cursor is read back as its offset. -/
theorem decodeCursor_encodeCursor (revision offset : Nat) (fingerprint : String) :
    decodeCursor (encodeCursor revision offset fingerprint) revision fingerprint = .ok offset := by
  have readable : Json.Readable (.object [("v", .int version), ("r", .int revision),
      ("o", .int offset), ("q", .string fingerprint)] : Json Double) :=
    ⟨by simp, by simp [Json.Readable, Json.ReadableMembers]⟩
  have ascii : (encodeCursor revision offset fingerprint).toList.any
      (fun char => decide (128 ≤ char.toNat)) = false := by
    rw [encodeCursor, String.toList_ofList, List.any_eq_false]
    intro char member
    obtain ⟨plain, inside, rfl⟩ := List.mem_map.mp member
    have small := Base64.urlChar_ascii (Base64.mem_encode _ plain inside)
    simpa using small
  have filled : encodeCursor revision offset fingerprint ≠ "" := by
    intro empty
    have read := Base64.urlsafeDecode_urlsafeEncode (documentBytes (.object [("v", .int version),
      ("r", .int revision), ("o", .int offset), ("q", .string fingerprint)]))
    have none := congrArg String.toList empty
    rw [encodeCursor, String.toList_ofList] at none
    rw [none] at read
    have back := readDocument_documentBytes readable
    rw [← Option.some.inj read] at back
    cases back
  rw [decodeCursor, if_neg filled, ascii, if_neg Bool.false_ne_true, encodeCursor, String.toList_ofList,
    Base64.urlsafeDecode_urlsafeEncode, Option.bind_some, readDocument_documentBytes readable]
  simp [Json.field, Json.equalsInt, version]

end Cursor

end Omnitensor
