/-
This file proves that a JSON document is read back from its text.

A document whose objects repeat no key, and whose strings hold no character in two halves, is read
from its own text wherever a value may end, and so from the whole of a file. The argument follows
the document: strings code point by code point, numbers by their numerals, arrays and objects by
their members. The text with the keys of every object in order takes as many bytes as the text
without.
-/

import Omnitensor.JsonText

namespace Omnitensor

namespace Json

variable {Real Text : Type}

/-! ### Strings -/

theorem hexValue_digitChar : ∀ digit < 16, hexValue (Nat.digitChar digit) = some digit := by decide

theorem unitValue_unitText {unit : Nat} (small : unit < 65536) :
    unitValue (Nat.digitChar (unit / 4096 % 16)) (Nat.digitChar (unit / 256 % 16))
      (Nat.digitChar (unit / 16 % 16)) (Nat.digitChar (unit % 16)) = some unit := by
  have digits (value : Nat) : hexValue (Nat.digitChar (value % 16)) = some (value % 16) :=
    hexValue_digitChar _ (Nat.mod_lt _ (by decide))
  simp only [unitValue, digits, Option.bind_eq_bind, Option.bind_some, Option.pure_def,
    Option.some.injEq]
  omega

/-- A code unit is read as its code point. -/
theorem scanString_unitText {unit : Nat} (small : unit < 65536) (rest : List Char) :
    scanString (unitText unit ++ rest) =
      (scanString rest).map fun scanned => (attach (.ofUnit unit) scanned.1, scanned.2) := by
  simp only [unitText, List.cons_append, List.nil_append, scanString, unitValue_unitText small]

variable {text : PyString} {char : Char} {high low : Fin 2048}
  {members : List (Text × Json Real Text)} {value : Json Real Text}

/-- A character that is written as it is, and is neither quote nor backslash, is read as it is. -/
theorem scanString_printable (plain : printable char = true) (notQuote : char ≠ '"')
    (notSlash : char ≠ '\\') (rest : List Char) :
    scanString (char :: rest) =
      (scanString rest).map fun scanned => (.scalar char :: scanned.1, scanned.2) := by
  have shown : ¬ char.toNat < 32 := by
    simp only [printable, Bool.and_eq_true, decide_eq_true_eq] at plain
    omega
  rw [scanString.eq_def]
  split
  · rename_i impossible
    cases impossible
  · rename_i same
    exact absurd (List.cons.inj same).1 notQuote
  · rename_i same
    exact absurd (List.cons.inj same).1 notSlash
  · rename_i same
    exact absurd (List.cons.inj same).1 notSlash
  · rename_i same
    obtain ⟨rfl, rfl⟩ := List.cons.inj same
    rw [if_neg shown]

/-- A scalar value is no half. -/
theorem highHalf_scalar (char : Char) : highHalf (CodePoint.scalar char).value = false := by
  have valid := char.valid
  simp only [UInt32.isValidChar, Nat.isValidChar, Char.toNat_val] at valid
  show highHalf char.toNat = false
  simp only [highHalf, Bool.and_eq_false_iff, decide_eq_false_iff_not]
  omega

theorem attach_of_not_high {point : CodePoint} (other : highHalf point.value = false)
    (text : PyString) : attach point text = point :: text := by
  cases text with
  | nil => rfl
  | cons next text => rw [attach, other, Bool.false_and, if_neg Bool.false_ne_true]

/-- The character of two halves. -/
def pairChar (high low : Fin 2048) : Char := Char.ofNat (65536 + 1024 * high.val + (low.val - 1024))

theorem toNat_pairChar (first : high.val < 1024) :
    (pairChar high low).toNat = 65536 + 1024 * high.val + (low.val - 1024) := by
  rw [pairChar, Char.toNat_ofNat, if_pos (Or.inr ⟨by omega, by omega⟩)]

/-- Two points in front of a string stay, or they are the halves of a character. -/
theorem attach_cons (point next : CodePoint) (text : PyString) :
    ((highHalf point.value && lowHalf next.value) = false ∧
      attach point (next :: text) = point :: next :: text) ∨
    ∃ high low : Fin 2048, high.val < 1024 ∧ 1024 ≤ low.val ∧ point = .surrogate high ∧
      next = .surrogate low ∧ attach point (next :: text) = .scalar (pairChar high low) :: text := by
  cases halves : highHalf point.value && lowHalf next.value with
  | false => exact Or.inl ⟨rfl, by rw [attach, halves, if_neg Bool.false_ne_true]⟩
  | true =>
    obtain ⟨first, second⟩ := Bool.and_eq_true_iff.mp halves
    match point, next with
    | .scalar char, _ =>
      rw [highHalf_scalar] at first
      cases first
    | .surrogate _, .scalar char =>
      have valid := char.valid
      simp only [UInt32.isValidChar, Nat.isValidChar, Char.toNat_val] at valid
      change lowHalf char.toNat = true at second
      simp only [lowHalf, Bool.and_eq_true, decide_eq_true_eq] at second
      omega
    | .surrogate high, .surrogate low =>
      change highHalf (55296 + high) = true at first
      change lowHalf (55296 + low) = true at second
      simp only [highHalf, lowHalf, Bool.and_eq_true, decide_eq_true_eq] at first second
      have number : 65536 + 1024 * (55296 + high.val - 55296) + (55296 + low.val - 56320) =
        65536 + 1024 * high.val + (low.val - 1024) := by omega
      refine Or.inr ⟨high, low, by omega, by omega, rfl, rfl, ?_⟩
      rw [attach, if_pos halves, pairChar, ← number]
      rfl

theorem attach_halves (_ : high.val < 1024) (_ : 1024 ≤ low.val) (text : PyString) :
    attach (.surrogate high) (attach (.surrogate low) text) =
      .scalar (pairChar high low) :: text := by
  have later : highHalf (55296 + low) = false := by
    simp only [highHalf, Bool.and_eq_false_iff, decide_eq_false_iff_not]
    omega
  rw [@attach_of_not_high (.surrogate low) later]
  rcases attach_cons (.surrogate high) (.surrogate low) text with ⟨apart, _⟩ |
    ⟨_, _, _, _, ⟨⟩, ⟨⟩, joined⟩
  · change (highHalf (55296 + high) && lowHalf (55296 + low)) = false at apart
    simp only [highHalf, lowHalf, Bool.and_eq_false_iff, decide_eq_false_iff_not] at apart
    omega
  · exact joined

theorem escapeChar_of_large (large : 65536 ≤ char.toNat) :
    escapeChar char = unitText (55296 + (char.toNat - 65536) / 1024) ++
      unitText (56320 + (char.toNat - 65536) % 1024) := by
  have other {special : Char} (small : special.toNat < 65536) : char ≠ special := by
    rintro rfl
    omega
  have shown : printable char = false := by
    simp only [printable, Bool.and_eq_false_iff, decide_eq_false_iff_not]
    omega
  rw [escapeChar, if_neg (other (by decide)), if_neg (other (by decide)), if_neg (other (by decide)),
    if_neg (other (by decide)), if_neg (other (by decide)), if_neg (other (by decide)),
    if_neg (other (by decide)), shown, if_neg Bool.false_ne_true, if_neg (by omega)]

theorem escapeChar_pairChar (first : high.val < 1024) (second : 1024 ≤ low.val) :
    escapeChar (pairChar high low) =
      escapePoint (.surrogate high) ++ escapePoint (.surrogate low) := by
  have number : (pairChar high low).toNat = 65536 + 1024 * high.val + (low.val - 1024) :=
    toNat_pairChar first
  have before : (65536 + 1024 * high.val + (low.val - 1024) - 65536) / 1024 = high.val := by omega
  have after : 56320 + (65536 + 1024 * high.val + (low.val - 1024) - 65536) % 1024 =
    55296 + low.val := by omega
  rw [escapeChar_of_large (by omega), number, before, after, escapePoint, escapePoint]

/-- Whatever stands for a code point in a string is read as the code point. -/
theorem scanString_escapePoint (point : CodePoint) (rest : List Char) :
    scanString (escapePoint point ++ rest) =
      (scanString rest).map fun scanned => (attach point scanned.1, scanned.2) := by
  cases point with
  | surrogate half => rw [escapePoint, scanString_unitText (by omega), CodePoint.ofUnit_half]
  | scalar char =>
    have valid := char.valid
    simp only [UInt32.isValidChar, Nat.isValidChar, Char.toNat_val] at valid
    rw [escapePoint]
    by_cases large : 65536 ≤ char.toNat
    · obtain ⟨high, first⟩ : ∃ high : Fin 2048, high.val = (char.toNat - 65536) / 1024 :=
        ⟨⟨_, by omega⟩, rfl⟩
      obtain ⟨low, second⟩ : ∃ low : Fin 2048, low.val = 1024 + (char.toNat - 65536) % 1024 :=
        ⟨⟨_, by omega⟩, rfl⟩
      have same : char = pairChar high low := by
        rw [← Char.toNat_inj, toNat_pairChar (by omega)]
        omega
      rw [same, escapeChar_pairChar (by omega) (by omega), escapePoint, escapePoint, List.append_assoc,
        scanString_unitText (by omega), scanString_unitText (by omega), CodePoint.ofUnit_half,
        CodePoint.ofUnit_half, Option.map_map]
      refine congrArg (Option.map · _) (funext fun scanned => ?_)
      rw [Function.comp_apply, attach_halves (by omega) (by omega),
        attach_of_not_high (highHalf_scalar _)]
    simp only [attach_of_not_high (highHalf_scalar _)]
    unfold escapeChar
    split
    · subst char
      rfl
    split
    · subst char
      rfl
    split
    · subst char
      rfl
    split
    · subst char
      rfl
    split
    · subst char
      rfl
    split
    · subst char
      rfl
    split
    · subst char
      rfl
    rename_i notQuote notSlash _ _ _ _ _
    split
    · rename_i plain
      exact scanString_printable plain notQuote notSlash rest
    · rw [if_pos (by omega), scanString_unitText (by omega), CodePoint.ofUnit_toNat]
      simp only [attach_of_not_high (highHalf_scalar _)]

/-- A string as it is read back: halves of a character next to each other are the character. -/
def joined (text : PyString) : PyString := text.foldr attach []

/-- A string that holds no character as two halves next to each other. -/
def Whole (text : PyString) : Prop :=
  text.IsChain fun first second => (highHalf first.value && lowHalf second.value) = false

instance (text : PyString) : Decidable (Whole text) :=
  inferInstanceAs (Decidable (List.IsChain _ text))

theorem whole_scalar (whole : Whole text) : Whole (.scalar char :: text) := by
  cases text with
  | nil => exact List.isChain_singleton _
  | cons next text =>
    exact List.isChain_cons_cons.mpr ⟨by rw [highHalf_scalar, Bool.false_and], whole⟩

theorem whole_attach (point : CodePoint) (whole : Whole text) : Whole (attach point text) := by
  cases text with
  | nil => exact List.isChain_singleton _
  | cons next text =>
    rcases attach_cons point next text with ⟨apart, same⟩ | ⟨high, low, _, _, _, _, same⟩
    · rw [same]
      exact List.isChain_cons_cons.mpr ⟨apart, whole⟩
    · rw [same]
      exact whole_scalar whole.of_cons

theorem whole_joined (text : PyString) : Whole (joined text) := by
  induction text with
  | nil => exact List.isChain_nil
  | cons point text inductionHypothesis => exact whole_attach point inductionHypothesis

theorem joined_of_whole (whole : Whole text) : joined text = text := by
  induction text with
  | nil => rfl
  | cons point text inductionHypothesis =>
    have rest := inductionHypothesis whole.of_cons
    rw [joined, List.foldr_cons]
    change attach point (joined text) = _
    rw [rest]
    cases text with
    | nil => rfl
    | cons next text => rw [attach, (List.isChain_cons_cons.mp whole).1, if_neg Bool.false_ne_true]

/-- A string is read back as it is exactly if it is whole. -/
theorem joined_eq_iff : joined text = text ↔ Whole text :=
  ⟨fun same => same ▸ whole_joined text, joined_of_whole⟩

theorem length_attach_le (point : CodePoint) (text : PyString) :
    (attach point text).length ≤ text.length + 1 := by
  cases text with
  | nil => exact Nat.le_refl _
  | cons next text =>
    rw [attach]
    split
    · exact Nat.le_succ _
    · exact Nat.le_refl _

theorem length_joined_le (text : PyString) : (joined text).length ≤ text.length := by
  induction text with
  | nil => exact Nat.le_refl _
  | cons point text inductionHypothesis =>
    exact (length_attach_le point _).trans (Nat.succ_le_succ inductionHypothesis)

/-- The text of a string tells no character from its halves. -/
theorem flatMap_joined (text : PyString) :
    (joined text).flatMap escapePoint = text.flatMap escapePoint := by
  induction text with
  | nil => rfl
  | cons point text inductionHypothesis =>
    rw [List.flatMap_cons, ← inductionHypothesis]
    show (attach point (joined text)).flatMap escapePoint = _
    cases joined text with
    | nil => rfl
    | cons next text =>
      rcases attach_cons point next text with ⟨_, same⟩ |
        ⟨high, low, first, second, rfl, rfl, same⟩
      · rw [same, List.flatMap_cons]
      · rw [same, List.flatMap_cons, List.flatMap_cons, ← List.append_assoc,
          ← escapeChar_pairChar first second]
        rfl

theorem stringText_joined (text : PyString) : stringText (joined text) = stringText text :=
  congrArg (· ++ ['"']) (flatMap_joined text)

theorem scanString_flatMap (text : PyString) (rest : List Char) :
    scanString (text.flatMap escapePoint ++ '"' :: rest) = some (joined text, rest) := by
  induction text with
  | nil => rfl
  | cons point text inductionHypothesis =>
    rw [List.flatMap_cons, List.append_assoc, scanString_escapePoint, inductionHypothesis]
    rfl

theorem whole_scanString {text rest : List Char} {points : PyString}
    (scanned : scanString text = some (points, rest)) : Whole points := by
  fun_induction scanString text generalizing points rest with
  | case1 => cases scanned
  | case2 =>
    cases scanned
    exact List.isChain_nil
  | case3 => cases scanned
  | case4 _ _ _ _ _ _ _ inductionHypothesis =>
    obtain ⟨⟨others, _⟩, read, ⟨⟩⟩ := Option.map_eq_some_iff.mp scanned
    exact whole_attach _ (inductionHypothesis read)
  | case5 => cases scanned
  | case6 _ _ _ _ _ inductionHypothesis =>
    obtain ⟨⟨others, _⟩, read, ⟨⟩⟩ := Option.map_eq_some_iff.mp scanned
    exact whole_scalar (inductionHypothesis read)
  | case7 => cases scanned
  | case8 _ _ _ _ _ _ inductionHypothesis =>
    obtain ⟨⟨others, _⟩, read, ⟨⟩⟩ := Option.map_eq_some_iff.mp scanned
    exact whole_scalar (inductionHypothesis read)

/-- A whole string is read back. -/
theorem scanText_stringText [JsonString Text] {text : Text} (whole : Whole (JsonString.points text))
    (rest : List Char) : scanText (stringText text ++ rest) = some (text, rest) := by
  rw [stringText, List.append_assoc, scanText, List.singleton_append, scanString_flatMap,
    joined_of_whole whole, Option.bind_eq_bind, Option.bind_some]
  dsimp only
  rw [(JsonString.ofPoints_eq_some _ text).mpr rfl]
  rfl

theorem whole_scanText [JsonString Text] {text rest : List Char} {read : Text}
    (scanned : scanText text = some (read, rest)) : Whole (JsonString.points read) := by
  simp only [scanText, Option.bind_eq_bind, Option.bind_eq_some_iff, Option.pure_def,
    Option.some.injEq, Prod.exists, Prod.mk.injEq] at scanned
  obtain ⟨points, _, scanned, _, same, rfl, _⟩ := scanned
  exact (JsonString.ofPoints_eq_some points _).mp same ▸ whole_scanString scanned

@[simp] theorem whole_ofString (text : String) : Whole (PyString.ofString text) := by
  rw [PyString.ofString]
  induction text.toList with
  | nil => exact List.isChain_nil
  | cons char chars inductionHypothesis => exact whole_scalar inductionHypothesis

@[simp] theorem points_pyString (text : PyString) : JsonString.points text = text := rfl

@[simp] theorem whole_points (text : String) : Whole (JsonString.points text) := whole_ofString text

/-! ### Values -/

section

variable [JsonString Text]

mutual

/-- No object of a document repeats a key, and its strings are whole. -/
def Readable : Json Real Text → Prop
  | .string text => Whole (JsonString.points text)
  | .array items => ReadableItems items
  | .object members => (members.map Prod.fst).Nodup ∧ ReadableMembers members
  | _ => True

/-- The items are readable. -/
def ReadableItems : List (Json Real Text) → Prop
  | [] => True
  | item :: items => Readable item ∧ ReadableItems items

/-- The keys are whole and the values are readable. -/
def ReadableMembers : List (Text × Json Real Text) → Prop
  | [] => True
  | (key, value) :: members =>
    (Whole (JsonString.points key) ∧ Readable value) ∧ ReadableMembers members

end

theorem readable_nil : Readable (.object [] : Json Real Text) := ⟨List.nodup_nil, trivial⟩

theorem readableItems_iff {items : List (Json Real Text)} :
    ReadableItems items ↔ ∀ item ∈ items, Readable item := by
  induction items with
  | nil => simp [ReadableItems]
  | cons item items inductionHypothesis => simp [ReadableItems, inductionHypothesis]

variable {members : List (Text × Json Real Text)}

theorem readableMembers_iff :
    ReadableMembers members ↔
      ∀ member ∈ members, Whole (JsonString.points member.1) ∧ Readable member.2 := by
  induction members with
  | nil => simp [ReadableMembers]
  | cons member members inductionHypothesis => simp [ReadableMembers, inductionHypothesis]

variable [DecidableEq Text]

omit [JsonString Text] in
theorem ofMembers_of_nodup (nodup : (members.map Prod.fst).Nodup) :
    ofMembers members = .object members := by
  rw [ofMembers, Dict.entries_foldl_set (by simpa using nodup)]
  rfl

/-- An object of readable members is readable, whatever keys repeat among them. -/
theorem readable_ofMembers (readable : ReadableMembers members) : Readable (ofMembers members) := by
  rw [readableMembers_iff] at readable
  suffices kept : ∀ (dict : Dict Text (Json Real Text)),
      (∀ entry ∈ dict.entries, Whole (JsonString.points entry.1) ∧ Readable entry.2) →
      ∀ entry ∈ (members.foldl (fun dict member => Dict.set dict member.1 member.2) dict).entries,
        Whole (JsonString.points entry.1) ∧ Readable entry.2 from
    ⟨Dict.nodup_keys _, readableMembers_iff.mpr
      (kept Dict.empty fun entry impossible => by cases impossible)⟩
  intro dict before
  induction members generalizing dict with
  | nil => exact before
  | cons member members inductionHypothesis =>
    refine inductionHypothesis (fun other among => readable other (List.mem_cons_of_mem _ among)) _
      fun entry among => ?_
    rcases Dict.mem_entries_of_set among with rfl | old
    · exact readable member List.mem_cons_self
    · exact before entry old

end

section

variable [FloatText Real] [JsonString Text]

theorem numeral_head {numeral : Numeral} (valid : numeral.WellFormed) :
    ∃ first rest, numeral.text = first :: rest ∧ (first = '-' ∧ numeral.negative = true ∧
      (∃ digit tail, rest = digit :: tail ∧ Numeral.digit digit = true) ∨
        Numeral.digit first = true) := by
  have whole : ∃ first others, numeral.whole = first :: others ∧ Numeral.digit first = true := by
    rcases valid.whole with same | ⟨first, others, same, _, all⟩
    · exact ⟨'0', [], same, rfl⟩
    · exact ⟨first, others, same, all first (by rw [same]; exact List.mem_cons_self)⟩
  obtain ⟨first, others, same, isDigit⟩ := whole
  cases negative : numeral.negative with
  | true =>
    exact ⟨'-', _, by rw [Numeral.text, negative, if_pos rfl, List.singleton_append],
      Or.inl ⟨rfl, rfl, first, _, by rw [same, List.cons_append], isDigit⟩⟩
  | false =>
    exact ⟨first, _, by
      rw [Numeral.text, negative, if_neg Bool.false_ne_true, List.nil_append, same,
        List.cons_append], Or.inr isDigit⟩

/-- No value begins with a space or a closing bracket. -/
theorem head_dumps (value : Json Real Text) : ∃ first rest, dumps value = first :: rest ∧
    space first = false ∧ first ≠ ']' := by
  have numeral {numeral : Numeral} (valid : numeral.WellFormed) : ∃ first rest,
      numeral.text = first :: rest ∧ space first = false ∧ first ≠ ']' := by
    obtain ⟨first, rest, same, ⟨rfl, _⟩ | isDigit⟩ := numeral_head valid
    · exact ⟨_, rest, same, rfl, by decide⟩
    · refine ⟨first, rest, same, ?_, Numeral.ne_of_digit isDigit rfl⟩
      have notSpace : first ≠ ' ' := Numeral.ne_of_digit isDigit rfl
      have notTab : first ≠ '\t' := Numeral.ne_of_digit isDigit rfl
      have notLine : first ≠ '\n' := Numeral.ne_of_digit isDigit rfl
      have notReturn : first ≠ '\r' := Numeral.ne_of_digit isDigit rfl
      simp [space, notSpace, notTab, notLine, notReturn]
  cases value with
  | null => exact ⟨_, _, by rw [dumps], rfl, by decide⟩
  | bool value => cases value <;> exact ⟨_, _, by rw [dumps], rfl, by decide⟩
  | int value =>
    rw [dumps]
    exact numeral (Numeral.wellFormed_ofInt value)
  | float value =>
    rw [dumps]
    exact numeral (FloatText.wellFormed value)
  | constant value => cases value <;> exact ⟨_, _, by rw [dumps]; rfl, rfl, by decide⟩
  | string text => exact ⟨_, _, by rw [dumps], rfl, by decide⟩
  | array items => cases items <;> exact ⟨_, _, by rw [dumps], rfl, by decide⟩
  | object members =>
    match members with
    | [] => exact ⟨_, _, by rw [dumps], rfl, by decide⟩
    | (key, value) :: members => exact ⟨_, _, by rw [dumps], rfl, by decide⟩

theorem skipSpace_dumps (value : Json Real Text) (rest : List Char) :
    skipSpace (dumps value ++ rest) = dumps value ++ rest := by
  obtain ⟨first, tail, same, notSpace, _⟩ := head_dumps value
  rw [same, List.cons_append, skipSpace, List.dropWhile_cons, notSpace]
  rfl

theorem ends_dumpsItems (items : List (Json Real Text)) (rest : List Char) :
    Numeral.Ends (dumpsItems items ++ rest) := by
  cases items <;> exact Numeral.ends_cons (by decide)

theorem ends_dumpsMembers (members : List (Text × Json Real Text)) (rest : List Char) :
    Numeral.Ends (dumpsMembers members ++ rest) := by
  match members with
  | [] => exact Numeral.ends_cons (by decide)
  | (_, _) :: _ => exact Numeral.ends_cons (by decide)

theorem skipSpace_cons {char : Char} (notSpace : space char = false) (rest : List Char) :
    skipSpace (char :: rest) = char :: rest := by
  rw [skipSpace, List.dropWhile_cons, notSpace]
  rfl

theorem length_dumps_pos (value : Json Real Text) : 0 < (dumps value).length := by
  obtain ⟨first, rest, same, _⟩ := head_dumps value
  rw [same]
  exact Nat.succ_pos _

variable {items others : List (Json Real Text)}

theorem dumpsItems_congr (same : items.map dumps = others.map dumps) :
    dumpsItems items = dumpsItems others := by
  induction items generalizing others with
  | nil => rw [List.map_eq_nil_iff.mp same.symm]
  | cons item items inductionHypothesis =>
    obtain ⟨other, others, rfl, first, rest⟩ := List.map_eq_cons_iff.mp same.symm
    rw [dumpsItems, dumpsItems, first, inductionHypothesis rest.symm]

/-- The text of an array is made of the texts of its items. -/
theorem dumps_array_congr (same : items.map dumps = others.map dumps) :
    dumps (.array items) = dumps (.array others) := by
  cases items with
  | nil => rw [List.map_eq_nil_iff.mp same.symm]
  | cons item items =>
    obtain ⟨other, others, rfl, first, rest⟩ := List.map_eq_cons_iff.mp same.symm
    rw [dumps, dumps, first, dumpsItems_congr rest.symm]

/-- The texts of a member of an object. -/
def memberTexts (member : Text × Json Real Text) : List Char × List Char :=
  (stringText member.1, dumps member.2)

theorem dumpsMembers_congr {members others : List (Text × Json Real Text)}
    (same : members.map memberTexts = others.map memberTexts) :
    dumpsMembers members = dumpsMembers others := by
  induction members generalizing others with
  | nil => rw [List.map_eq_nil_iff.mp same.symm]
  | cons member members inductionHypothesis =>
    obtain ⟨other, others, rfl, first, rest⟩ := List.map_eq_cons_iff.mp same.symm
    obtain ⟨key, value⟩ := Prod.mk.inj first
    rw [dumpsMembers, dumpsMembers, key, value, inductionHypothesis rest.symm]

/-- The text of an object is made of the texts of its members. -/
theorem dumps_object_congr {members others : List (Text × Json Real Text)}
    (same : members.map memberTexts = others.map memberTexts) :
    dumps (.object members) = dumps (.object others) := by
  cases members with
  | nil => rw [List.map_eq_nil_iff.mp same.symm]
  | cons member members =>
    obtain ⟨other, others, rfl, first, rest⟩ := List.map_eq_cons_iff.mp same.symm
    obtain ⟨key, value⟩ := Prod.mk.inj first
    rw [dumps, dumps, key, value, dumpsMembers_congr rest.symm]

section

variable [DecidableEq Text]

/-- A number is read by its numeral. -/
theorem scanOnce_numeral {numeral : Numeral} (valid : numeral.WellFormed) {rest : List Char}
    (ends : Numeral.Ends rest) (fuel : Nat) :
    scanOnce (fuel + 1) (numeral.text ++ rest) =
      some ((ofNumeral numeral : Json Real Text), rest) := by
  have scanned := Numeral.scan_text_append valid ends
  obtain ⟨first, tail, same, shape⟩ := numeral_head valid
  rw [same] at scanned ⊢
  have read : scanOnce (fuel + 1) (first :: tail ++ rest) =
      (Numeral.scan (first :: tail ++ rest)).map fun scanned =>
        ((ofNumeral scanned.1 : Json Real Text), scanned.2) := by
    rw [scanOnce.eq_def]
    dsimp only
    rcases shape with ⟨rfl, _, digit, others, rfl, isDigit⟩ | isDigit
    · rw [List.cons_append, List.cons_append]
      split
      case h_9 =>
        rename_i letters
        have letter := (List.cons.inj (List.cons.inj letters).2).1
        exact absurd letter (Numeral.ne_of_digit isDigit rfl)
      case h_10 => rfl
      all_goals
        rename_i letters
        exact absurd (List.cons.inj letters).1 (by decide)
    · have other {letter : Char} (notDigit : Numeral.digit letter = false) : first ≠ letter :=
        Numeral.ne_of_digit isDigit notDigit
      rw [List.cons_append]
      split
      case h_10 => rfl
      all_goals
        rename_i letters
        exact absurd (List.cons.inj letters).1 (other rfl)
  rw [read, scanned]
  rfl

theorem scanMembers_key {key : Text} (whole : Whole (JsonString.points key)) (fuel : Nat) (rest : List Char) :
    scanMembers (fuel + 1) ('"' :: (stringText key ++ ':' :: rest)) =
      match (scanOnce fuel (skipSpace rest) : Option (Json Real Text × List Char)) with
      | none => none
      | some (value, rest) =>
        match skipSpace rest with
        | '}' :: rest => some ([(key, value)], rest)
        | ',' :: rest =>
          (scanMembers fuel (skipSpace rest)).map fun (members, rest) =>
            ((key, value) :: members, rest)
        | _ => none := by
  have colon : skipSpace (':' :: rest) = ':' :: rest := skipSpace_cons rfl rest
  rw [scanMembers, scanText_stringText whole]
  dsimp only
  rw [colon]
  rfl

mutual

/-- A document is read from its text wherever a value may end. -/
theorem scanOnce_dumps : ∀ (value : Json Real Text), Readable value → ∀ (fuel : Nat) (rest : List Char),
    (dumps value).length ≤ fuel → Numeral.Ends rest →
      scanOnce fuel (dumps value ++ rest) = some (value, rest)
  | value, _, 0, _, enough, _ => absurd enough (by have := length_dumps_pos value; omega)
  | .null, _, fuel + 1, rest, _, _ => rfl
  | .bool true, _, fuel + 1, rest, _, _ => rfl
  | .bool false, _, fuel + 1, rest, _, _ => rfl
  | .int value, _, fuel + 1, rest, _, ends => by
    rw [dumps, scanOnce_numeral (Numeral.wellFormed_ofInt value) ends, ofNumeral,
      Numeral.fractional_ofInt, Numeral.toInt_ofInt]
    rfl
  | .float value, _, fuel + 1, rest, _, ends => by
    rw [dumps, scanOnce_numeral (FloatText.wellFormed value) ends, ofNumeral,
      FloatText.fractional, FloatText.ofNumeral_numeral]
    rfl
  | .constant value, _, fuel + 1, rest, _, _ => by cases value <;> rfl
  | .string text, whole, fuel + 1, rest, _, _ => by
    rw [dumps, List.cons_append]
    show (scanText (stringText text ++ rest)).map _ = _
    rw [scanText_stringText whole]
    rfl
  | .array [], _, fuel + 1, rest, _, _ => rfl
  | .array (item :: items), distinct, fuel + 1, rest, enough, _ => by
    rw [dumps, List.length_cons] at enough
    have read := scanItems_dumps (item :: items) distinct fuel rest item items rfl (by omega)
    obtain ⟨first, tail, same, notSpace, notBracket⟩ := head_dumps item
    rw [dumps, List.cons_append]
    rw [same, List.append_assoc, List.cons_append] at read ⊢
    rw [scanOnce]
    dsimp only
    rw [skipSpace_cons notSpace]
    split
    · rename_i closing
      exact absurd (List.cons.inj closing).1 notBracket
    · rw [read]
      rfl
  | .object [], _, fuel + 1, rest, _, _ => rfl
  | .object ((key, value) :: members), distinct, fuel + 1, rest, enough, _ => by
    rw [dumps, List.length_cons, List.length_cons] at enough
    have read := scanMembers_dumps ((key, value) :: members) distinct.2 fuel rest key value members
      rfl (by rw [List.length_cons]; omega)
    rw [dumps, List.cons_append, List.cons_append]
    show (scanMembers fuel ('"' :: _)).map _ = _
    rw [List.cons_append] at read
    rw [read, Option.map_some]
    dsimp only
    rw [ofMembers_of_nodup distinct.1]

/-- The items of an array are read up to its closing bracket. -/
theorem scanItems_dumps : ∀ (all : List (Json Real Text)), ReadableItems all →
    ∀ (fuel : Nat) (rest : List Char) (item : Json Real Text) (items : List (Json Real Text)),
    all = item :: items → (dumps item ++ dumpsItems items).length ≤ fuel →
      scanItems fuel (dumps item ++ dumpsItems items ++ rest) = some (item :: items, rest)
  | item :: _, _, 0, rest, _, _, rfl, enough => absurd enough (by
      have := length_dumps_pos item
      rw [List.length_append]
      omega)
  | item :: [], distinct, fuel + 1, rest, _, _, rfl, enough => by
    rw [List.length_append, dumpsItems, List.length_singleton] at enough
    have read := scanOnce_dumps item distinct.1 fuel (']' :: rest) (by omega)
      (Numeral.ends_cons (by decide))
    rw [scanItems, List.append_assoc, dumpsItems, List.singleton_append, read]
    rfl
  | item :: next :: items, distinct, fuel + 1, rest, _, _, rfl, enough => by
    have positive := length_dumps_pos item
    rw [List.length_append, dumpsItems, List.length_cons] at enough
    have read := scanOnce_dumps item distinct.1 fuel (dumpsItems (next :: items) ++ rest) (by omega)
      (ends_dumpsItems (next :: items) rest)
    have others := scanItems_dumps (next :: items) distinct.2 fuel rest next items rfl (by omega)
    have spaced : skipSpace (dumps next ++ (dumpsItems items ++ rest)) =
      dumps next ++ (dumpsItems items ++ rest) := skipSpace_dumps next _
    rw [List.append_assoc] at others
    rw [scanItems, List.append_assoc, read, dumpsItems, List.cons_append, List.append_assoc]
    show (scanItems fuel (skipSpace _)).map _ = _
    rw [spaced, others]
    rfl

/-- The members of an object are read up to its closing brace. -/
theorem scanMembers_dumps : ∀ (all : List (Text × Json Real Text)), ReadableMembers all →
    ∀ (fuel : Nat) (rest : List Char) (key : Text) (value : Json Real Text)
      (members : List (Text × Json Real Text)), all = (key, value) :: members →
      ('"' :: (stringText key ++ ':' :: (dumps value ++ dumpsMembers members))).length ≤ fuel →
      scanMembers fuel
        ('"' :: (stringText key ++ ':' :: (dumps value ++ dumpsMembers members)) ++ rest) =
          some ((key, value) :: members, rest)
  | _, _, 0, rest, _, _, _, _, enough => absurd enough (by rw [List.length_cons]; omega)
  | (key, value) :: [], distinct, fuel + 1, rest, _, _, _, rfl, enough => by
    simp only [List.length_cons, List.length_append, dumpsMembers, List.length_nil] at enough
    have read := scanOnce_dumps value distinct.1.2 fuel ('}' :: rest) (by omega)
      (Numeral.ends_cons (by decide))
    have spaced : skipSpace (dumps value ++ '}' :: rest) = dumps value ++ '}' :: rest :=
      skipSpace_dumps value _
    rw [dumpsMembers, List.cons_append, List.append_assoc, List.cons_append, List.append_assoc,
      List.singleton_append]
    rw [scanMembers_key distinct.1.1, spaced, read]
    rfl
  | (key, value) :: (nextKey, next) :: members, distinct, fuel + 1, rest, _, _, _, rfl,
      enough => by
    have enough : (dumps value).length + (1 + ('"' :: (stringText nextKey ++
        ':' :: (dumps next ++ dumpsMembers members))).length) ≤ fuel := by
      simp only [List.length_cons, List.length_append, dumpsMembers] at enough ⊢
      omega
    have read := scanOnce_dumps value distinct.1.2 fuel
      (dumpsMembers ((nextKey, next) :: members) ++ rest) (by omega) (ends_dumpsMembers _ rest)
    have others := scanMembers_dumps ((nextKey, next) :: members) distinct.2 fuel rest nextKey next
      members rfl (by omega)
    have spaced : skipSpace (dumps value ++ (dumpsMembers ((nextKey, next) :: members) ++ rest)) =
      dumps value ++ (dumpsMembers ((nextKey, next) :: members) ++ rest) := skipSpace_dumps value _
    rw [List.cons_append, List.append_assoc, List.cons_append, List.append_assoc]
    rw [scanMembers_key distinct.1.1, spaced, read]
    show (scanMembers fuel (skipSpace ('"' :: _ ++ rest))).map _ = _
    rw [List.cons_append, skipSpace_cons rfl]
    rw [List.cons_append] at others
    rw [others]
    rfl

end

variable {value : Json Real Text}

/-- A document whose objects repeat no key is read back from its text. -/
theorem loads_dumps (distinct : Readable value) : loads (dumps value) = some value := by
  have read := scanOnce_dumps value distinct ((dumps value).length + 1) [] (Nat.le_succ _)
    Numeral.ends_nil
  have spaced := skipSpace_dumps value []
  rw [List.append_nil] at read spaced
  rw [loads, spaced, read]
  rfl

/-! ### What is read -/

/-- What is scanned repeats no key. -/
theorem readable_scan (fuel : Nat) :
    (∀ (text : List Char) (value : Json Real Text) (rest : List Char),
      scanOnce fuel text = some (value, rest) → Readable value) ∧
    (∀ (text : List Char) (items : List (Json Real Text)) (rest : List Char),
      scanItems fuel text = some (items, rest) → ReadableItems items) ∧
    ∀ (text : List Char) (members : List (Text × Json Real Text)) (rest : List Char),
      scanMembers fuel text = some (members, rest) → ReadableMembers members := by
  induction fuel with
  | zero =>
    exact ⟨fun _ _ _ scanned => by simp [scanOnce] at scanned,
      fun _ _ _ scanned => by simp [scanItems] at scanned,
      fun _ _ _ scanned => by simp [scanMembers] at scanned⟩
  | succ fuel inductionHypothesis =>
    obtain ⟨once, several, fields⟩ := inductionHypothesis
    refine ⟨fun text value rest scanned => ?_, fun text items rest scanned => ?_,
      fun text members rest scanned => ?_⟩
    · rw [scanOnce.eq_def] at scanned
      simp only at scanned
      split at scanned
      case h_2 =>
        split at scanned
        · cases scanned
          exact readable_nil
        · simp only [Option.map_eq_some_iff, Prod.exists, Prod.mk.injEq] at scanned
          obtain ⟨_, _, read, rfl, _⟩ := scanned
          exact readable_ofMembers (fields _ _ _ read)
      case h_3 =>
        split at scanned
        · cases scanned
          trivial
        · simp only [Option.map_eq_some_iff, Prod.exists, Prod.mk.injEq] at scanned
          obtain ⟨_, _, read, rfl, _⟩ := scanned
          exact several _ _ _ read
      case h_1 =>
        simp only [Option.map_eq_some_iff, Prod.exists, Prod.mk.injEq] at scanned
        obtain ⟨_, _, read, rfl, _⟩ := scanned
        exact whole_scanText read
      case h_10 =>
        simp only [Option.map_eq_some_iff, Prod.exists, Prod.mk.injEq] at scanned
        obtain ⟨numeral, _, _, rfl, _⟩ := scanned
        rw [ofNumeral]
        split
        · split <;> trivial
        · trivial
      all_goals
        cases scanned
        trivial
    · rw [scanItems] at scanned
      split at scanned
      · cases scanned
      · rename_i item left read
        split at scanned
        · cases scanned
          exact ⟨once _ _ _ read, trivial⟩
        · simp only [Option.map_eq_some_iff, Prod.exists, Prod.mk.injEq] at scanned
          obtain ⟨_, _, others, rfl, _⟩ := scanned
          exact ⟨once _ _ _ read, several _ _ _ others⟩
        · cases scanned
    · rw [scanMembers.eq_def] at scanned
      split at scanned
      · cases scanned
      · rename_i same
        obtain rfl := Nat.succ.inj same
        split at scanned
        · cases scanned
        · rename_i key
          split at scanned
          · split at scanned
            · cases scanned
            · rename_i read
              split at scanned
              · cases scanned
                exact ⟨⟨whole_scanText key, once _ _ _ read⟩, trivial⟩
              · simp only [Option.map_eq_some_iff, Prod.exists, Prod.mk.injEq] at scanned
                obtain ⟨_, _, others, rfl, _⟩ := scanned
                exact ⟨⟨whole_scanText key, once _ _ _ read⟩, fields _ _ _ others⟩
              · cases scanned
          · cases scanned
      · cases scanned

/-- A document that is read repeats no key. -/
theorem readable_loads {text : List Char} (read : loads text = some value) : Readable value := by
  rw [loads] at read
  split at read
  · rename_i scanned
    split at read
    · cases read
      exact (readable_scan _).1 _ _ _ scanned
    · cases read
  · cases read

end

/-! ### The order of keys -/

theorem byteLength_cons (char : Char) (text : List Char) :
    byteLength (char :: text) = char.utf8Size + byteLength text := List.sum_cons

theorem byteLength_append (first second : List Char) :
    byteLength (first ++ second) = byteLength first + byteLength second := by
  rw [byteLength, List.map_append, List.sum_append]
  rfl

/-- What a member takes of the text of an object, its comma included. -/
def memberLength (member : Text × Json Real Text) : Nat :=
  byteLength (stringText member.1) + byteLength (dumps member.2) + 3

theorem byteLength_dumpsMembers (members : List (Text × Json Real Text)) :
    byteLength (dumpsMembers members) = (members.map memberLength).sum + 1 := by
  induction members with
  | nil => rfl
  | cons member members inductionHypothesis =>
    obtain ⟨key, value⟩ := member
    have comma : Char.utf8Size ',' = 1 := rfl
    have quote : Char.utf8Size '"' = 1 := rfl
    have colon : Char.utf8Size ':' = 1 := rfl
    simp only [dumpsMembers, byteLength_cons, byteLength_append, inductionHypothesis, memberLength,
      List.map_cons, List.sum_cons]
    omega

theorem byteLength_dumps_object {members : List (Text × Json Real Text)} (some : members ≠ []) :
    byteLength (dumps (.object members)) = (members.map memberLength).sum + 1 := by
  match members with
  | [] => exact absurd rfl some
  | (key, value) :: members =>
    rw [← byteLength_dumpsMembers]
    rfl

theorem byteLength_dumps_object_perm {first second : List (Text × Json Real Text)}
    (same : (first.map memberLength).Perm (second.map memberLength)) :
    byteLength (dumps (.object first)) = byteLength (dumps (.object second)) := by
  have count := same.length_eq
  rw [List.length_map, List.length_map] at count
  by_cases empty : first = []
  · subst empty
    rw [List.length_eq_zero_iff.mp count.symm]
  · have other : second ≠ [] := by
      rintro rfl
      exact empty (List.length_eq_zero_iff.mp count)
    rw [byteLength_dumps_object empty, byteLength_dumps_object other, same.sum_nat]

section

variable [LE Text] [DecidableLE Text]

mutual

/-- The order of keys does not change the size of the text. -/
theorem byteLength_dumps_sortKeys : ∀ value : Json Real Text,
    byteLength (dumps (sortKeys value)) = byteLength (dumps value)
  | .null => rfl
  | .bool _ => rfl
  | .int _ => rfl
  | .float _ => rfl
  | .constant _ => rfl
  | .string _ => rfl
  | .array [] => rfl
  | .array (item :: items) => by
    rw [sortKeys, sortKeysItems, dumps, dumps, byteLength_cons, byteLength_cons,
      byteLength_append, byteLength_append, byteLength_dumps_sortKeys item,
      byteLength_dumpsItems_sortKeys items]
  | .object members => by
    rw [sortKeys]
    refine byteLength_dumps_object_perm ?_
    rw [← map_memberLength_sortKeys members]
    exact (List.perm_insertionSort _ _).map memberLength

theorem byteLength_dumpsItems_sortKeys : ∀ items : List (Json Real Text),
    byteLength (dumpsItems (sortKeysItems items)) = byteLength (dumpsItems items)
  | [] => rfl
  | item :: items => by
    rw [sortKeysItems, dumpsItems, dumpsItems, byteLength_cons, byteLength_cons,
      byteLength_append, byteLength_append, byteLength_dumps_sortKeys item,
      byteLength_dumpsItems_sortKeys items]

theorem map_memberLength_sortKeys : ∀ members : List (Text × Json Real Text),
    (sortKeysMembers members).map memberLength = members.map memberLength
  | [] => rfl
  | (key, value) :: members => by
    rw [sortKeysMembers, List.map_cons, List.map_cons, map_memberLength_sortKeys members,
      memberLength, memberLength, byteLength_dumps_sortKeys value]

end

end

end

/-! ### Fields -/

variable [DecidableEq Text]

theorem mem_of_field {key : Text} (found : field members key = some value) :
    (key, value) ∈ members := by
  obtain ⟨member, first, rfl⟩ := Option.map_eq_some_iff.mp found
  have same := List.find?_some first
  rw [decide_eq_true_eq] at same
  exact same ▸ List.mem_of_find?_eq_some first

/-- The parts of a readable object are readable. -/
theorem readable_field [JsonString Text] (readable : Readable (.object members)) {key : Text}
    (found : field members key = some value) : Readable value :=
  (readableMembers_iff.mp readable.2 _ (mem_of_field found)).2

end Json

end Omnitensor
