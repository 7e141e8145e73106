/-
This file develops JSON documents and the text they are stored as.

Writing escapes all but printable ASCII, puts no space between tokens and keeps the order of keys.
Reading accepts any JSON text, joins the two escapes of a character beyond the basic plane, and
lets the last of two equal keys win. What is written is read back as it was, unless a string holds
the two halves of a character next to each other; the length of the text does not depend on the
order of keys.

The text of a document is a sequence of Unicode scalar values. Its strings are those of Python, or
only those of scalar values: then an escape of half a character is refused. A finite
floating-point number is whatever has a decimal numeral that is read back as the number; the
other three are constants.
-/

import Omnitensor.Dict
import Omnitensor.JsonNumeral
import Omnitensor.PythonText

namespace Omnitensor

/-! ### Documents -/

/-- The floating-point numbers that are not finite. -/
inductive JsonConstant where
  | nan
  | infinity
  | negativeInfinity
  deriving DecidableEq

/-- A JSON document over finite floating-point numbers and strings of some types. -/
inductive Json (Real : Type) (Text : Type := String) where
  | null
  | bool (value : Bool)
  | int (value : Int)
  | float (value : Real)
  | constant (value : JsonConstant)
  | string (value : Text)
  | array (items : List (Json Real Text))
  | object (members : List (Text × Json Real Text))

/-- Strings that a document may hold, each a string of Python. -/
class JsonString (Text : Type) where
  points : Text → PyString
  /-- The string of some code points, unless it is none of this type. -/
  ofPoints : PyString → Option Text
  ofPoints_eq_some : ∀ read text, ofPoints read = some text ↔ read = points text

instance : JsonString PyString := ⟨id, some, fun _ _ => Option.some_inj⟩

instance : JsonString String where
  points := PyString.ofString
  ofPoints := PyString.toString?
  ofPoints_eq_some _ _ := PyString.toString?_eq_some

/-- Finite floating-point numbers with the numerals they are written as. -/
class FloatText (Real : Type) where
  numeral : Real → Numeral
  wellFormed : ∀ value, (numeral value).WellFormed
  fractional : ∀ value, (numeral value).fractional = true
  /-- The nearest number, unless the numeral is out of range. -/
  ofNumeral : Numeral → Option Real
  ofNumeral_numeral : ∀ value, ofNumeral (numeral value) = some value
  /-- The integer a number equals, if any. -/
  toInt? : Real → Option Int

/-- Numbers that are kept as the numerals they are written as. -/
abbrev ExactDecimal : Type := { numeral : Numeral // numeral.WellFormed ∧ numeral.fractional = true }

instance : FloatText ExactDecimal where
  numeral := Subtype.val
  wellFormed value := value.2.1
  fractional value := value.2.2
  ofNumeral numeral :=
    if valid : numeral.WellFormed ∧ numeral.fractional = true then some ⟨numeral, valid⟩ else none
  ofNumeral_numeral value := dif_pos value.2
  toInt? value := value.1.toInt?

namespace Json

variable {Real Text : Type}

/-! ### Writing -/

/-- The four digits of a code unit. -/
def unitText (unit : Nat) : List Char :=
  ['\\', 'u', Nat.digitChar (unit / 4096 % 16), Nat.digitChar (unit / 256 % 16),
    Nat.digitChar (unit / 16 % 16), Nat.digitChar (unit % 16)]

/-- Whether a character is written as it is. -/
def printable (char : Char) : Bool := decide (32 ≤ char.toNat) && decide (char.toNat ≤ 126)

/-- How a character is written inside a string. -/
def escapeChar (char : Char) : List Char :=
  if char = '"' then ['\\', '"']
  else if char = '\\' then ['\\', '\\']
  else if char = '\n' then ['\\', 'n']
  else if char = '\r' then ['\\', 'r']
  else if char = '\t' then ['\\', 't']
  else if char = '\x0c' then ['\\', 'f']
  else if char = '\x08' then ['\\', 'b']
  else if printable char then [char]
  else if char.toNat < 65536 then unitText char.toNat
  else
    unitText (55296 + (char.toNat - 65536) / 1024) ++ unitText (56320 + (char.toNat - 65536) % 1024)

/-- How a code point is written inside a string. -/
def escapePoint : CodePoint → List Char
  | .scalar char => escapeChar char
  | .surrogate half => unitText (55296 + half)

/-- The text of a string after its opening quote. -/
def stringText [JsonString Text] (text : Text) : List Char :=
  (JsonString.points text).flatMap escapePoint ++ ['"']

/-- The text of a constant. -/
def constantText : JsonConstant → List Char
  | .nan => ['N', 'a', 'N']
  | .infinity => ['I', 'n', 'f', 'i', 'n', 'i', 't', 'y']
  | .negativeInfinity => ['-', 'I', 'n', 'f', 'i', 'n', 'i', 't', 'y']

section

variable [FloatText Real] [JsonString Text]

mutual

/-- The text of a document, without spaces. -/
def dumps : Json Real Text → List Char
  | .null => ['n', 'u', 'l', 'l']
  | .bool true => ['t', 'r', 'u', 'e']
  | .bool false => ['f', 'a', 'l', 's', 'e']
  | .int value => (Numeral.ofInt value).text
  | .float value => (FloatText.numeral value).text
  | .constant value => constantText value
  | .string text => '"' :: stringText text
  | .array [] => ['[', ']']
  | .array (item :: items) => '[' :: (dumps item ++ dumpsItems items)
  | .object [] => ['{', '}']
  | .object ((key, value) :: members) =>
    '{' :: '"' :: (stringText key ++ ':' :: (dumps value ++ dumpsMembers members))

/-- The text of an array after an item. -/
def dumpsItems : List (Json Real Text) → List Char
  | [] => [']']
  | item :: items => ',' :: (dumps item ++ dumpsItems items)

/-- The text of an object after a member. -/
def dumpsMembers : List (Text × Json Real Text) → List Char
  | [] => ['}']
  | (key, value) :: members =>
    ',' :: '"' :: (stringText key ++ ':' :: (dumps value ++ dumpsMembers members))

end

end

section

variable [LE Text] [DecidableLE Text]

mutual

/-- The document with the keys of every object in order. -/
def sortKeys : Json Real Text → Json Real Text
  | .array items => .array (sortKeysItems items)
  | .object members =>
    .object ((sortKeysMembers members).insertionSort fun first second => first.1 ≤ second.1)
  | value => value

def sortKeysItems : List (Json Real Text) → List (Json Real Text)
  | [] => []
  | item :: items => sortKeys item :: sortKeysItems items

def sortKeysMembers : List (Text × Json Real Text) → List (Text × Json Real Text)
  | [] => []
  | (key, value) :: members => (key, sortKeys value) :: sortKeysMembers members

end

end

/-- The number of bytes of a text in UTF-8. -/
def byteLength (text : List Char) : Nat := (text.map Char.utf8Size).sum

/-! ### Values -/

/-- A value that Python counts as equal to an integer. -/
def equalsInt [FloatText Real] (value : Json Real Text) (number : Int) : Bool :=
  match value with
  | .bool truth => decide ((if truth then 1 else 0) = number)
  | .int stored => decide (stored = number)
  | .float stored => decide (FloatText.toInt? stored = some number)
  | _ => false

/-- Look a key of an object up. -/
def field [DecidableEq Text] (members : List (Text × Json Real Text)) (key : Text) :
    Option (Json Real Text) :=
  (members.find? fun member => decide (member.1 = key)).map Prod.snd

/-- An object has these fields and no other. -/
def hasFields [DecidableEq Text] (members : List (Text × Json Real Text)) (keys : List Text) : Bool :=
  (members.all fun member => decide (member.1 ∈ keys)) &&
    keys.all fun key => decide (key ∈ members.map Prod.fst)

section

variable [FloatText Real]

/-! ### Reading -/

/-- The value of a hexadecimal digit. -/
def hexValue (char : Char) : Option Nat :=
  if '0' ≤ char ∧ char ≤ '9' then some (char.toNat - 48)
  else if 'a' ≤ char ∧ char ≤ 'f' then some (char.toNat - 87)
  else if 'A' ≤ char ∧ char ≤ 'F' then some (char.toNat - 55)
  else none

/-- The code unit of four digits. -/
def unitValue (first second third fourth : Char) : Option Nat := do
  let first ← hexValue first
  let second ← hexValue second
  let third ← hexValue third
  let fourth ← hexValue fourth
  return 4096 * first + 256 * second + 16 * third + fourth

/-- The character a letter after a backslash stands for. -/
def unescape : Char → Option Char
  | '"' => some '"'
  | '\\' => some '\\'
  | '/' => some '/'
  | 'n' => some '\n'
  | 'r' => some '\r'
  | 't' => some '\t'
  | 'f' => some '\x0c'
  | 'b' => some '\x08'
  | _ => none

/-- The first half of a character beyond the basic plane. -/
def highHalf (unit : Nat) : Bool := decide (55296 ≤ unit) && decide (unit < 56320)

/-- The second half of such a character. -/
def lowHalf (unit : Nat) : Bool := decide (56320 ≤ unit) && decide (unit < 57344)

/-- A code point in front of a string: two halves of a character become the character. Among scalar
values a half can only come from an escape. -/
def attach (point : CodePoint) : PyString → PyString
  | [] => [point]
  | next :: text =>
    if highHalf point.value && lowHalf next.value then
      .scalar (Char.ofNat (65536 + 1024 * (point.value - 55296) + (next.value - 56320))) :: text
    else point :: next :: text

/-- Read a string up to its closing quote. -/
def scanString : List Char → Option (PyString × List Char)
  | [] => none
  | '"' :: rest => some ([], rest)
  | '\\' :: 'u' :: first :: second :: third :: fourth :: rest =>
    match unitValue first second third fourth with
    | none => none
    | some unit => (scanString rest).map fun (text, rest) => (attach (.ofUnit unit) text, rest)
  | '\\' :: letter :: rest =>
    match unescape letter with
    | none => none
    | some char => (scanString rest).map fun (text, rest) => (.scalar char :: text, rest)
  | char :: rest =>
    if char.toNat < 32 then none
    else (scanString rest).map fun (text, rest) => (.scalar char :: text, rest)

/-- Read a string of the document's type. -/
def scanText [JsonString Text] (text : List Char) : Option (Text × List Char) := do
  let (points, rest) ← scanString text
  return (← JsonString.ofPoints points, rest)

/-- White space between tokens. -/
def space (char : Char) : Bool := char == ' ' || char == '\t' || char == '\n' || char == '\r'

/-- Skip white space. -/
def skipSpace (text : List Char) : List Char := text.dropWhile space

/-- The number of a numeral. -/
def ofNumeral (numeral : Numeral) : Json Real Text :=
  if numeral.fractional then
    match FloatText.ofNumeral numeral with
    | some value => .float value
    | none => .constant (if numeral.negative then .negativeInfinity else .infinity)
  else .int numeral.toInt

/-- An object from its members in order: the last of equal keys wins. -/
def ofMembers [DecidableEq Text] (members : List (Text × Json Real Text)) : Json Real Text :=
  .object (members.foldl (fun dict member => Dict.set dict member.1 member.2) Dict.empty).entries

variable [DecidableEq Text] [JsonString Text]

mutual

/-- Read a value. -/
def scanOnce : Nat → List Char → Option (Json Real Text × List Char)
  | 0, _ => none
  | fuel + 1, text =>
    match text with
    | '"' :: rest => (scanText rest).map fun (text, rest) => (.string text, rest)
    | '{' :: rest =>
      match skipSpace rest with
      | '}' :: rest => some (.object [], rest)
      | rest => (scanMembers fuel rest).map fun (members, rest) => (ofMembers members, rest)
    | '[' :: rest =>
      match skipSpace rest with
      | ']' :: rest => some (.array [], rest)
      | rest => (scanItems fuel rest).map fun (items, rest) => (.array items, rest)
    | 'n' :: 'u' :: 'l' :: 'l' :: rest => some (.null, rest)
    | 't' :: 'r' :: 'u' :: 'e' :: rest => some (.bool true, rest)
    | 'f' :: 'a' :: 'l' :: 's' :: 'e' :: rest => some (.bool false, rest)
    | 'N' :: 'a' :: 'N' :: rest => some (.constant .nan, rest)
    | 'I' :: 'n' :: 'f' :: 'i' :: 'n' :: 'i' :: 't' :: 'y' :: rest =>
      some (.constant .infinity, rest)
    | '-' :: 'I' :: 'n' :: 'f' :: 'i' :: 'n' :: 'i' :: 't' :: 'y' :: rest =>
      some (.constant .negativeInfinity, rest)
    | text => (Numeral.scan text).map fun (numeral, rest) => (ofNumeral numeral, rest)

/-- Read the items of an array up to its closing bracket. -/
def scanItems : Nat → List Char → Option (List (Json Real Text) × List Char)
  | 0, _ => none
  | fuel + 1, text =>
    match scanOnce fuel text with
    | none => none
    | some (item, rest) =>
      match skipSpace rest with
      | ']' :: rest => some ([item], rest)
      | ',' :: rest =>
        (scanItems fuel (skipSpace rest)).map fun (items, rest) => (item :: items, rest)
      | _ => none

/-- Read the members of an object up to its closing brace. -/
def scanMembers : Nat → List Char → Option (List (Text × Json Real Text) × List Char)
  | 0, _ => none
  | fuel + 1, '"' :: text =>
    match scanText text with
    | none => none
    | some (key, rest) =>
      match skipSpace rest with
      | ':' :: rest =>
        match scanOnce fuel (skipSpace rest) with
        | none => none
        | some (value, rest) =>
          match skipSpace rest with
          | '}' :: rest => some ([(key, value)], rest)
          | ',' :: rest =>
            (scanMembers fuel (skipSpace rest)).map fun (members, rest) =>
              ((key, value) :: members, rest)
          | _ => none
      | _ => none
  | _, _ => none

end

/-- Read a text that is one document. Every value takes a character, so the fuel is not used up. -/
def loads (text : List Char) : Option (Json Real Text) :=
  match scanOnce (text.length + 1) (skipSpace text) with
  | some (value, rest) => if (skipSpace rest).isEmpty then some value else none
  | none => none

end

end Json

end Omnitensor
