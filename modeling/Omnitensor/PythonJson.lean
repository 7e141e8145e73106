/-
This file develops JSON as Python writes it without escaping, and reads it.

A text has a tree of tokens. Reading refuses some trees: constants where they are not wanted,
integers of too many digits, and nesting deeper than the stack takes. It does so at the first such
token of the text. What is written is a tree of a value with sorted keys, and is refused on the same
grounds.
-/

import Omnitensor.JsonText
import Omnitensor.PythonText

namespace Omnitensor

open PyString (ofChars ofString)

/-! ### Trees of tokens -/

/-- The tokens of a JSON text. -/
inductive JsonSyntax where
  | null
  | bool (value : Bool)
  | number (numeral : Numeral)
  | constant (value : JsonConstant)
  | string (text : PyString)
  | array (items : List JsonSyntax)
  | object (members : List (PyString × JsonSyntax))

/-- How a text is refused: it is no JSON, it holds a value that is refused, or it nests too deep. -/
inductive JsonError where
  | decode
  | value
  | recursion
  deriving DecidableEq

/-- What a reader accepts: constants, and integers of how many digits. -/
structure JsonOptions where
  constants : Bool
  digits : Option Nat

namespace JsonOptions

/-- The most digits of an integer that is written or read. -/
def maxDigits : Nat := 4300

/-- What a reader accepts unless told otherwise. -/
def default : JsonOptions := ⟨true, some maxDigits⟩

/-- What a reader accepts that refuses constants. -/
def finite : JsonOptions := ⟨false, some maxDigits⟩

end JsonOptions

/-- An answer, unless it is refused. -/
def verdict {Answer : Type} : Option JsonError → Answer → Except JsonError Answer
  | some error, _ => .error error
  | none, answer => .ok answer

namespace JsonSyntax

/-! ### Writing -/

/-- How a code point is written inside a string. -/
def escape : CodePoint → PyString
  | .surrogate half => [.surrogate half]
  | .scalar char =>
    if char = '"' then ofChars ['\\', '"']
    else if char = '\\' then ofChars ['\\', '\\']
    else if char = '\n' then ofChars ['\\', 'n']
    else if char = '\r' then ofChars ['\\', 'r']
    else if char = '\t' then ofChars ['\\', 't']
    else if char = '\x0c' then ofChars ['\\', 'f']
    else if char = '\x08' then ofChars ['\\', 'b']
    else if char.toNat < 32 then ofChars (Json.unitText char.toNat)
    else [.scalar char]

/-- The text of a string after its opening quote. -/
def stringText (text : PyString) : PyString := text.flatMap escape ++ [.scalar '"']

mutual

/-- The text of a tree, without spaces. -/
def text : JsonSyntax → PyString
  | .null => ofString "null"
  | .bool true => ofString "true"
  | .bool false => ofString "false"
  | .number numeral => ofChars numeral.text
  | .constant value => ofChars (Json.constantText value)
  | .string text => .scalar '"' :: stringText text
  | .array [] => [.scalar '[', .scalar ']']
  | .array (item :: items) => .scalar '[' :: (text item ++ textItems items)
  | .object [] => [.scalar '{', .scalar '}']
  | .object ((key, value) :: members) =>
    .scalar '{' :: .scalar '"' ::
      (stringText key ++ .scalar ':' :: (text value ++ textMembers members))

/-- The text of an array after an item. -/
def textItems : List JsonSyntax → PyString
  | [] => [.scalar ']']
  | item :: items => .scalar ',' :: (text item ++ textItems items)

/-- The text of an object after a member. -/
def textMembers : List (PyString × JsonSyntax) → PyString
  | [] => [.scalar '}']
  | (key, value) :: members =>
    .scalar ',' :: .scalar '"' ::
      (stringText key ++ .scalar ':' :: (text value ++ textMembers members))

end

/-! ### Refusals -/

/-- Why a token is refused. -/
def tokenRefusal (options : JsonOptions) : JsonSyntax → Option JsonError
  | .number numeral =>
    if !numeral.fractional && options.digits.any (· < numeral.whole.length) then some .value
    else none
  | .constant _ => if options.constants then none else some .value
  | _ => none

mutual

/-- Why a tree is refused, by the first token that is. -/
def refusal (options : JsonOptions) : Nat → JsonSyntax → Option JsonError
  | 0, .array _ => some .recursion
  | depth + 1, .array items => refusalItems options depth items
  | 0, .object _ => some .recursion
  | depth + 1, .object members => refusalMembers options depth members
  | _, token => tokenRefusal options token

def refusalItems (options : JsonOptions) (depth : Nat) : List JsonSyntax → Option JsonError
  | [] => none
  | item :: items => (refusal options depth item).or (refusalItems options depth items)

def refusalMembers (options : JsonOptions) (depth : Nat) :
    List (PyString × JsonSyntax) → Option JsonError
  | [] => none
  | (_, value) :: members => (refusal options depth value).or (refusalMembers options depth members)

end

/-! ### Reading -/

/-- What a string holds: code points as they are, and code units that an escape stands for. -/
inductive StringUnit where
  | point (point : CodePoint)
  | escaped (unit : Nat)

/-- Read what a string holds up to its closing quote. -/
def scanUnits : PyString → Option (List StringUnit × PyString)
  | [] => none
  | .scalar '"' :: rest => some ([], rest)
  | .scalar '\\' :: .scalar 'u' :: .scalar first :: .scalar second :: .scalar third ::
      .scalar fourth :: rest =>
    match Json.unitValue first second third fourth with
    | none => none
    | some unit => (scanUnits rest).map fun (units, rest) => (.escaped unit :: units, rest)
  | .scalar '\\' :: .scalar letter :: rest =>
    match Json.unescape letter with
    | none => none
    | some char => (scanUnits rest).map fun (units, rest) => (.point (.scalar char) :: units, rest)
  | .scalar '\\' :: _ => none
  | point :: rest =>
    if point.value < 32 then none
    else (scanUnits rest).map fun (units, rest) => (.point point :: units, rest)

/-- The text of a string: escapes of two halves in a row make one code point. -/
def joinUnits : List StringUnit → PyString
  | [] => []
  | .point point :: rest => point :: joinUnits rest
  | .escaped high :: .escaped low :: rest =>
    if Json.highHalf high && Json.lowHalf low then
      .scalar (Char.ofNat (65536 + 1024 * (high - 55296) + (low - 56320))) :: joinUnits rest
    else .ofUnit high :: joinUnits (.escaped low :: rest)
  | .escaped unit :: rest => .ofUnit unit :: joinUnits rest

/-- Read a string up to its closing quote. -/
def scanString (text : PyString) : Option (PyString × PyString) :=
  (scanUnits text).map fun (units, rest) => (joinUnits units, rest)

/-- White space between tokens. -/
def space (point : CodePoint) : Bool := point.char?.any Json.space

/-- Skip white space. -/
def skipSpace (text : PyString) : PyString := text.dropWhile space

/-- The scalar values a string begins with. -/
def leadingChars : PyString → List Char
  | .scalar char :: rest => char :: leadingChars rest
  | _ => []

/-- Read a numeral. -/
def scanNumeral (text : PyString) : Option (Numeral × PyString) :=
  (Numeral.scan (leadingChars text)).map fun (numeral, rest) =>
    (numeral, text.drop ((leadingChars text).length - rest.length))

/-- The words that are tokens. -/
def words : List (PyString × JsonSyntax) :=
  [(ofString "null", .null), (ofString "true", .bool true), (ofString "false", .bool false),
    (ofString "NaN", .constant .nan), (ofString "Infinity", .constant .infinity),
    (ofString "-Infinity", .constant .negativeInfinity)]

/-- Read a word. -/
def scanWord (text : PyString) : Option (JsonSyntax × PyString) :=
  words.findSome? fun (word, token) => (text.dropPrefix? word).map fun rest => (token, rest)

/-- Read a word or a number. -/
def scanToken (text : PyString) : Option (JsonSyntax × PyString) :=
  (scanWord text).or ((scanNumeral text).map fun (numeral, rest) => (.number numeral, rest))

mutual

/-- Read a value. -/
def scanOnce (options : JsonOptions) : Nat → Nat → PyString → Except JsonError (JsonSyntax × PyString)
  | 0, _, _ => .error .decode
  | fuel + 1, depth, text =>
    match text with
    | .scalar '"' :: rest =>
      match scanString rest with
      | none => .error .decode
      | some (text, rest) => .ok (.string text, rest)
    | .scalar '{' :: rest =>
      match depth with
      | 0 => .error .recursion
      | depth + 1 =>
        match skipSpace rest with
        | .scalar '}' :: rest => .ok (.object [], rest)
        | rest => (scanMembers options fuel depth rest).map fun (members, rest) =>
          (.object members, rest)
    | .scalar '[' :: rest =>
      match depth with
      | 0 => .error .recursion
      | depth + 1 =>
        match skipSpace rest with
        | .scalar ']' :: rest => .ok (.array [], rest)
        | rest => (scanItems options fuel depth rest).map fun (items, rest) => (.array items, rest)
    | text =>
      match scanToken text with
      | none => .error .decode
      | some (token, rest) => verdict (tokenRefusal options token) (token, rest)

/-- Read the items of an array up to its closing bracket. -/
def scanItems (options : JsonOptions) :
    Nat → Nat → PyString → Except JsonError (List JsonSyntax × PyString)
  | 0, _, _ => .error .decode
  | fuel + 1, depth, text =>
    match scanOnce options fuel depth text with
    | .error error => .error error
    | .ok (item, rest) =>
      match skipSpace rest with
      | .scalar ']' :: rest => .ok ([item], rest)
      | .scalar ',' :: rest =>
        (scanItems options fuel depth (skipSpace rest)).map fun (items, rest) =>
          (item :: items, rest)
      | _ => .error .decode

/-- Read the members of an object up to its closing brace. -/
def scanMembers (options : JsonOptions) :
    Nat → Nat → PyString → Except JsonError (List (PyString × JsonSyntax) × PyString)
  | fuel + 1, depth, .scalar '"' :: text =>
    match scanString text with
    | none => .error .decode
    | some (key, rest) =>
      match skipSpace rest with
      | .scalar ':' :: rest =>
        match scanOnce options fuel depth (skipSpace rest) with
        | .error error => .error error
        | .ok (value, rest) =>
          match skipSpace rest with
          | .scalar '}' :: rest => .ok ([(key, value)], rest)
          | .scalar ',' :: rest =>
            (scanMembers options fuel depth (skipSpace rest)).map fun (members, rest) =>
              ((key, value) :: members, rest)
          | _ => .error .decode
      | _ => .error .decode
  | _, _, _ => .error .decode

end

/-- Read a text that is one tree. Every value takes a code point, so the fuel is not used up. -/
def parse (options : JsonOptions) (stack : Nat) (text : PyString) : Except JsonError JsonSyntax :=
  match scanOnce options (text.length + 1) stack (skipSpace text) with
  | .error error => .error error
  | .ok (tree, rest) => if (skipSpace rest).isEmpty then .ok tree else .error .decode

end JsonSyntax

/-! ### Values -/

/-- A value of Python that JSON can stand for. -/
inductive PyValue (Real : Type) where
  | null
  | bool (value : Bool)
  | int (value : Int)
  | float (value : Real)
  | constant (value : JsonConstant)
  | str (text : PyString)
  | list (items : List (PyValue Real))
  | dict (members : List (PyString × PyValue Real))

variable {Real : Type}

namespace PyValue

mutual

/-- The value with the keys of every dictionary in order. -/
def sortKeys : PyValue Real → PyValue Real
  | .list items => .list (sortKeysItems items)
  | .dict members =>
    .dict ((sortKeysMembers members).insertionSort fun first second => first.1 ≤ second.1)
  | value => value

def sortKeysItems : List (PyValue Real) → List (PyValue Real)
  | [] => []
  | item :: items => sortKeys item :: sortKeysItems items

def sortKeysMembers : List (PyString × PyValue Real) → List (PyString × PyValue Real)
  | [] => []
  | (key, value) :: members => (key, sortKeys value) :: sortKeysMembers members

end

/-- Look a key of a dictionary up. -/
def field (members : List (PyString × PyValue Real)) (key : String) : Option (PyValue Real) :=
  (members.find? fun member => decide (member.1 = ofString key)).map Prod.snd

variable [FloatText Real]

mutual

/-- The tree of a value. -/
def tree : PyValue Real → JsonSyntax
  | .null => .null
  | .bool value => .bool value
  | .int value => .number (Numeral.ofInt value)
  | .float value => .number (FloatText.numeral value)
  | .constant value => .constant value
  | .str text => .string text
  | .list items => .array (treeItems items)
  | .dict members => .object (treeMembers members)

def treeItems : List (PyValue Real) → List JsonSyntax
  | [] => []
  | item :: items => tree item :: treeItems items

def treeMembers : List (PyString × PyValue Real) → List (PyString × JsonSyntax)
  | [] => []
  | (key, value) :: members => (key, tree value) :: treeMembers members

end

/-- The text of a value with sorted keys, which holds no constant. -/
def dumps (stack : Nat) (value : PyValue Real) : Except JsonError PyString :=
  let tree := value.sortKeys.tree
  verdict (tree.refusal .finite stack) tree.text

end PyValue

end Omnitensor
