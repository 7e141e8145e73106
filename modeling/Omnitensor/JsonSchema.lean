/-
This file develops the part of JSON Schema that closed records need.

A schema is data, and a document is valid or not by recursion over the schema. An object is closed: it
has no other member than the schema names. A number is an integer by its value, however it is written.
What a document says is read off along a path of keys and positions; a member that is null, or holds
nothing, says nothing.
-/

import Omnitensor.PythonJson

namespace Omnitensor

/-- A document that was read: a float is the number that it stands for. -/
abbrev Document : Type := PyValue Rat

/-- The members of an object. -/
abbrev DocumentFields : Type := List (PyString × Document)

namespace Document

/-- The integer that a document is, if it is one. -/
def integer? : Document → Option Int
  | .int value => some value
  | .float value => if value.den = 1 then some value.num else none
  | _ => none

def text? : Document → Option PyString
  | .str text => some text
  | _ => none

def items? : Document → Option (List Document)
  | .list items => some items
  | _ => none

def fields? : Document → Option DocumentFields
  | .dict fields => some fields
  | _ => none

end Document

/-- A schema of closed documents. -/
inductive Schema where
  | null
  | boolean
  | integer (minimum maximum : Option Int)
  /-- The one number. -/
  | number (value : Int)
  | string (shortest : Nat) (longest : Option Nat)
  /-- A string in which a pattern is found. -/
  | pattern (found : PyString → Bool)
  /-- One of these words. -/
  | words (values : List String)
  /-- So many of these words at most, each once. -/
  | wordSet (values : List String) (longest : Nat)
  | array (shortest : Nat) (items : Schema)
  /-- An object with these members, each of which may be required. -/
  | object (properties : List (String × Bool × Schema))
  /-- Exactly one of two. -/
  | oneOf (first second : Schema)

namespace Schema

/-- A schema that also allows null. -/
def nullable (schema : Schema) : Schema := .oneOf schema .null

def isWord (values : List String) (text : PyString) : Bool :=
  decide (text ∈ values.map PyString.ofString)

mutual

/-- Whether a document is valid. -/
def valid : Schema → Document → Bool
  | .null, value => match value with
    | .null => true
    | _ => false
  | .boolean, value => match value with
    | .bool _ => true
    | _ => false
  | .integer minimum maximum, value => value.integer?.any fun number =>
      minimum.all (fun bound => decide (bound ≤ number)) &&
        maximum.all fun bound => decide (number ≤ bound)
  | .number expected, value => decide (value.integer? = some expected)
  | .string shortest longest, value => value.text?.any fun text =>
      decide (shortest ≤ text.length) && longest.all fun bound => decide (text.length ≤ bound)
  | .pattern found, value => value.text?.any found
  | .words values, value => value.text?.any (isWord values)
  | .wordSet values longest, value => value.items?.any fun items =>
      decide (items.length ≤ longest) && items.all (fun item => item.text?.any (isWord values)) &&
        decide (items.filterMap Document.text?).Nodup
  | .array shortest items, value => value.items?.any fun values =>
      decide (shortest ≤ values.length) && values.all fun item => valid items item
  | .object properties, value => value.fields?.any fun fields =>
      (fields.all fun field =>
        decide (field.1 ∈ properties.map fun property => PyString.ofString property.1)) &&
        validProperties properties fields
  | .oneOf first second, value => valid first value != valid second value

/-- Whether the members of an object are valid that are required or there. -/
def validProperties : List (String × Bool × Schema) → DocumentFields → Bool
  | [], _ => true
  | (name, required, schema) :: properties, fields =>
    (match PyValue.field fields name with
      | none => !required
      | some value => valid schema value) && validProperties properties fields

end

end Schema

end Omnitensor
