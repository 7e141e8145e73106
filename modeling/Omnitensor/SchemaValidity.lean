/-
This file develops the validity of documents under schemas that are documents themselves.

A schema is true, or an object whose keywords all have to hold; a reference to a definition is one more
condition, beside those of its siblings. A schema and a value lead to the schemas of its definition, its
members and its items, with the parts of the value that these are about.

Whether a text has what a pattern describes is a parameter. The names of definitions are taken to be
ones that a reference writes as they are, without escapes.
-/

import Omnitensor.DocumentAgreement

namespace Omnitensor

open PyString (ofString)

open PyValue (field)

namespace Document

/-! ### Parts -/

/-- The members of an object; nothing else has any. -/
def members : Document → DocumentFields
  | .dict members => members
  | _ => []

/-- The items of an array; nothing else has any. -/
def items : Document → List Document
  | .list items => items
  | _ => []

/-- The names of members. -/
def names (fields : DocumentFields) : List PyString := fields.map Prod.fst

theorem mem_names_of_lookup {fields : DocumentFields} {name : PyString} {value : Document}
    (found : lookup fields name = some value) : name ∈ names fields :=
  List.mem_map_of_mem (mem_of_lookup found)

theorem exists_lookup {fields : DocumentFields} {name : PyString} (named : name ∈ names fields) :
    ∃ value, lookup fields name = some value := by
  obtain ⟨member, inside, same⟩ := List.mem_map.mp named
  refine Option.isSome_iff_exists.mp ?_
  rw [lookup, Option.isSome_map, List.find?_isSome]
  exact ⟨member, inside, decide_eq_true same⟩

@[simp] theorem lookup_nil (name : PyString) : lookup [] name = none := rfl

theorem lookup_cons (member : PyString × Document) (fields : DocumentFields) (name : PyString) :
    lookup (member :: fields) name = if member.1 = name then some member.2 else lookup fields name := by
  rw [lookup, List.find?_cons]
  by_cases same : member.1 = name
  · rw [if_pos same, decide_eq_true same]
    rfl
  · rw [if_neg same, decide_eq_false same]
    rfl

/-! ### Values -/

mutual

/-- The value with every integer written as one. -/
def wholeNumbers : Document → Document
  | .float value => if value.den = 1 then .int value.num else .float value
  | .list items => .list (wholeNumbersItems items)
  | .dict members => .dict (wholeNumbersMembers members)
  | value => value

def wholeNumbersItems : List Document → List Document
  | [] => []
  | item :: items => wholeNumbers item :: wholeNumbersItems items

def wholeNumbersMembers : DocumentFields → DocumentFields
  | [] => []
  | (name, value) :: members => (name, wholeNumbers value) :: wholeNumbersMembers members

end

/-- Values are the same without regard to the order of members and to how numbers are written. -/
def Same (first second : Document) : Prop :=
  first.wholeNumbers.sortKeys = second.wholeNumbers.sortKeys

/-- Whether a value is of the type of a name. -/
def hasType (name : PyString) (value : Document) : Bool :=
  match value with
  | .null => decide (name = ofString "null")
  | .bool _ => decide (name = ofString "boolean")
  | .int _ => decide (name = ofString "integer" ∨ name = ofString "number")
  | .float number => decide (name = ofString "number" ∨ name = ofString "integer" ∧ number.den = 1)
  | .constant _ => decide (name = ofString "number")
  | .str _ => decide (name = ofString "string")
  | .list _ => decide (name = ofString "array")
  | .dict _ => decide (name = ofString "object")

end Document

open Document

namespace SchemaValidity

/-! ### Keywords -/

/-- The keywords that are about a value as a whole. -/
inductive Keyword where
  | type
  | required
  | enum
  | const
  | minLength
  | maxLength
  | pattern
  deriving DecidableEq

/-- A keyword as a schema writes it. -/
def Keyword.text : Keyword → String
  | .type => "type"
  | .required => "required"
  | .enum => "enum"
  | .const => "const"
  | .minLength => "minLength"
  | .maxLength => "maxLength"
  | .pattern => "pattern"

/-- Whether a keyword holds with what it is given. A keyword with anything else than it takes does not. -/
def Keyword.Holds (found : PyString → PyString → Bool) (keyword : Keyword) (given value : Document) :
    Prop :=
  match keyword with
  | .type => ∃ name, (given = .str name ∨ ∃ items, given = .list items ∧ .str name ∈ items) ∧
      hasType name value = true
  | .required => ∃ required : List PyString, given = .list (required.map .str) ∧
      ∀ fields, value = .dict fields → ∀ name ∈ required, name ∈ names fields
  | .enum => ∃ items, given = .list items ∧ ∃ item ∈ items, Same item value
  | .const => Same given value
  | .minLength => ∃ bound, given.integer? = some bound ∧ ∀ text, value = .str text → bound ≤ text.length
  | .maxLength => ∃ bound, given.integer? = some bound ∧ ∀ text, value = .str text → text.length ≤ bound
  | .pattern => ∃ pattern, given = .str pattern ∧ ∀ text, value = .str text → found pattern text = true

/-- The schemas of properties. -/
def properties (keywords : DocumentFields) : DocumentFields :=
  ((field keywords "properties").map members).getD []

/-- The schema of the members that are no properties, unless it accepts everything. -/
def additional? (keywords : DocumentFields) : Option Document :=
  match field keywords "additionalProperties" with
  | some (.bool true) => none
  | schema => schema

/-- What a schema refers to. -/
def reference? (keywords : DocumentFields) : Option Document :=
  match field keywords "$ref" with
  | some .null => none
  | reference => reference

/-- What references begin with. -/
def referencePrefix : PyString := ofString "#/$defs/"

/-- The definition that a reference is to. What is not there accepts nothing. -/
def definition (definitions : DocumentFields) : Document → Document
  | .str text =>
    if referencePrefix <+: text then
      (lookup definitions (text.drop referencePrefix.length)).getD (.bool false)
    else .bool false
  | _ => .bool false

/-! ### Places -/

section

variable (found : PyString → PyString → Bool) (definitions : DocumentFields)

/-- What a schema and a value lead to: the definition that is referred to, with the same value, and the
schemas of members and items, with these. -/
inductive Leads : Document → Document → Document → Document → Prop where
  | referred {keywords : DocumentFields} {reference : Document} (value : Document)
      (refers : reference? keywords = some reference) :
      Leads (.dict keywords) value (definition definitions reference) value
  | property {keywords : DocumentFields} {value schema part : Document} {name : PyString}
      (listed : lookup (properties keywords) name = some schema)
      (inside : lookup value.members name = some part) : Leads (.dict keywords) value schema part
  | additional {keywords : DocumentFields} {value schema part : Document} {name : PyString}
      (rest : additional? keywords = some schema) (unlisted : name ∉ names (properties keywords))
      (inside : lookup value.members name = some part) : Leads (.dict keywords) value schema part
  | item {keywords : DocumentFields} {value schema part : Document}
      (each : field keywords "items" = some schema) (inside : part ∈ value.items) :
      Leads (.dict keywords) value schema part

/-- The places that a schema and a value come to. -/
inductive Reaches : Document → Document → Document → Document → Prop where
  | here (schema value : Document) : Reaches schema value schema value
  | later {schema value next part last deep : Document}
      (leads : Leads definitions schema value next part) (reaches : Reaches next part last deep) :
      Reaches schema value last deep

/-- A value is valid under a schema: its keywords hold, and so does all that it leads to. -/
inductive Valid : Document → Document → Prop where
  | anything (value : Document) : Valid (.bool true) value
  | keywords {keywords : DocumentFields} {value : Document}
      (whole : ∀ keyword given, field keywords (Keyword.text keyword) = some given →
        keyword.Holds found given value)
      (parts : ∀ next part, Leads definitions (.dict keywords) value next part → Valid next part) :
      Valid (.dict keywords) value

end

/-! ### Confirmation -/

/-- The word that a confirmation begins with. -/
def pending : Document := .str (ofString "pending")

/-- What a schema is a condition of: itself, and all that it refers to. -/
inductive Stands (definitions : DocumentFields) : Document → DocumentFields → Prop where
  | here (keywords : DocumentFields) : Stands definitions (.dict keywords) keywords
  | referred {keywords other : DocumentFields} {reference : Document}
      (refers : reference? keywords = some reference)
      (stands : Stands definitions (definition definitions reference) other) :
      Stands definitions (.dict keywords) other

/-- A schema offers a pending confirmation if it enumerates what it accepts, and whatever enumerates that,
the schema itself or what it refers to, lists a pending one. -/
def Offers (definitions : DocumentFields) (schema : Document) : Prop :=
  (∃ keywords items, Stands definitions schema keywords ∧ field keywords "enum" = some (.list items)) ∧
    ∀ keywords items, Stands definitions schema keywords →
      field keywords "enum" = some (.list items) → pending ∈ items

/-- At a place that offers a pending confirmation the confirmation is pending. -/
def ConfirmsHere (definitions : DocumentFields) (schema value : Document) : Prop :=
  ∀ keywords offered part, schema = .dict keywords →
    lookup (properties keywords) (ofString "confirmation") = some offered →
    Offers definitions offered → lookup value.members (ofString "confirmation") = some part →
    part = pending

/-- Wherever a pending confirmation is offered, the confirmation is pending. -/
def Confirms (definitions : DocumentFields) (schema value : Document) : Prop :=
  ∀ place part, Reaches definitions schema value place part → ConfirmsHere definitions place part

theorem Confirms.here {definitions : DocumentFields} {schema value : Document}
    (confirms : Confirms definitions schema value) : ConfirmsHere definitions schema value :=
  confirms _ _ (.here schema value)

theorem Confirms.leads {definitions : DocumentFields} {schema value next part : Document}
    (confirms : Confirms definitions schema value) (leads : Leads definitions schema value next part) :
    Confirms definitions next part :=
  fun _ _ reaches => confirms _ _ (.later leads reaches)

end SchemaValidity

end Omnitensor
