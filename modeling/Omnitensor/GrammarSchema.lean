/-
This file models the projection of a task schema for a decoding grammar.

References to definitions are written out: what stands beside a reference takes the place of what the
definition has under the same key. Then keywords that a grammar cannot take are removed from every
dictionary, and a confirmation that offers to be pending has to be.

Both passes go down with fuel, which counts nested definitions as well; that it is enough is proved.
-/

import Omnitensor.Fallible
import Omnitensor.SchemaValidity

namespace Omnitensor

open PyString (ofString)

open PyValue (field)

open Document SchemaValidity

/-- Why there is no projection: a stable refusal, or a test for membership in what has no members. -/
inductive GrammarError where
  | refused (detail : String)
  | type
  /-- The fuel is used up. -/
  | exhausted
  deriving DecidableEq

namespace Grammar

/-! ### Depth -/

mutual

/-- How deep a value nests. -/
def depth : Document → Nat
  | .list items => depthItems items + 1
  | .dict members => depthMembers members + 1
  | _ => 0

def depthItems : List Document → Nat
  | [] => 0
  | item :: items => max (depth item) (depthItems items)

def depthMembers : DocumentFields → Nat
  | [] => 0
  | (_, value) :: members => max (depth value) (depthMembers members)

end

/-! ### Dictionaries -/

/-- `fields.pop(key, None)`. -/
def pop (key : String) (fields : DocumentFields) : DocumentFields :=
  fields.filter fun member => decide (member.1 ≠ ofString key)

/-- `fields[key] = value` for a key that is there. -/
def replace (key : String) (value : Document) (fields : DocumentFields) : DocumentFields :=
  fields.map fun member => if member.1 = ofString key then (member.1, value) else member

/-- `target.update(siblings)` without the reference: a key that is there keeps its place. -/
def merge (target siblings : DocumentFields) : DocumentFields :=
  let others := pop "$ref" siblings
  (target.map fun member => (member.1, (lookup others member.1).getD member.2)) ++
    others.filter fun member => decide (member.1 ∉ names target)

/-- Change every child. -/
def mapChildren (change : Document → Except GrammarError Document) (fields : DocumentFields) :
    Except GrammarError DocumentFields :=
  fields.mapM fun member => do
    let value ← change member.2
    return (member.1, value)

/-! ### References -/

/-- The name and the keywords of the definition that is referred to, unless it is being written out. -/
def resolve (definitions : DocumentFields) (stack : List PyString) (reference : Document) :
    Except GrammarError (PyString × DocumentFields) :=
  match reference with
  | .str text =>
    if referencePrefix <+: text then
      let name := text.drop referencePrefix.length
      if name ∈ stack then .error (.refused "generation schema reference is invalid")
      else
        match lookup definitions name with
        | none => .error (.refused "generation schema reference is invalid")
        | some (.dict target) => .ok (name, target)
        | some _ => .error (.refused "generation schema definition is invalid")
    else .error (.refused "generation schema uses an unsupported reference")
  | _ => .error (.refused "generation schema uses an unsupported reference")

def inlineLocalRefs (definitions : DocumentFields) :
    Nat → List PyString → Document → Except GrammarError Document
  | 0, _, _ => .error .exhausted
  | fuel + 1, stack, value =>
    match value with
    | .list items => PyValue.list <$> items.mapM (inlineLocalRefs definitions fuel stack)
    | .dict fields =>
      match reference? fields with
      | none => PyValue.dict <$> mapChildren (inlineLocalRefs definitions fuel stack) fields
      | some reference => do
        let (name, target) ← resolve definitions stack reference
        inlineLocalRefs definitions fuel (stack ++ [name]) (.dict (merge target fields))
    | value => .ok value

/-! ### Keywords -/

/-- A pattern with a digit class, which a grammar does not take. -/
def unusablePattern (fields : DocumentFields) : Bool :=
  match field fields "pattern" with
  | some (.str pattern) => decide (ofString "\\d" <:+: pattern)
  | _ => false

def isPending : Document → Bool
  | .str text => decide (text = ofString "pending")
  | _ => false

/-- `"pending" in enum`. -/
def containsPending : Document → Except GrammarError Bool
  | .list items => .ok (items.any isPending)
  | .dict fields => .ok (decide (ofString "pending" ∈ names fields))
  | .str text => .ok (decide (ofString "pending" <:+: text))
  | _ => .error .type

/-- Whether a schema of a confirmation offers to be pending. -/
def offersPending : Document → Except GrammarError Bool
  | .dict confirmation => containsPending ((field confirmation "enum").getD (.list []))
  | _ => .ok false

/-- The schema of a confirmation that is pending. -/
def pendingOnly : Document := .dict [(ofString "const", pending)]

/-- Require a confirmation to be pending if it offers to be. -/
def confirmPending (fields : DocumentFields) : Except GrammarError DocumentFields :=
  match field fields "properties" with
  | some (.dict properties) =>
    match field properties "confirmation" with
    | some confirmation => do
      let offers ← offersPending confirmation
      return if offers then
        replace "properties" (.dict (replace "confirmation" pendingOnly properties)) fields
      else fields
    | none => .ok fields
  | _ => .ok fields

/-- Remove the keywords of one dictionary that a grammar cannot take. -/
def projectHere (fields : DocumentFields) : Except GrammarError DocumentFields :=
  let bounded := pop "maxLength" fields
  confirmPending (if unusablePattern bounded then pop "pattern" bounded else bounded)

def projectGrammarKeywords : Nat → Document → Except GrammarError Document
  | 0, _ => .error .exhausted
  | fuel + 1, value =>
    match value with
    | .list items => PyValue.list <$> items.mapM (projectGrammarKeywords fuel)
    | .dict fields => do
      let projected ← projectHere fields
      PyValue.dict <$> mapChildren (projectGrammarKeywords fuel) projected
    | value => .ok value

/-! ### Schemas -/

/-- Remove the definitions. -/
def withoutDefinitions : Document → Document
  | .dict fields => .dict (pop "$defs" fields)
  | value => value

/-- The fuel for a schema with some definitions. -/
def inlineFuel (definitions : DocumentFields) (schema : Document) : Nat :=
  (definitions.length + 1) * (depth schema + 2)

/-- The schema that a grammar is made of: local references inlined, keywords projected. -/
def grammarSchema (schema : DocumentFields) : Except GrammarError Document :=
  match (field schema "$defs").getD (.dict []) with
  | .dict definitions => do
    let inlined ← inlineLocalRefs definitions (inlineFuel definitions (.dict schema)) [] (.dict schema)
    projectGrammarKeywords (depth inlined + 1) (withoutDefinitions inlined)
  | _ => .error (.refused "generation schema definitions are invalid")

end Grammar

end Omnitensor
