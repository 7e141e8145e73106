/-
This file says when a document that was written anew is as good as the one that was read.

Two documents agree if they say the same along every path. Apart from that a member may be recomputed,
and one that the first leaves out may be written out with its default. A document is restated under a
schema by one that is valid and agrees with it. A record is restated member by member and a list item by
item, so what is left for each format is one fact for each of its members.
-/

import Omnitensor.JsonSchema

namespace Omnitensor

namespace Document

/-! ### Members -/

/-- The members of a record that are there. -/
def present (slots : List (String × Option Document)) : DocumentFields :=
  slots.filterMap fun slot => slot.2.map fun value => (.ofString slot.1, value)

theorem ofString_inj {first second : String} :
    PyString.ofString first = PyString.ofString second ↔ first = second := by
  refine ⟨fun same => ?_, fun same => same ▸ rfl⟩
  have chars := congrArg PyString.chars? same
  rw [PyString.ofString, PyString.ofString, PyString.chars?_ofChars, PyString.chars?_ofChars] at chars
  exact String.toList_inj.mp (Option.some.inj chars)

/-- Look a name up. -/
def lookup (fields : DocumentFields) (name : PyString) : Option Document :=
  (fields.find? fun member => decide (member.1 = name)).map Prod.snd

theorem lookup_ofString (fields : DocumentFields) (key : String) :
    lookup fields (.ofString key) = PyValue.field fields key := rfl

@[simp] theorem field_present_nil (key : String) : PyValue.field (present []) key = none := rfl

@[simp] theorem field_present_cons (name key : String) (value : Option Document)
    (slots : List (String × Option Document)) :
    PyValue.field (present ((name, value) :: slots)) key =
      if name = key then value.or (PyValue.field (present slots) key)
      else PyValue.field (present slots) key := by
  cases value with
  | none =>
    rw [Option.none_or, ite_self]
    rfl
  | some value =>
    have step : present ((name, some value) :: slots) =
        (PyString.ofString name, value) :: present slots := rfl
    rw [step, PyValue.field, List.find?_cons]
    by_cases same : name = key
    · rw [if_pos same, same, decide_eq_true rfl]
      rfl
    · rw [if_neg same, decide_eq_false fun equal => same (ofString_inj.mp equal)]
      rfl

theorem mem_present {slots : List (String × Option Document)} {member : PyString × Document}
    (inside : member ∈ present slots) :
    ∃ name, (name, some member.2) ∈ slots ∧ member.1 = .ofString name := by
  obtain ⟨⟨name, value⟩, slot, said⟩ := List.mem_filterMap.mp inside
  obtain ⟨value, rfl, rfl⟩ := Option.map_eq_some_iff.mp said
  exact ⟨name, slot, rfl⟩

theorem mem_of_lookup {fields : DocumentFields} {name : PyString} {value : Document}
    (found : lookup fields name = some value) : (name, value) ∈ fields := by
  obtain ⟨⟨known, value⟩, same, rfl⟩ := Option.map_eq_some_iff.mp found
  have named : known = name := by simpa using List.find?_some same
  exact named ▸ List.mem_of_find?_eq_some same

/-! ### Paths -/

/-- A step from a document to one of its parts. -/
inductive Step where
  | key (name : PyString)
  | item (position : Nat)

/-- A part that has no parts. -/
inductive Leaf where
  | bool (value : Bool)
  | number (value : Rat)
  | constant (value : JsonConstant)
  | text (value : PyString)
  deriving DecidableEq

/-- What a part without parts says; null says nothing. -/
def leaf? : Document → Option Leaf
  | .null => none
  | .bool value => some (.bool value)
  | .int value => some (.number value)
  | .float value => some (.number value)
  | .constant value => some (.constant value)
  | .str text => some (.text text)
  | .list _ => none
  | .dict _ => none

/-- The part that one step leads to. -/
def step : Step → Document → Option Document
  | .key name, .dict fields => lookup fields name
  | .item position, .list items => items[position]?
  | _, _ => none

/-- What a document says at the end of a path. -/
def stated : List Step → Document → Option Leaf
  | [], document => leaf? document
  | first :: path, document => (step first document).bind (stated path)

@[simp] theorem stated_null (path : List Step) : stated path .null = none := by
  cases path with
  | nil => rfl
  | cons first path => cases first <;> rfl

/-- What is taken from an agreement: members that are recomputed, and defaults. -/
structure Terms where
  recomputed : List String
  defaults : List (String × Leaf)

namespace Terms

variable (terms : Terms)

/-- No step of a path leads to a member that is recomputed. -/
def Compares (path : List Step) : Prop :=
  ∀ name ∈ terms.recomputed, Step.key (.ofString name) ∉ path

/-- What a document says by default at the end of a path. -/
def default? (path : List Step) : Option Leaf :=
  match path.getLast? with
  | some (.key name) => (terms.defaults.find? fun entry => decide (.ofString entry.1 = name)).map
      Prod.snd
  | _ => none

/-- Two answers agree at the end of a path: they are the same, or the second is the default that the first
left out. -/
def AgreesAt (path : List Step) (first second : Option Leaf) : Prop :=
  second = first ∨ first = none ∧ second = terms.default? path

/-- Two documents agree. -/
def Agrees (first second : Document) : Prop :=
  ∀ path, terms.Compares path → terms.AgreesAt path (stated path first) (stated path second)

/-- Two members agree, either of which may be missing. -/
def MembersAgree (name : String) (first second : Option Document) : Prop :=
  ∀ path, terms.Compares (.key (.ofString name) :: path) →
    terms.AgreesAt (.key (.ofString name) :: path) (first.bind (stated path)) (second.bind (stated path))

end Terms

variable {terms : Terms}

namespace Terms

theorem Compares.of_cons {first : Step} {path : List Step}
    (compares : terms.Compares (first :: path)) : terms.Compares path :=
  fun name member inside => compares name member (List.mem_cons_of_mem first inside)

/-- The last step of a longer path is the last of the rest. -/
theorem default?_cons (first second : Step) (path : List Step) :
    terms.default? (first :: second :: path) = terms.default? (second :: path) := by
  rw [default?, default?, List.getLast?_cons_cons]

theorem Agrees.refl (document : Document) : terms.Agrees document document :=
  fun _ _ => .inl rfl

/-- Documents that say nothing agree. -/
theorem MembersAgree.of_silent (name : String) {first second : Option Document}
    (firstSilent : ∀ path, first.bind (stated path) = none)
    (secondSilent : ∀ path, second.bind (stated path) = none) :
    terms.MembersAgree name first second := by
  intro path _
  rw [firstSilent, secondSilent]
  exact .inl rfl

theorem MembersAgree.of_recomputed {name : String} (recomputed : name ∈ terms.recomputed)
    (first second : Option Document) : terms.MembersAgree name first second :=
  fun _ compares => absurd List.mem_cons_self (compares name recomputed)

/-- Members agree that are documents which agree. -/
theorem Agrees.members {first second : Document} (agrees : terms.Agrees first second)
    (name : String) : terms.MembersAgree name (some first) (some second) := by
  intro path compares
  cases path with
  | nil =>
    rcases agrees [] (fun _ _ inside => by cases inside) with same | ⟨silent, same⟩
    · exact .inl same
    · refine .inl ?_
      change leaf? second = leaf? first
      have none : leaf? second = none := same
      rw [none]
      exact silent.symm
  | cons step path =>
    rcases agrees _ compares.of_cons with same | ⟨silent, same⟩
    · exact .inl same
    · refine .inr ⟨silent, same.trans ?_⟩
      rw [default?_cons]

/-- A default is written out that was left out. -/
theorem MembersAgree.of_default {name : String} {leaf : Leaf} {value : Document}
    (written : leaf? value = some leaf) (scalar : ∀ first path, stated (first :: path) value = none)
    (default : terms.default? [.key (.ofString name)] = some leaf) :
    terms.MembersAgree name none (some value) := by
  intro path _
  cases path with
  | nil => exact .inr ⟨rfl, written.trans default.symm⟩
  | cons first path => exact .inl (scalar first path)

/-- Records agree whose members agree. -/
theorem Agrees.of_dict {first second : DocumentFields} {names : List String}
    (firstKnown : ∀ member ∈ first, member.1 ∈ names.map PyString.ofString)
    (secondKnown : ∀ member ∈ second, member.1 ∈ names.map PyString.ofString)
    (members : ∀ name ∈ names,
      terms.MembersAgree name (PyValue.field first name) (PyValue.field second name)) :
    terms.Agrees (.dict first) (.dict second) := by
  intro path compares
  cases path with
  | nil => exact .inl rfl
  | cons step path =>
    cases step with
    | item position => exact .inl rfl
    | key name =>
      by_cases known : name ∈ names.map PyString.ofString
      · obtain ⟨name, member, rfl⟩ := List.mem_map.mp known
        exact members name member path compares
      · have missing : ∀ fields : DocumentFields,
            (∀ member ∈ fields, member.1 ∈ names.map PyString.ofString) →
              lookup fields name = none := by
          intro fields knows
          cases found : lookup fields name with
          | none => rfl
          | some value => exact absurd (knows _ (mem_of_lookup found)) known
        refine .inl ?_
        change (lookup second name).bind (stated path) = (lookup first name).bind (stated path)
        rw [missing first firstKnown, missing second secondKnown]

/-- Lists agree whose items agree one by one. -/
theorem Agrees.of_list {first second : List Document}
    (items : List.Forall₂ terms.Agrees first second) : terms.Agrees (.list first) (.list second) := by
  intro path compares
  cases path with
  | nil => exact .inl rfl
  | cons step path =>
    cases step with
    | key name => exact .inl rfl
    | item position =>
      change terms.AgreesAt _ (first[position]?.bind (stated path)) (second[position]?.bind (stated path))
      by_cases inside : position < first.length
      · have within : position < second.length := items.length_eq ▸ inside
        rw [List.getElem?_eq_getElem inside, List.getElem?_eq_getElem within]
        have agrees := List.forall₂_iff_get.mp items |>.2 position inside within
        rcases agrees path compares.of_cons with same | ⟨silent, same⟩
        · exact .inl same
        · refine .inr ⟨silent, same.trans ?_⟩
          cases path with
          | nil => rfl
          | cons next path => rw [default?_cons]
      · have beyond : ¬ position < second.length := items.length_eq ▸ inside
        rw [List.getElem?_eq_none (Nat.le_of_not_lt inside),
          List.getElem?_eq_none (Nat.le_of_not_lt beyond)]
        exact .inl rfl

end Terms

end Document

/-! ### Schemas -/

namespace Schema

open Document

/-- Whether a member is valid that may be missing. -/
def validMember (required : Bool) (schema : Schema) : Option Document → Bool
  | none => !required
  | some value => schema.valid value

variable {document first second : Document} {items schema : Schema}
  {properties : List (String × Bool × Schema)} {slots : List (String × Option Document)}
  {minimum maximum : Option Int}

attribute [local simp] Schema.valid in
theorem validProperties_iff {fields : DocumentFields} :
    validProperties properties fields = true ↔ ∀ property ∈ properties,
      validMember property.2.1 property.2.2 (PyValue.field fields property.1) = true := by
  induction properties with
  | nil => exact iff_of_true rfl nofun
  | cons property properties inductionHypothesis =>
    obtain ⟨name, required, schema⟩ := property
    rw [validProperties, Bool.and_eq_true, inductionHypothesis, List.forall_mem_cons]
    exact and_congr_left fun _ => by cases PyValue.field fields name <;> rfl

/-- A valid object holds members that the schema names, each of which is valid. -/
theorem valid_object_iff :
    (object properties).valid document = true ↔ ∃ fields, document = .dict fields ∧
      (∀ member ∈ fields, member.1 ∈ (properties.map Prod.fst).map PyString.ofString) ∧
      ∀ property ∈ properties,
        validMember property.2.1 property.2.2 (PyValue.field fields property.1) = true := by
  rw [List.map_map]
  constructor
  · intro valid
    cases document <;>
      simp only [Schema.valid, fields?, Option.any_none, Option.any_some, reduceCtorEq] at valid
    obtain ⟨known, members⟩ := Bool.and_eq_true_iff.mp valid
    exact ⟨_, rfl, by simpa using known, validProperties_iff.mp members⟩
  · rintro ⟨fields, rfl, known, members⟩
    simp only [Schema.valid, fields?, Option.any_some, Bool.and_eq_true]
    exact ⟨by simpa using known, validProperties_iff.mpr members⟩

theorem valid_array_iff {shortest : Nat} :
    (array shortest items).valid document = true ↔ ∃ values, document = .list values ∧
      shortest ≤ values.length ∧ ∀ item ∈ values, items.valid item = true := by
  constructor
  · intro valid
    cases document <;>
      simp only [Schema.valid, items?, Option.any_none, Option.any_some, reduceCtorEq] at valid
    simp only [Bool.and_eq_true, decide_eq_true_eq, List.all_eq_true] at valid
    exact ⟨_, rfl, valid⟩
  · rintro ⟨values, rfl, long, all⟩
    simp only [Schema.valid, items?, Option.any_some, Bool.and_eq_true, decide_eq_true_eq,
      List.all_eq_true]
    exact ⟨long, all⟩

theorem valid_integer_iff :
    (integer minimum maximum).valid document = true ↔ ∃ number, document.integer? = some number ∧
      (∀ bound ∈ minimum, bound ≤ number) ∧ ∀ bound ∈ maximum, number ≤ bound := by
  rw [Schema.valid, Option.any_eq_true]
  refine exists_congr fun number => and_congr_right fun _ => ?_
  cases minimum <;> cases maximum <;> simp

/-- A schema that also allows null is satisfied by null and by what it was before. -/
theorem valid_nullable_iff (rejects : schema.valid .null = false) :
    (nullable schema).valid document = true ↔ document = .null ∨ schema.valid document = true := by
  cases document <;> simp [nullable, Schema.valid, rejects]

/-- Only texts are valid. -/
def Textual (schema : Schema) : Prop :=
  ∀ document, schema.valid document = true → ∃ text, document = .str text

theorem textual_string (shortest : Nat) (longest : Option Nat) :
    Textual (.string shortest longest) := by
  intro document valid
  cases document <;> simp [Schema.valid, text?] at valid ⊢

theorem textual_pattern (found : PyString → Bool) : Textual (.pattern found) := by
  intro document valid
  cases document <;> simp [Schema.valid, text?] at valid ⊢

theorem textual_words (values : List String) : Textual (.words values) := by
  intro document valid
  cases document <;> simp [Schema.valid, text?] at valid ⊢

theorem Textual.oneOf {first second : Schema} (firstTextual : Textual first)
    (secondTextual : Textual second) : Textual (.oneOf first second) := by
  intro document valid
  rw [Schema.valid, bne_iff_ne] at valid
  cases accepted : first.valid document with
  | true => exact firstTextual document accepted
  | false =>
    rw [accepted] at valid
    exact secondTextual document (by simpa using valid)

theorem Textual.rejects (textual : Textual schema) : schema.valid .null = false := by
  cases accepted : schema.valid .null with
  | false => rfl
  | true => obtain ⟨text, same⟩ := textual .null accepted; cases same

theorem object_rejects (properties : List (String × Bool × Schema)) :
    (object properties).valid .null = false := rfl

/-! ### Restatements -/

variable (terms : Document.Terms)

/-- A document restates another under a schema. -/
structure Restated (schema : Schema) (first second : Document) : Prop where
  valid : schema.valid second = true
  agrees : terms.Agrees first second

/-- A member restates another, either of which may be missing. -/
structure Restates (property : String × Bool × Schema) (first second : Option Document) : Prop where
  valid : validMember property.2.1 property.2.2 second = true
  agrees : terms.MembersAgree property.1 first second

variable {terms}

theorem Restated.refl (valid : schema.valid document = true) :
    Restated terms schema document document := ⟨valid, .refl _⟩

theorem Restated.member (restated : Restated terms schema first second) (name : String)
    (required : Bool) : Restates terms (name, required, schema) (some first) (some second) :=
  ⟨restated.valid, restated.agrees.members name⟩

theorem Restated.nullable (restated : Restated terms schema first second)
    (rejects : schema.valid .null = false) : Restated terms (nullable schema) first second :=
  ⟨(valid_nullable_iff rejects).mpr (.inr restated.valid), restated.agrees⟩

/-- A member that says nothing may be left out. -/
theorem Restates.omitted {name : String} {first : Option Document}
    (silent : ∀ path, first.bind (stated path) = none) :
    Restates terms (name, false, schema) first none :=
  ⟨rfl, .of_silent _ silent fun _ => rfl⟩

/-- A number is written as an integer. -/
theorem Restated.integer {number : Int} (valid : (integer minimum maximum).valid document = true)
    (read : document.integer? = some number) :
    Restated terms (integer minimum maximum) document (.int number) := by
  obtain ⟨known, same, bounds⟩ := valid_integer_iff.mp valid
  obtain rfl := Option.some.inj (read.symm.trans same)
  refine ⟨valid_integer_iff.mpr ⟨number, rfl, bounds⟩, fun path _ => .inl ?_⟩
  cases document <;> simp only [integer?, reduceCtorEq, Option.some.injEq] at read
  case int value => rw [read]
  case float value =>
    split_ifs at read with whole
    obtain rfl := Option.some.inj read
    cases path with
    | nil =>
      have same : ((value.num : Int) : Rat) = value := Rat.coe_int_num_of_den_eq_one whole
      simp [stated, leaf?, same]
    | cons first path => cases first <;> rfl

/-- A list is restated whose items are restated one by one. -/
theorem Restated.array {shortest : Nat} {first second : List Document}
    (long : shortest ≤ first.length) (restated : List.Forall₂ (Restated terms items) first second) :
    Restated terms (array shortest items) (.list first) (.list second) := by
  refine ⟨valid_array_iff.mpr ⟨second, rfl, restated.length_eq ▸ long, ?_⟩,
    .of_list (restated.imp fun _ _ each => each.agrees)⟩
  intro item member
  obtain ⟨position, inside, rfl⟩ := List.mem_iff_getElem.mp member
  exact ((List.forall₂_iff_get.mp restated).2 position (restated.length_eq ▸ inside) inside).valid

/-- The members that are there have names that are known. -/
theorem known_of_present (known : ∀ slot ∈ slots, slot.1 ∈ properties.map Prod.fst) :
    ∀ member ∈ present slots,
      member.1 ∈ (properties.map Prod.fst).map PyString.ofString := by
  intro member inside
  obtain ⟨name, slot, same⟩ := mem_present inside
  exact List.mem_map.mpr ⟨name, known _ slot, same.symm⟩

theorem valid_present (known : ∀ slot ∈ slots, slot.1 ∈ properties.map Prod.fst)
    (members : ∀ property ∈ properties,
      validMember property.2.1 property.2.2 (PyValue.field (present slots) property.1) = true) :
    (object properties).valid (.dict (present slots)) = true :=
  valid_object_iff.mpr ⟨_, rfl, known_of_present known, members⟩

/-- A record is restated whose members are restated one by one. -/
theorem Restated.object {first : DocumentFields}
    (valid : (object properties).valid (.dict first) = true)
    (known : ∀ slot ∈ slots, slot.1 ∈ properties.map Prod.fst)
    (members : ∀ property ∈ properties, Restates terms property
      (PyValue.field first property.1) (PyValue.field (present slots) property.1)) :
    Restated terms (object properties) (.dict first) (.dict (present slots)) := by
  obtain ⟨fields, same, named, _⟩ := valid_object_iff.mp valid
  cases same
  refine ⟨valid_present known fun property member => (members property member).valid,
    .of_dict named (known_of_present known) ?_⟩
  intro name member
  obtain ⟨property, inside, rfl⟩ := List.mem_map.mp member
  exact (members property inside).agrees

end Schema

end Omnitensor
