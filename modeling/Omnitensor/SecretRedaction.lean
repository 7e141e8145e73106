/-
This file models the redactor of secret values, and says what it leaves of them.

The secrets are replaced one after another, the longest first, in every text of a value. The walk stops at a
depth and at a number of nodes, and puts a mark in place of what it does not reach. An exception is told by
its class and its redacted text. The keys of a mapping are left as they are.

A key of a mapping is the text that it has, and so is an exception.
-/

import Omnitensor.ByteReading
import Omnitensor.Dict
import Omnitensor.PythonText
import Omnitensor.WordReplacement

namespace Omnitensor

namespace Redaction

variable {Real : Type}

def maxRedactionDepth : Nat := 16
def maxRedactionNodes : Nat := 4096
def redacted : PyString := .ofString "[REDACTED]"
def redactionLimit : PyString := .ofString "[REDACTED:LIMIT]"

/-! ### Values -/

/-- A value to redact. -/
inductive Redactable (Real : Type) where
  | none
  | bool (truth : Bool)
  | int (number : Int)
  | float (number : Real)
  | text (text : PyString)
  | bytes (bytes : List UInt8)
  /-- An exception of a class, with its text. -/
  | exception (className detail : PyString)
  /-- An object of another class. -/
  | foreign (className : PyString)
  | list (items : List (Redactable Real))
  | tuple (items : List (Redactable Real))
  | mapping (members : List (PyString × Redactable Real))

/-- A value that was redacted. -/
inductive Public (Real : Type) where
  | none
  | bool (truth : Bool)
  | int (number : Int)
  | float (number : Real)
  | text (text : PyString)
  | list (items : List (Public Real))
  | tuple (items : List (Public Real))
  | mapping (members : List (PyString × Public Real))

mutual

/-- The texts in a value, its keys left out. -/
def Public.texts : Public Real → List PyString
  | .text content => [content]
  | .list items => textsOfItems items
  | .tuple items => textsOfItems items
  | .mapping members => textsOfMembers members
  | _ => []

def textsOfItems : List (Public Real) → List PyString
  | [] => []
  | item :: items => item.texts ++ textsOfItems items

def textsOfMembers : List (PyString × Public Real) → List PyString
  | [] => []
  | (_, value) :: members => value.texts ++ textsOfMembers members

end

mutual

/-- The classes that a value tells: of its exceptions, and of its other objects. -/
def Redactable.classNames : Redactable Real → List PyString
  | .exception className _ => [className]
  | .foreign className => [className]
  | .list items => namesOfItems items
  | .tuple items => namesOfItems items
  | .mapping members => namesOfMembers members
  | _ => []

def namesOfItems : List (Redactable Real) → List PyString
  | [] => []
  | item :: items => item.classNames ++ namesOfItems items

def namesOfMembers : List (PyString × Redactable Real) → List PyString
  | [] => []
  | (_, value) :: members => value.classNames ++ namesOfMembers members

end

/-! ### The redactor -/

/-- A secret value, as text or as bytes. -/
inductive SecretValue where
  | text (text : PyString)
  | bytes (bytes : List UInt8)

/-- The text of bytes, with replacement characters where they are no text. -/
def decodeBytes (bytes : List UInt8) : PyString := .ofString (ByteReading.decodeReplacing bytes)

/-- A secret as the text that is looked for. -/
def SecretValue.decoded : SecretValue → PyString
  | .text content => content
  | .bytes content => decodeBytes content

/-- Values that are replaced in texts, none of which is empty. -/
structure SecretRedactor where
  values : List PyString
  filled : ∀ value ∈ values, value ≠ []

/-- The texts of secrets, each once. -/
def normalized (values : List SecretValue) : List PyString :=
  values.foldl (fun normalized value =>
    if value.decoded ≠ [] ∧ value.decoded ∉ normalized then normalized ++ [value.decoded]
    else normalized) []

theorem mem_normalized {values : List SecretValue} {text : PyString} :
    text ∈ normalized values ↔ text ≠ [] ∧ ∃ value ∈ values, value.decoded = text := by
  have general : ∀ known : List PyString, (∀ text ∈ known, text ≠ []) →
      (text ∈ values.foldl (fun normalized value =>
        if value.decoded ≠ [] ∧ value.decoded ∉ normalized then normalized ++ [value.decoded]
        else normalized) known ↔ text ∈ known ∨ text ≠ [] ∧ ∃ value ∈ values, value.decoded = text) := by
    induction values with
    | nil =>
      intro known _
      simp only [List.foldl_nil, List.not_mem_nil, false_and, exists_false, and_false, or_false]
    | cons value values inductionHypothesis =>
      intro known filled
      rw [List.foldl_cons, List.exists_mem_cons_iff]
      split
      · rename_i fresh
        rw [inductionHypothesis _ (List.forall_mem_append.mpr ⟨filled, List.forall_mem_singleton.mpr fresh.1⟩),
          List.mem_append, List.mem_singleton]
        constructor
        · rintro ((old | rfl) | later)
          · exact Or.inl old
          · exact Or.inr ⟨fresh.1, Or.inl rfl⟩
          · exact Or.inr ⟨later.1, Or.inr later.2⟩
        · rintro (old | ⟨something, rfl | later⟩)
          · exact Or.inl (Or.inl old)
          · exact Or.inl (Or.inr rfl)
          · exact Or.inr ⟨something, later⟩
      · rename_i stale
        rw [inductionHypothesis known filled]
        refine or_congr_right' fun absent => and_congr_right fun something => ?_
        refine (or_iff_right fun same : value.decoded = text => stale ?_).symm
        rw [same]
        exact ⟨something, absent⟩
  rw [normalized, general [] fun _ member => absurd member List.not_mem_nil]
  exact or_iff_right List.not_mem_nil

/-- A redactor of values, which replaces the longest first. -/
def SecretRedactor.ofValues (values : List SecretValue) : SecretRedactor where
  values := (normalized values).mergeSort fun first second => decide (second.length ≤ first.length)
  filled _ member := (mem_normalized.mp (List.mem_mergeSort.mp member)).1

namespace SecretRedactor

variable (redactor : SecretRedactor)

def redactText (text : PyString) : PyString := Replacement.replaceAll redacted redactor.values text

/-- A value that holds no others. -/
def redactScalar : Redactable Real → Public Real
  | .text text => .text (redactor.redactText text)
  | .bytes bytes => .text (redactor.redactText (decodeBytes bytes))
  | .exception className detail => .text (className ++ PyString.ofString ": " ++ redactor.redactText detail)
  | .none => .none
  | .bool truth => .bool truth
  | .int number => .int number
  | .float number => .float number
  | .foreign className => .text (PyString.ofString "<" ++ className ++ PyString.ofString ">")
  | .list _ | .tuple _ | .mapping _ => .none

mutual

/-- Redact a value at a depth, after a number of nodes. -/
def redactFrom (depth nodes : Nat) (value : Redactable Real) : Public Real × Nat :=
  if maxRedactionDepth < depth ∨ maxRedactionNodes < nodes + 1 then (.text redactionLimit, nodes + 1)
  else
    match value with
    | .mapping members =>
      let (members, nodes) := redactMembers (depth + 1) (nodes + 1) [] members
      (.mapping members, nodes)
    | .list items =>
      let (items, nodes) := redactItems (depth + 1) (nodes + 1) items
      (.list items, nodes)
    | .tuple items =>
      let (items, nodes) := redactItems (depth + 1) (nodes + 1) items
      (.tuple items, nodes)
    | scalar => (redactor.redactScalar scalar, nodes + 1)

def redactItems (depth nodes : Nat) : List (Redactable Real) → List (Public Real) × Nat
  | [] => ([], nodes)
  | item :: items =>
    let (item, nodes) := redactFrom depth nodes item
    let (items, nodes) := redactItems depth nodes items
    (item :: items, nodes)

/-- A key of the same text as one before takes its place. -/
def redactMembers (depth nodes : Nat) (done : List (PyString × Public Real)) :
    List (PyString × Redactable Real) → List (PyString × Public Real) × Nat
  | [] => (done, nodes)
  | (key, value) :: members =>
    let (value, nodes) := redactFrom depth nodes value
    redactMembers depth nodes (Dict.setEntries key value done) members

end

/-- A value with every secret replaced in its texts. -/
def redact (value : Redactable Real) : Public Real := (redactor.redactFrom 0 0 value).1

end SecretRedactor

/-! ### What is left of the secrets -/

/-- A secret that can be redacted: it is not empty, has no brackets, and is not part of the marks. -/
def Redacts (secret : PyString) : Prop :=
  secret ≠ [] ∧ .scalar '[' ∉ secret ∧ .scalar ']' ∉ secret ∧ ¬ secret <:+: PyString.ofString "REDACTED:LIMIT"

/-- A text in which no secret occurs. -/
def Free (secrets : List PyString) (text : PyString) : Prop := ∀ secret ∈ secrets, ¬ secret <:+: text

/-- A text in which no secret occurs, the name of a class aside: that of an object, or that which comes before
the text of an exception. -/
def Clean (secrets names : List PyString) (text : PyString) : Prop :=
  Free secrets text ∨ ∃ name ∈ names, text = PyString.ofString "<" ++ name ++ PyString.ofString ">" ∨
    ∃ detail, text = name ++ PyString.ofString ": " ++ detail ∧ Free secrets detail

theorem Clean.mono {secrets names more : List PyString} {text : PyString} (clean : Clean secrets names text)
    (among : names ⊆ more) : Clean secrets more text :=
  clean.imp_right fun ⟨name, member, told⟩ => ⟨name, among member, told⟩

namespace SecretRedactor

variable {redactor : SecretRedactor}

theorem free_redactText (allowed : ∀ secret ∈ redactor.values, Redacts secret) (text : PyString) :
    Free redactor.values (redactor.redactText text) := by
  have marked : redacted = .scalar '[' :: (PyString.ofString "REDACTED" ++ [.scalar ']']) := by decide +kernel
  have begins : PyString.ofString "REDACTED" <:+: PyString.ofString "REDACTED:LIMIT" :=
    ⟨[], PyString.ofString ":LIMIT", by decide +kernel⟩
  rw [redactText, marked]
  refine Replacement.not_infix_replaceAll (fun secret member => ?_) text
  obtain ⟨filled, unopened, unclosed, fresh⟩ := allowed secret member
  exact ⟨filled, unopened, unclosed, fun found => fresh (found.trans begins)⟩

theorem free_redactionLimit (allowed : ∀ secret ∈ redactor.values, Redacts secret) :
    Free redactor.values redactionLimit := by
  intro secret member found
  obtain ⟨filled, unopened, unclosed, fresh⟩ := allowed secret member
  have marked : redactionLimit = [] ++ .scalar '[' ::
      (PyString.ofString "REDACTED:LIMIT" ++ .scalar ']' :: []) := by decide +kernel
  rw [marked, Replacement.infix_append_cons unopened, Replacement.infix_append_cons unclosed,
    List.infix_nil] at found
  exact found.elim filled (Or.rec fresh filled)

theorem clean_redactScalar (allowed : ∀ secret ∈ redactor.values, Redacts secret)
    (value : Redactable Real) {text : PyString} (member : text ∈ (redactor.redactScalar value).texts) :
    Clean redactor.values value.classNames text := by
  cases value with
  | text content => exact Or.inl (List.mem_singleton.mp member ▸ free_redactText allowed content)
  | bytes content => exact Or.inl (List.mem_singleton.mp member ▸ free_redactText allowed _)
  | exception className detail =>
    exact Or.inr ⟨className, List.mem_singleton_self _, Or.inr ⟨_, List.mem_singleton.mp member,
      free_redactText allowed detail⟩⟩
  | foreign className =>
    exact Or.inr ⟨className, List.mem_singleton_self _, Or.inl (List.mem_singleton.mp member)⟩
  | none => exact absurd member List.not_mem_nil
  | bool _ => exact absurd member List.not_mem_nil
  | int _ => exact absurd member List.not_mem_nil
  | float _ => exact absurd member List.not_mem_nil
  | list _ => exact absurd member List.not_mem_nil
  | tuple _ => exact absurd member List.not_mem_nil
  | mapping _ => exact absurd member List.not_mem_nil

/-- The texts of members after one is set are those of the others, or its own. -/
theorem mem_textsOfMembers_setEntries {key text : PyString} {value : Public Real}
    {members : List (PyString × Public Real)}
    (member : text ∈ textsOfMembers (Dict.setEntries key value members)) :
    text ∈ value.texts ∨ text ∈ textsOfMembers members := by
  induction members with
  | nil => exact (List.mem_append.mp member).imp_right fun none => none
  | cons entry members inductionHypothesis =>
    rw [Dict.setEntries] at member
    rw [textsOfMembers, List.mem_append]
    split at member
    · exact (List.mem_append.mp member).imp_right Or.inr
    · rcases List.mem_append.mp member with own | others
      · exact Or.inr (Or.inl own)
      · exact (inductionHypothesis others).imp_right Or.inr

mutual

theorem clean_redactFrom (allowed : ∀ secret ∈ redactor.values, Redacts secret) (depth nodes : Nat) :
    ∀ (value : Redactable Real) {text : PyString},
      text ∈ (redactor.redactFrom depth nodes value).1.texts → Clean redactor.values value.classNames text
  | value, text, member => by
    unfold redactFrom at member
    split at member
    · exact Or.inl (List.mem_singleton.mp member ▸ free_redactionLimit allowed)
    · cases value with
      | list items => exact clean_redactItems allowed _ _ items member
      | tuple items => exact clean_redactItems allowed _ _ items member
      | mapping members =>
        have clean : Clean redactor.values ([] ++ namesOfMembers members) text :=
          clean_redactMembers allowed _ _ members (fun _ none => absurd none List.not_mem_nil) member
        exact clean
      | _ => exact clean_redactScalar allowed _ member

theorem clean_redactItems (allowed : ∀ secret ∈ redactor.values, Redacts secret) (depth nodes : Nat) :
    ∀ (items : List (Redactable Real)) {text : PyString},
      text ∈ textsOfItems (redactor.redactItems depth nodes items).1 →
        Clean redactor.values (namesOfItems items) text
  | [], _, member => absurd member List.not_mem_nil
  | item :: items, text, member => by
    rw [redactItems, textsOfItems] at member
    rw [namesOfItems]
    rcases List.mem_append.mp member with own | others
    · exact (clean_redactFrom allowed depth nodes item own).mono (List.subset_append_left _ _)
    · exact (clean_redactItems allowed depth _ items others).mono (List.subset_append_right _ _)

theorem clean_redactMembers (allowed : ∀ secret ∈ redactor.values, Redacts secret) (depth nodes : Nat)
    {names : List PyString} {done : List (PyString × Public Real)} :
    ∀ (members : List (PyString × Redactable Real)) {text : PyString},
      (∀ text ∈ textsOfMembers done, Clean redactor.values names text) →
      text ∈ textsOfMembers (redactor.redactMembers depth nodes done members).1 →
        Clean redactor.values (names ++ namesOfMembers members) text
  | [], text, before, member => (before text member).mono (List.subset_append_left _ _)
  | (key, value) :: members, text, before, member => by
    rw [redactMembers] at member
    rw [namesOfMembers, ← List.append_assoc]
    refine clean_redactMembers allowed depth _ members (fun other found => ?_) member
    rcases mem_textsOfMembers_setEntries found with own | old
    · exact (clean_redactFrom allowed depth nodes value own).mono (List.subset_append_right _ _)
    · exact (before other old).mono (List.subset_append_left _ _)

end

end SecretRedactor

/-- No secret is left in a text of what was redacted, names of classes aside. The secrets may overlap,
hold one another or the mark that replaces them, and the value may be nested as deep as it is. -/
theorem redact_clean (secrets : List SecretValue) (allowed : ∀ secret ∈ secrets, Redacts secret.decoded)
    (value : Redactable Real) :
    ∀ text ∈ ((SecretRedactor.ofValues secrets).redact value).texts,
      Clean (secrets.map SecretValue.decoded) value.classNames text := by
  have known : ∀ secret, secret ∈ (SecretRedactor.ofValues secrets).values ↔
      secret ∈ secrets.map SecretValue.decoded := by
    intro secret
    rw [SecretRedactor.ofValues, List.mem_mergeSort, mem_normalized, List.mem_map]
    exact and_iff_right_of_imp fun ⟨given, member, same⟩ => same ▸ (allowed given member).1
  have values : ∀ secret ∈ (SecretRedactor.ofValues secrets).values, Redacts secret := by
    intro secret member
    obtain ⟨given, among, rfl⟩ := List.mem_map.mp ((known secret).mp member)
    exact allowed given among
  have free : ∀ {text : PyString}, Free (SecretRedactor.ofValues secrets).values text →
      Free (secrets.map SecretValue.decoded) text :=
    fun all secret member => all secret ((known secret).mpr member)
  intro text member
  refine (SecretRedactor.clean_redactFrom values 0 0 value member).imp free ?_
  rintro ⟨name, named, object | ⟨detail, same, clean⟩⟩
  · exact ⟨name, named, Or.inl object⟩
  · exact ⟨name, named, Or.inr ⟨detail, same, free clean⟩⟩

/-- One secret that holds another, as text and as bytes. -/
def overlappingSecrets : List SecretValue := [.text (.ofString "token"), .bytes "secret-token".toUTF8.toList]

theorem redact_clean_overlapping :
    (∀ secret ∈ overlappingSecrets, Redacts secret.decoded) ∧
      ∀ text ∈ ((SecretRedactor.ofValues overlappingSecrets).redact (.list [
          .exception (.ofString "RuntimeError") (.ofString "used secret-token"),
          .mapping [(.ofString "log", .text (.ofString "a token"))]] : Redactable Float)).texts,
        Clean (overlappingSecrets.map SecretValue.decoded) [.ofString "RuntimeError"] text := by
  have allowed : ∀ secret ∈ overlappingSecrets, Redacts secret.decoded := by
    simp only [Redacts]
    decide +kernel
  exact ⟨allowed, redact_clean overlappingSecrets allowed _⟩

/-- A text below as many lists as the walk does not go. -/
def deepValue : Redactable Float :=
  (List.replicate 17 ()).foldr (fun _ inner => .list [inner]) (.text (.ofString "words"))

/-- A secret that is part of the mark for what is not reached occurs in it. -/
theorem not_clean_of_limit : ¬ ∀ (secrets : List SecretValue) (value : Redactable Float),
    (∀ secret ∈ secrets, secret.decoded ≠ [] ∧ .scalar '[' ∉ secret.decoded ∧ .scalar ']' ∉ secret.decoded ∧
      ¬ secret.decoded <:+: PyString.ofString "REDACTED") →
    ∀ text ∈ ((SecretRedactor.ofValues secrets).redact value).texts,
      Clean (secrets.map SecretValue.decoded) value.classNames text := by
  intro all
  have clean := all [.text (.ofString "LIMIT")] deepValue (by decide +kernel) (.ofString "[REDACTED:LIMIT]")
    (by decide +kernel)
  have names : deepValue.classNames = [] := by decide +kernel
  rw [names] at clean
  rcases clean with free | ⟨name, none, _⟩
  · exact free (.ofString "LIMIT") (by decide +kernel) (by decide +kernel)
  · exact absurd none List.not_mem_nil

end Redaction

end Omnitensor
