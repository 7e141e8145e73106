/-
This file develops insertion-ordered dictionaries.

A dictionary is a list of key-value pairs in which no key occurs twice, and the
proof of that travels with the list. Setting a key that is present keeps its
position; setting a new key appends it; erasing forgets it. The lemmas say how
lookups, the key order and the multiset of values react to each operation, which
is all a proof about code over such tables needs.
-/

import Mathlib.Data.List.Nodup
import Mathlib.Data.List.Perm.Basic
import Mathlib.Data.List.Perm.Subperm

namespace Omnitensor

/-- An insertion-ordered dictionary. -/
@[ext]
structure Dict (Key Value : Type) where
  /-- The pairs, oldest key first. -/
  entries : List (Key × Value)
  /-- No key is stored twice. -/
  nodup : (entries.map Prod.fst).Nodup

/-- Pairs of names are compared by value. -/
instance lawfulBEqPair : LawfulBEq (String × String) := inferInstance

namespace Dict

variable {Key Value Other : Type}

instance [DecidableEq Key] [DecidableEq Value] : DecidableEq (Dict Key Value) :=
  fun first second => decidable_of_iff (first.entries = second.entries) Dict.ext_iff.symm

/-- The dictionary with no key. -/
def empty : Dict Key Value := ⟨[], List.nodup_nil⟩

/-- The keys, oldest first. -/
def keys (dict : Dict Key Value) : List Key := dict.entries.map Prod.fst

/-- The values, in key order. -/
def values (dict : Dict Key Value) : List Value := dict.entries.map Prod.snd

/-- The number of keys. -/
def size (dict : Dict Key Value) : Nat := dict.entries.length

/-- Apply a function to every value, in place. -/
def mapValues (change : Key → Value → Other) (dict : Dict Key Value) : Dict Key Other where
  entries := dict.entries.map fun entry => (entry.1, change entry.1 entry.2)
  nodup := by
    rw [List.map_map]
    exact dict.nodup

/-- Keep the pairs a predicate accepts, in order. -/
def filter (accept : Key → Value → Bool) (dict : Dict Key Value) : Dict Key Value where
  entries := dict.entries.filter fun entry => accept entry.1 entry.2
  nodup := dict.nodup.sublist (List.filter_sublist.map Prod.fst)

@[simp] theorem entries_empty : (empty : Dict Key Value).entries = [] := rfl

@[simp] theorem keys_empty : (empty : Dict Key Value).keys = [] := rfl

@[simp] theorem size_empty : (empty : Dict Key Value).size = 0 := rfl

theorem nodup_keys (dict : Dict Key Value) : dict.keys.Nodup := dict.nodup

theorem length_keys (dict : Dict Key Value) : dict.keys.length = dict.size := List.length_map _

theorem length_values (dict : Dict Key Value) : dict.values.length = dict.size := List.length_map _

@[simp] theorem keys_mapValues (change : Key → Value → Other) (dict : Dict Key Value) :
    (dict.mapValues change).keys = dict.keys := by
  simp only [keys, mapValues, List.map_map]
  rfl

theorem mapValues_mapValues {Last : Type} (first : Key → Value → Other) (second : Key → Other → Last)
    (dict : Dict Key Value) :
    (dict.mapValues first).mapValues second =
      dict.mapValues fun key value => second key (first key value) :=
  Dict.ext (List.map_map ..)

@[simp] theorem size_mapValues (change : Key → Value → Other) (dict : Dict Key Value) :
    (dict.mapValues change).size = dict.size := List.length_map _

variable {dict : Dict Key Value} {key other : Key} {value : Value} {entry : Key × Value}
  {accept : Key → Value → Bool} {entries : List (Key × Value)}

theorem mem_filter :
    entry ∈ (dict.filter accept).entries ↔
      entry ∈ dict.entries ∧ accept entry.1 entry.2 = true := List.mem_filter

variable [DecidableEq Key]

/-! ### Lookup -/

/-- The value of a key, if it has one. -/
def get? (dict : Dict Key Value) (key : Key) : Option Value :=
  (dict.entries.find? fun entry => decide (entry.1 = key)).map Prod.snd

/-- Whether a key is present. -/
def contains (dict : Dict Key Value) (key : Key) : Bool := decide (key ∈ dict.keys)

@[simp] theorem contains_iff :
    dict.contains key = true ↔ key ∈ dict.keys := decide_eq_true_iff

@[simp] theorem get?_empty (key : Key) : (empty : Dict Key Value).get? key = none := rfl

/-- A stored pair is found: no other pair has its key. -/
theorem get?_eq_some_iff : dict.get? key = some value ↔ (key, value) ∈ dict.entries := by
  constructor
  · intro found
    obtain ⟨entry, first, rfl⟩ := Option.map_eq_some_iff.mp found
    have same : entry.1 = key := by simpa using List.find?_some first
    rw [← same]
    exact List.mem_of_find?_eq_some first
  · intro member
    have exists_entry : (dict.entries.find? fun entry => decide (entry.1 = key)).isSome :=
      List.find?_isSome.mpr ⟨(key, value), member, by simp⟩
    obtain ⟨entry, first⟩ := Option.isSome_iff_exists.mp exists_entry
    have same : entry.1 = key := by simpa using List.find?_some first
    have unique : entry = (key, value) :=
      List.inj_on_of_nodup_map dict.nodup (List.mem_of_find?_eq_some first) member same
    rw [get?, first, unique]
    rfl

theorem mem_keys_iff : key ∈ dict.keys ↔ ∃ value, dict.get? key = some value := by
  simp only [keys, List.mem_map, get?_eq_some_iff]
  constructor
  · rintro ⟨⟨_, value⟩, member, rfl⟩
    exact ⟨value, member⟩
  · rintro ⟨value, member⟩
    exact ⟨(key, value), member, rfl⟩

theorem get?_eq_none_iff : dict.get? key = none ↔ key ∉ dict.keys := by
  rw [mem_keys_iff, ← Option.not_isSome_iff_eq_none, Option.isSome_iff_exists]

theorem mem_keys_of_get? (found : dict.get? key = some value) : key ∈ dict.keys :=
  mem_keys_iff.2 ⟨value, found⟩

theorem get?_of_mem_entries (member : entry ∈ dict.entries) : dict.get? entry.1 = some entry.2 :=
  get?_eq_some_iff.mpr member

theorem mem_values_iff : value ∈ dict.values ↔ ∃ key, dict.get? key = some value := by
  simp only [values, List.mem_map, get?_eq_some_iff]
  constructor
  · rintro ⟨⟨key, _⟩, member, rfl⟩
    exact ⟨key, member⟩
  · rintro ⟨key, member⟩
    exact ⟨(key, value), member, rfl⟩

/-- When no two keys share a value, no value is stored twice. -/
theorem nodup_values
    (owner : ∀ first second value, dict.get? first = some value → dict.get? second = some value →
      first = second) : dict.values.Nodup := by
  refine List.Nodup.map_on (fun first firstMember second secondMember same => ?_)
    (List.Nodup.of_map _ dict.nodup)
  have firstFound := get?_of_mem_entries firstMember
  have secondFound := get?_of_mem_entries secondMember
  rw [← same] at secondFound
  exact Prod.ext (owner _ _ _ firstFound secondFound) same

@[simp] theorem get?_mapValues (change : Key → Value → Other) (dict : Dict Key Value) (key : Key) :
    (dict.mapValues change).get? key = (dict.get? key).map (change key) := by
  apply Option.ext
  intro value
  rw [get?_eq_some_iff, Option.map_eq_some_iff]
  simp only [mapValues, List.mem_map, Prod.mk.injEq, get?_eq_some_iff]
  constructor
  · rintro ⟨⟨_, stored⟩, member, rfl, rfl⟩
    exact ⟨stored, member, rfl⟩
  · rintro ⟨stored, member, rfl⟩
    exact ⟨(key, stored), member, rfl, rfl⟩

theorem get?_filter_of_accept :
    (dict.filter accept).get? key = some value ↔
      dict.get? key = some value ∧ accept key value = true := by
  rw [get?_eq_some_iff, mem_filter, get?_eq_some_iff]

/-! ### Erasing -/

/-- Forget a key. -/
def erase (dict : Dict Key Value) (key : Key) : Dict Key Value :=
  dict.filter fun stored _ => decide (stored ≠ key)

@[simp] theorem get?_erase (dict : Dict Key Value) (key other : Key) :
    (dict.erase key).get? other = if other = key then none else dict.get? other := by
  apply Option.ext
  intro value
  rw [erase, get?_filter_of_accept, decide_eq_true_iff]
  by_cases same : other = key
  · simp [same]
  · simp [same]

theorem keys_erase (dict : Dict Key Value) (key : Key) :
    (dict.erase key).keys = dict.keys.erase key := by
  rw [dict.nodup_keys.erase_eq_filter]
  simp only [keys, erase, filter, List.filter_map]
  congr 1
  refine List.filter_congr fun entry _ => ?_
  simp [bne, beq_eq_decide]

theorem erase_of_not_mem (absent : key ∉ dict.keys) : dict.erase key = dict := by
  refine Dict.ext (List.filter_eq_self.mpr fun entry member => decide_eq_true ?_)
  rintro rfl
  exact absent (List.mem_map_of_mem member)

theorem mem_keys_erase : other ∈ (dict.erase key).keys ↔ other ≠ key ∧ other ∈ dict.keys := by
  rw [mem_keys_iff, mem_keys_iff]
  by_cases same : other = key <;> simp [same]

@[simp] theorem erase_erase_self (dict : Dict Key Value) (key : Key) :
    (dict.erase key).erase key = dict.erase key :=
  erase_of_not_mem fun member => (mem_keys_erase.1 member).1 rfl

/-- A present key accounts for exactly one pair. -/
theorem entries_perm_of_get? (found : dict.get? key = some value) :
    dict.entries.Perm ((key, value) :: (dict.erase key).entries) := by
  have member : (key, value) ∈ dict.entries := get?_eq_some_iff.mp found
  have distinct : dict.entries.Nodup := List.Nodup.of_map _ dict.nodup
  refine (List.perm_ext_iff_of_nodup distinct ?_).mpr fun entry => ?_
  · refine List.nodup_cons.mpr ⟨?_, distinct.filter _⟩
    intro kept
    simpa using (mem_filter.1 kept).2
  · rw [List.mem_cons, erase, mem_filter, decide_eq_true_iff]
    constructor
    · intro stored
      by_cases same : entry.1 = key
      · exact Or.inl (List.inj_on_of_nodup_map dict.nodup stored member same)
      · exact Or.inr ⟨stored, same⟩
    · rintro (rfl | ⟨stored, _⟩)
      · exact member
      · exact stored

theorem values_perm_of_get? (found : dict.get? key = some value) :
    dict.values.Perm (value :: (dict.erase key).values) :=
  (entries_perm_of_get? found).map Prod.snd

theorem size_erase_add_one (found : dict.get? key = some value) :
    (dict.erase key).size + 1 = dict.size :=
  (entries_perm_of_get? found).length_eq.symm

theorem size_erase_le (dict : Dict Key Value) (key : Key) : (dict.erase key).size ≤ dict.size :=
  List.length_filter_le _ _

theorem mapValues_erase (change : Key → Value → Other) (dict : Dict Key Value) (key : Key) :
    (dict.erase key).mapValues change = (dict.mapValues change).erase key := by
  refine Dict.ext ?_
  simp only [erase, filter, mapValues, List.filter_map]
  rfl

/-! ### Setting -/

/-- The pairs after setting a key: in place when it is present, else at the end. -/
def setEntries (key : Key) (value : Value) : List (Key × Value) → List (Key × Value)
  | [] => [(key, value)]
  | entry :: rest =>
    if entry.1 = key then (key, value) :: rest else entry :: setEntries key value rest

theorem map_fst_setEntries (key : Key) (value : Value) (entries : List (Key × Value)) :
    (setEntries key value entries).map Prod.fst =
      if key ∈ entries.map Prod.fst then entries.map Prod.fst
      else entries.map Prod.fst ++ [key] := by
  induction entries with
  | nil => simp [setEntries]
  | cons entry rest inductionHypothesis =>
    by_cases same : entry.1 = key
    · simp [setEntries, same]
    · rw [setEntries, if_neg same, List.map_cons, List.map_cons, inductionHypothesis]
      by_cases present : key ∈ rest.map Prod.fst
      · rw [if_pos present, if_pos (List.mem_cons_of_mem _ present)]
      · have absent : key ∉ entry.1 :: rest.map Prod.fst := by
          simp only [List.mem_cons, not_or]
          exact ⟨fun equal => same equal.symm, present⟩
        rw [if_neg present, if_neg absent, List.cons_append]

theorem filter_setEntries (key : Key) (value : Value) (entries : List (Key × Value)) :
    (setEntries key value entries).filter (fun entry => decide (entry.1 ≠ key)) =
      entries.filter fun entry => decide (entry.1 ≠ key) := by
  induction entries with
  | nil => simp [setEntries]
  | cons entry rest inductionHypothesis =>
    by_cases same : entry.1 = key
    · simp [setEntries, same]
    · rw [setEntries, if_neg same, List.filter_cons, List.filter_cons, inductionHypothesis]

theorem mem_setEntries_self (key : Key) (value : Value) (entries : List (Key × Value)) :
    (key, value) ∈ setEntries key value entries := by
  induction entries with
  | nil => simp [setEntries]
  | cons entry rest inductionHypothesis =>
    by_cases same : entry.1 = key
    · simp [setEntries, same]
    · rw [setEntries, if_neg same]
      exact List.mem_cons_of_mem _ inductionHypothesis

/-- Give a key a value: in place when it is present, else as the newest key. -/
def set (dict : Dict Key Value) (key : Key) (value : Value) : Dict Key Value where
  entries := setEntries key value dict.entries
  nodup := by
    rw [map_fst_setEntries]
    split
    · exact dict.nodup
    · rename_i absent
      exact List.nodup_append.mpr ⟨dict.nodup, List.nodup_singleton key, by
        intro stored member other new same
        rw [List.mem_singleton] at new
        exact absent (new ▸ same ▸ member)⟩

theorem keys_set (dict : Dict Key Value) (key : Key) (value : Value) :
    (dict.set key value).keys = if key ∈ dict.keys then dict.keys else dict.keys ++ [key] :=
  map_fst_setEntries key value dict.entries

theorem keys_set_of_mem (value : Value) (present : key ∈ dict.keys) :
    (dict.set key value).keys = dict.keys := by
  rw [keys_set, if_pos present]

theorem keys_set_of_not_mem (value : Value) (absent : key ∉ dict.keys) :
    (dict.set key value).keys = dict.keys ++ [key] := by
  rw [keys_set, if_neg absent]

@[simp] theorem erase_set_self (dict : Dict Key Value) (key : Key) (value : Value) :
    (dict.set key value).erase key = dict.erase key :=
  Dict.ext (filter_setEntries key value dict.entries)

@[simp] theorem get?_set_self (dict : Dict Key Value) (key : Key) (value : Value) :
    (dict.set key value).get? key = some value :=
  get?_eq_some_iff.mpr (mem_setEntries_self key value dict.entries)

theorem get?_set_of_ne (dict : Dict Key Value) (key : Key) (value : Value) (different : other ≠ key) :
    (dict.set key value).get? other = dict.get? other := by
  have erased := congrArg (fun left => left.get? other) (erase_set_self dict key value)
  simpa only [get?_erase, if_neg different] using erased

@[simp] theorem get?_set (dict : Dict Key Value) (key other : Key) (value : Value) :
    (dict.set key value).get? other = if other = key then some value else dict.get? other := by
  by_cases same : other = key
  · rw [if_pos same, same, get?_set_self]
  · rw [if_neg same, get?_set_of_ne dict key value same]

theorem mem_keys_set : other ∈ (dict.set key value).keys ↔ other = key ∨ other ∈ dict.keys := by
  rw [mem_keys_iff, mem_keys_iff]
  by_cases same : other = key
  · simp [same]
  · simp [same]

/-- Setting a key leaves one pair under it and every other pair alone. -/
theorem entries_set_perm (dict : Dict Key Value) (key : Key) (value : Value) :
    (dict.set key value).entries.Perm ((key, value) :: (dict.erase key).entries) := by
  rw [← erase_set_self dict key value]
  exact entries_perm_of_get? (get?_set_self dict key value)

theorem values_set_perm (dict : Dict Key Value) (key : Key) (value : Value) :
    (dict.set key value).values.Perm (value :: (dict.erase key).values) :=
  (entries_set_perm dict key value).map Prod.snd

theorem size_set (dict : Dict Key Value) (key : Key) (value : Value) :
    (dict.set key value).size = if key ∈ dict.keys then dict.size else dict.size + 1 := by
  rw [← length_keys, keys_set]
  split
  · exact length_keys dict
  · rw [List.length_append, length_keys, List.length_singleton]

theorem size_set_le (dict : Dict Key Value) (key : Key) (value : Value) :
    (dict.set key value).size ≤ dict.size + 1 := by
  rw [size_set]
  split <;> omega

theorem mem_entries_of_set (member : entry ∈ (dict.set key value).entries) :
    entry = (key, value) ∨ entry ∈ dict.entries :=
  (List.mem_cons.mp ((entries_set_perm dict key value).mem_iff.mp member)).imp_right
    fun kept => (List.mem_filter.mp kept).1

/-- Giving one value to several keys. -/
theorem get?_foldl_set (keys : List Key) (value : Value) (dict : Dict Key Value) (key : Key) :
    (keys.foldl (fun dict key => dict.set key value) dict).get? key =
      if key ∈ keys then some value else dict.get? key := by
  induction keys generalizing dict with
  | nil => simp
  | cons first rest inductionHypothesis =>
    rw [List.foldl_cons, inductionHypothesis, get?_set]
    by_cases inRest : key ∈ rest
    · simp [inRest]
    · simp [inRest]

theorem setEntries_of_not_mem (absent : key ∉ entries.map Prod.fst) (value : Value) :
    setEntries key value entries = entries ++ [(key, value)] := by
  induction entries with
  | nil => rfl
  | cons entry rest inductionHypothesis =>
    rw [List.map_cons, List.mem_cons, not_or] at absent
    rw [setEntries, if_neg (Ne.symm absent.1), inductionHypothesis absent.2, List.cons_append]

/-- Pairs with keys of their own are appended in order. -/
theorem entries_foldl_set {dict : Dict Key Value} {entries : List (Key × Value)}
    (distinct : (dict.keys ++ entries.map Prod.fst).Nodup) :
    (entries.foldl (fun dict entry => dict.set entry.1 entry.2) dict).entries =
      dict.entries ++ entries := by
  induction entries generalizing dict with
  | nil => rw [List.foldl_nil, List.append_nil]
  | cons entry rest inductionHypothesis =>
    have fresh : entry.1 ∉ dict.keys := fun present =>
      (List.nodup_append.mp distinct).2.2 _ present _ List.mem_cons_self rfl
    have keys := keys_set_of_not_mem entry.2 fresh
    have appended : (dict.set entry.1 entry.2).entries = dict.entries ++ [entry] :=
      setEntries_of_not_mem fresh entry.2
    rw [List.foldl_cons, inductionHypothesis, appended, List.append_assoc, List.singleton_append]
    rw [keys, List.append_assoc]
    exact distinct

theorem setEntries_of_mem (nodup : (entries.map Prod.fst).Nodup) (member : (key, value) ∈ entries) :
    setEntries key value entries = entries := by
  induction entries with
  | nil => cases member
  | cons entry entries inductionHypothesis =>
    rw [List.map_cons, List.nodup_cons] at nodup
    rw [setEntries]
    rcases List.mem_cons.mp member with rfl | later
    · rw [if_pos rfl]
    · have different : entry.1 ≠ key := fun same =>
        nodup.1 (same ▸ List.mem_map_of_mem later)
      rw [if_neg different, inductionHypothesis nodup.2 later]

/-- Setting a key to what it has changes nothing. -/
theorem set_of_get? (found : dict.get? key = some value) : dict.set key value = dict :=
  Dict.ext (setEntries_of_mem dict.nodup (get?_eq_some_iff.mp found))

theorem mapValues_set (change : Key → Value → Other) (dict : Dict Key Value) (key : Key)
    (value : Value) :
    (dict.set key value).mapValues change = (dict.mapValues change).set key (change key value) := by
  refine Dict.ext ?_
  change (setEntries key value dict.entries).map (fun entry => (entry.1, change entry.1 entry.2)) =
    setEntries key (change key value) (dict.entries.map fun entry => (entry.1, change entry.1 entry.2))
  induction dict.entries with
  | nil => rfl
  | cons entry entries inductionHypothesis =>
    rw [setEntries, List.map_cons, setEntries]
    split
    · rfl
    · rw [List.map_cons, inductionHypothesis]

/-! ### Reordering and selecting -/

omit [DecidableEq Key] in
theorem map_fst_filterMap_sublist (select : Key → Value → Option Other)
    (entries : List (Key × Value)) :
    ((entries.filterMap fun entry => (select entry.1 entry.2).map (Prod.mk entry.1)).map
      Prod.fst).Sublist (entries.map Prod.fst) := by
  induction entries with
  | nil => exact List.Sublist.slnil
  | cons entry rest inductionHypothesis =>
    rw [List.filterMap_cons]
    cases select entry.1 entry.2 with
    | none => exact inductionHypothesis.cons _
    | some value => exact inductionHypothesis.cons_cons _

/-- The same pairs with their keys in an order. -/
def sortBy (le : Key → Key → Bool) (dict : Dict Key Value) : Dict Key Value where
  entries := dict.entries.mergeSort fun first second => le first.1 second.1
  nodup := ((List.mergeSort_perm _ _).map Prod.fst).nodup_iff.mpr dict.nodup

/-- The pairs a selection turns into something, in order. -/
def filterMap (select : Key → Value → Option Other) (dict : Dict Key Value) : Dict Key Other where
  entries := dict.entries.filterMap fun entry => (select entry.1 entry.2).map (Prod.mk entry.1)
  nodup := dict.nodup.sublist (map_fst_filterMap_sublist select dict.entries)

/-- The oldest pairs. -/
def take (limit : Nat) (dict : Dict Key Value) : Dict Key Value where
  entries := dict.entries.take limit
  nodup := dict.nodup.sublist ((List.take_sublist _ _).map Prod.fst)

/-- The pairs but the oldest. -/
def drop (count : Nat) (dict : Dict Key Value) : Dict Key Value where
  entries := dict.entries.drop count
  nodup := dict.nodup.sublist ((List.drop_sublist _ _).map Prod.fst)

@[simp] theorem get?_sortBy (le : Key → Key → Bool) (dict : Dict Key Value) (key : Key) :
    (dict.sortBy le).get? key = dict.get? key := by
  apply Option.ext
  intro value
  rw [get?_eq_some_iff, get?_eq_some_iff]
  exact List.mem_mergeSort

omit [DecidableEq Key] in
@[simp] theorem size_sortBy (le : Key → Key → Bool) (dict : Dict Key Value) :
    (dict.sortBy le).size = dict.size := List.length_mergeSort _

theorem mapValues_of_forall {change : Key → Value → Value}
    (same : ∀ key value, dict.get? key = some value → change key value = value) :
    dict.mapValues change = dict := by
  refine Dict.ext (Eq.trans (List.map_congr_left fun entry member => ?_) (List.map_id dict.entries))
  exact Prod.ext rfl (same entry.1 entry.2 (get?_of_mem_entries member))

omit [DecidableEq Key] in
/-- Ordering the keys leaves alone what is done to the values. -/
theorem mapValues_sortBy (change : Key → Value → Other) (le : Key → Key → Bool)
    (dict : Dict Key Value) : (dict.sortBy le).mapValues change = (dict.mapValues change).sortBy le :=
  Dict.ext (List.map_mergeSort fun _ _ _ _ => rfl)

@[simp] theorem get?_filterMap (select : Key → Value → Option Other) (dict : Dict Key Value)
    (key : Key) : (dict.filterMap select).get? key = (dict.get? key).bind (select key) := by
  apply Option.ext
  intro value
  rw [get?_eq_some_iff, Option.bind_eq_some_iff]
  simp only [filterMap, List.mem_filterMap, Option.map_eq_some_iff, Prod.mk.injEq,
    get?_eq_some_iff]
  constructor
  · rintro ⟨⟨_, stored⟩, member, _, selected, rfl, rfl⟩
    exact ⟨stored, member, selected⟩
  · rintro ⟨stored, member, selected⟩
    exact ⟨(key, stored), member, value, selected, rfl, rfl⟩

omit [DecidableEq Key] in
theorem size_filterMap_le (select : Key → Value → Option Other) (dict : Dict Key Value) :
    (dict.filterMap select).size ≤ dict.size := List.length_filterMap_le _ _

omit [DecidableEq Key] in
theorem size_take_le (limit : Nat) (dict : Dict Key Value) : (dict.take limit).size ≤ limit :=
  List.length_take_le _ _

omit [DecidableEq Key] in
theorem take_of_size_le {limit : Nat} (small : dict.size ≤ limit) :
    dict.take limit = dict := Dict.ext (List.take_of_length_le small)

theorem get?_of_get?_take {limit : Nat} (found : (dict.take limit).get? key = some value) :
    dict.get? key = some value :=
  get?_eq_some_iff.mpr (List.mem_of_mem_take (get?_eq_some_iff.mp found))

theorem get?_of_get?_drop {count : Nat} (found : (dict.drop count).get? key = some value) :
    dict.get? key = some value :=
  get?_eq_some_iff.mpr (List.mem_of_mem_drop (get?_eq_some_iff.mp found))

omit [DecidableEq Key] in
theorem size_drop (count : Nat) (dict : Dict Key Value) :
    (dict.drop count).size = dict.size - count := List.length_drop

omit [DecidableEq Key] in
@[simp] theorem drop_zero (dict : Dict Key Value) : dict.drop 0 = dict := rfl

/-! ### Adopting missing keys -/

/-- Give every key that has no value the one selected from what is supplied for it. -/
def adoptMissing (select : Key → Other → Option Value) :
    Dict Key Value → List (Key × Other) → Dict Key Value
  | dict, [] => dict
  | dict, entry :: rest =>
    if dict.contains entry.1 then adoptMissing select dict rest
    else
      match select entry.1 entry.2 with
      | none => adoptMissing select dict rest
      | some value => adoptMissing select (dict.set entry.1 value) rest

theorem get?_adoptMissing_of_not_mem (select : Key → Other → Option Value)
    {supplied : List (Key × Other)} (absent : key ∉ supplied.map Prod.fst) (dict : Dict Key Value) :
    (adoptMissing select dict supplied).get? key = dict.get? key := by
  induction supplied generalizing dict with
  | nil => rfl
  | cons entry rest inductionHypothesis =>
    rw [List.map_cons, List.mem_cons, not_or] at absent
    rw [adoptMissing]
    split
    · exact inductionHypothesis absent.2 dict
    · split
      · exact inductionHypothesis absent.2 dict
      · rw [inductionHypothesis absent.2, get?_set_of_ne _ _ _ absent.1]

/-- A key keeps its value; without one it has what is selected from its supply. -/
theorem get?_adoptMissing (select : Key → Other → Option Value) (dict : Dict Key Value)
    (supplied : Dict Key Other) (key : Key) :
    (adoptMissing select dict supplied.entries).get? key =
      (dict.get? key).or ((supplied.get? key).bind (select key)) := by
  obtain ⟨entries, distinct⟩ := supplied
  induction entries generalizing dict with
  | nil => simp [adoptMissing, get?]
  | cons entry rest inductionHypothesis =>
    obtain ⟨fresh, distinctRest⟩ := List.nodup_cons.mp distinct
    by_cases same : entry.1 = key
    · subst same
      have restAbsent := get?_adoptMissing_of_not_mem select fresh
      have supply : (Dict.mk (entry :: rest) distinct).get? entry.1 = some entry.2 := by simp [get?]
      rw [supply, Option.bind_some, adoptMissing]
      split
      · rename_i present
        obtain ⟨value, found⟩ := mem_keys_iff.1 (contains_iff.1 present)
        rw [restAbsent, found, Option.some_or]
      · rename_i missing
        rw [contains_iff, ← get?_eq_none_iff] at missing
        rw [missing, Option.none_or]
        split
        · rename_i nothing
          rw [restAbsent, missing, nothing]
        · rename_i value selected
          rw [restAbsent, get?_set_self, selected]
    · have supply : (Dict.mk (entry :: rest) distinct).get? key =
          (Dict.mk rest distinctRest).get? key := by simp [get?, same]
      rw [supply, adoptMissing]
      split
      · exact inductionHypothesis dict distinctRest
      · split
        · exact inductionHypothesis dict distinctRest
        · rw [inductionHypothesis _ distinctRest, get?_set_of_ne _ _ _ (Ne.symm same)]

end Dict

end Omnitensor
