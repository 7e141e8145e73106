/-
This file says which entries an update of the index keeps, without its tables and sorts.

The contents of an index after a merge hold one entry for each id: the last one stored, unless one
that was given differs from it in more than its time. Of the contents those are retained that have
few enough others before them. The merge loop and the bound of the store compute just that.
-/

import Omnitensor.IndexRoundTrip

namespace Omnitensor

/-! ### The first of a sorted list -/

/-- An element is among the first of a sorted list if no more than so many come before it, itself
included. -/
theorem mem_take_iff {Element : Type} {before : Element → Element → Bool} {list : List Element}
    (sorted : list.Pairwise fun first second => before first second = true)
    (reflexive : ∀ element, before element element = true)
    (antisymmetric : ∀ first ∈ list, ∀ second ∈ list, before first second = true →
      before second first = true → first = second)
    (nodup : list.Nodup) {limit : Nat} {element : Element} :
    element ∈ list.take limit ↔
      element ∈ list ∧ list.countP (fun other => before other element) ≤ limit := by
  induction list generalizing limit with
  | nil => simp
  | cons first rest inductionHypothesis =>
    obtain ⟨head, tail⟩ := List.pairwise_cons.mp sorted
    obtain ⟨fresh, nodup⟩ := List.nodup_cons.mp nodup
    have inner := @inductionHypothesis tail (fun one oneInside two twoInside =>
      antisymmetric one (List.mem_cons_of_mem _ oneInside) two (List.mem_cons_of_mem _ twoInside))
      nodup
    by_cases same : element = first
    · subst same
      have none : rest.countP (fun other => before other element) = 0 := by
        rw [List.countP_eq_zero]
        intro other inside earlier
        exact fresh (antisymmetric element List.mem_cons_self other
          (List.mem_cons_of_mem _ inside) (head other inside) earlier ▸ inside)
      rw [List.countP_cons, none, reflexive element]
      cases limit with
      | zero => simp
      | succ limit => simp
    · cases limit with
      | zero =>
        simp only [List.take_zero, List.not_mem_nil, List.countP_cons, false_iff, not_and]
        intro inside
        have := head element ((List.mem_cons.mp inside).resolve_left same)
        simp [this]
      | succ limit =>
        rw [List.take_succ_cons, List.mem_cons, List.mem_cons, inner, List.countP_cons]
        constructor
        · rintro (equal | ⟨inside, few⟩)
          · exact absurd equal same
          · refine ⟨Or.inr inside, ?_⟩
            split <;> omega
        · rintro ⟨equal | inside, few⟩
          · exact absurd equal same
          · rw [head element inside, if_pos rfl] at few
            exact Or.inr ⟨inside, by omega⟩

namespace IndexStore

open Index

/-! ### Retained entries -/

/-- The entries with at most so many before them, themselves included. -/
def retained (limit : Nat) (pool : List IndexEntry) : List IndexEntry :=
  pool.filter fun entry => decide (pool.countP (fun other => precedes other entry) ≤ limit)

theorem precedes_iff {first second : IndexEntry} :
    precedes first second = true ↔ second.updatedAtMs < first.updatedAtMs ∨
      first.updatedAtMs = second.updatedAtMs ∧ first.entryId ≤ second.entryId := by
  simp [precedes]

theorem precedes_refl (entry : IndexEntry) : precedes entry entry = true :=
  precedes_iff.mpr (Or.inr ⟨rfl, le_refl _⟩)

instance : Std.Total fun first second : IndexEntry => precedes first second = true where
  total first second := by
    rw [precedes_iff, precedes_iff]
    rcases lt_trichotomy first.updatedAtMs second.updatedAtMs with later | same | earlier
    · exact Or.inr (Or.inl later)
    · exact (le_total first.entryId second.entryId).imp (fun before => Or.inr ⟨same, before⟩)
        fun before => Or.inr ⟨same.symm, before⟩
    · exact Or.inl (Or.inl earlier)

instance : IsTrans IndexEntry fun first second => precedes first second = true where
  trans first second third := by
    rw [precedes_iff, precedes_iff, precedes_iff]
    rintro (one | ⟨one, before⟩) (two | ⟨two, after⟩)
    · exact Or.inl (two.trans one)
    · exact Or.inl (two ▸ one)
    · exact Or.inl (one ▸ two)
    · exact Or.inr ⟨one.trans two, before.trans after⟩

/-! ### Contents -/

/-- What an entry makes of the one stored under its id. -/
def revise (existing : Option IndexEntry) (entry : IndexEntry) : Option IndexEntry :=
  match existing with
  | none => some entry
  | some stored => if sameEntry stored entry then some stored else some entry

/-- The entries with an id, in order. -/
def withId (entries : List IndexEntry) (id : String) : List IndexEntry :=
  entries.filter fun entry => decide (entry.entryId = id)

/-- The entry that an id ends up with. -/
def revised (stored given : List IndexEntry) (id : String) : Option IndexEntry :=
  (withId given id).foldl revise (withId stored id).getLast?

/-- The entries that all ids end up with. -/
def contents (stored given : List IndexEntry) : List IndexEntry :=
  ((stored ++ given).map IndexEntry.entryId).dedup.filterMap (revised stored given)

variable {given stored : List IndexEntry} {entry : IndexEntry} {merged : Dict String IndexEntry}

theorem mem_withId {entries : List IndexEntry} {id : String} :
    entry ∈ withId entries id ↔ entry ∈ entries ∧ entry.entryId = id := by
  simp [withId]

theorem withId_cons (entry : IndexEntry) (entries : List IndexEntry) (id : String) :
    withId (entry :: entries) id =
      if entry.entryId = id then entry :: withId entries id else withId entries id := by
  simp [withId, List.filter_cons]

theorem foldl_revise {existing : Option IndexEntry}
    (found : given.foldl revise existing = some entry) : existing = some entry ∨ entry ∈ given := by
  induction given generalizing existing with
  | nil => exact Or.inl found
  | cons first rest inductionHypothesis =>
    rcases inductionHypothesis found with same | later
    · cases existing with
      | none =>
        cases same
        exact Or.inr List.mem_cons_self
      | some stored =>
        unfold revise at same
        simp only at same
        split at same
        · exact Or.inl same
        · cases same
          exact Or.inr List.mem_cons_self
    · exact Or.inr (List.mem_cons_of_mem _ later)

theorem mem_of_revised {id : String} (found : revised stored given id = some entry) :
    entry.entryId = id ∧ (entry ∈ stored ∨ entry ∈ given) := by
  rcases foldl_revise found with last | later
  · have inside := mem_withId.mp (List.mem_of_getLast? last)
    exact ⟨inside.2, Or.inl inside.1⟩
  · have inside := mem_withId.mp later
    exact ⟨inside.2, Or.inr inside.1⟩

theorem mem_contents :
    entry ∈ contents stored given ↔ ∃ id, revised stored given id = some entry := by
  simp only [contents, List.mem_filterMap, List.mem_dedup]
  constructor
  · rintro ⟨id, _, found⟩
    exact ⟨id, found⟩
  · rintro ⟨id, found⟩
    obtain ⟨same, inside⟩ := mem_of_revised found
    exact ⟨id, List.mem_map.mpr ⟨entry, List.mem_append.mpr inside, same⟩, found⟩

theorem nodup_contents (stored given : List IndexEntry) : (contents stored given).Nodup := by
  refine (List.nodup_dedup _).filterMap fun first second entry firstFound secondFound => ?_
  rw [← (mem_of_revised firstFound).1, ← (mem_of_revised secondFound).1]

/-! ### The merge loop -/

theorem get?_foldl_set_id (entries : List IndexEntry) (dict : Dict String IndexEntry)
    (id : String) :
    (entries.foldl (fun dict entry => dict.set entry.entryId entry) dict).get? id =
      (withId entries id).getLast?.or (dict.get? id) := by
  induction entries generalizing dict with
  | nil => rfl
  | cons entry entries inductionHypothesis =>
    rw [List.foldl_cons, inductionHypothesis, Dict.get?_set, withId_cons]
    by_cases same : entry.entryId = id
    · rw [if_pos same.symm, if_pos same, List.getLast?_cons]
      cases (withId entries id).getLast? <;> rfl
    · rw [if_neg fun equal => same equal.symm, if_neg same]

theorem get?_byId (entries : List IndexEntry) (id : String) :
    (byId entries).get? id = (withId entries id).getLast? := by
  rw [byId, get?_foldl_set_id, Dict.get?_empty, Option.or_none]

theorem get?_mergeEntry (merge : Merge) (entry : IndexEntry) (id : String) :
    (mergeEntry merge entry).merged.get? id =
      if entry.entryId = id then revise (merge.merged.get? id) entry
      else merge.merged.get? id := by
  unfold mergeEntry
  split
  · rename_i absent
    rw [Dict.get?_set]
    split
    · rename_i same
      rw [if_pos same.symm, same, absent]
      rfl
    · rename_i other
      rw [if_neg fun same => other same.symm]
  · rename_i existing present
    split
    · rename_i equal
      split
      · rename_i same
        rw [← same, present, revise, if_pos equal]
      · rfl
    · rename_i different
      rw [Dict.get?_set]
      split
      · rename_i same
        rw [if_pos same.symm, same, present, revise, if_neg different]
      · rename_i other
        rw [if_neg fun same => other same.symm]

theorem get?_foldl_mergeEntry (given : List IndexEntry) (merge : Merge) (id : String) :
    (given.foldl mergeEntry merge).merged.get? id =
      (withId given id).foldl revise (merge.merged.get? id) := by
  induction given generalizing merge with
  | nil => rfl
  | cons entry given inductionHypothesis =>
    rw [List.foldl_cons, inductionHypothesis, get?_mergeEntry, withId_cons]
    split <;> rfl

/-- A table that maps every id to what it ends up with holds the contents. -/
theorem values_perm_contents (found : ∀ id, merged.get? id = revised stored given id) :
    merged.values.Perm (contents stored given) := by
  have nodup : merged.values.Nodup := Dict.nodup_values fun first second entry one two => by
    rw [found] at one two
    rw [← (mem_of_revised one).1, ← (mem_of_revised two).1]
  rw [List.perm_ext_iff_of_nodup nodup (nodup_contents stored given)]
  intro entry
  simp only [Dict.mem_values_iff, mem_contents, found]

/-- The merge loop computes the contents. -/
theorem merged_perm_contents (stored given : List IndexEntry) :
    (given.foldl mergeEntry ⟨byId stored, 0, 0, 0⟩).merged.values.Perm (contents stored given) :=
  values_perm_contents fun id => by rw [get?_foldl_mergeEntry, get?_byId, revised]

theorem byId_perm_contents (entries : List IndexEntry) :
    (byId entries).values.Perm (contents entries []) :=
  values_perm_contents fun id => by rw [get?_byId]; rfl

/-! ### The bound -/

theorem bound_fst (store : IndexStore) (merged : Dict String IndexEntry) :
    (store.bound merged).1 = sortById
      ((merged.values.insertionSort fun first second => precedes first second = true).take
        store.maxEntries) := by
  unfold bound
  simp only
  split
  · rename_i small
    rw [List.take_of_length_le small]
  · rfl

/-- The bound of a store retains the entries with few enough before them. -/
theorem bound_perm_retained (store : IndexStore) (same : merged.values.Perm (contents stored given)) :
    (store.bound merged).1.Perm (retained store.maxEntries (contents stored given)) := by
  have sort := List.perm_insertionSort
    (fun first second => precedes first second = true) merged.values
  have pool := sort.trans same
  have nodup := pool.nodup_iff.mpr (nodup_contents stored given)
  rw [bound_fst, retained]
  refine (List.perm_insertionSort _ _).trans ?_
  rw [List.perm_ext_iff_of_nodup (nodup.sublist (List.take_sublist _ _))
    ((nodup_contents stored given).filter _)]
  intro entry
  rw [mem_take_iff (List.pairwise_insertionSort _ _) precedes_refl ?_ nodup, List.mem_filter, pool.mem_iff, pool.countP_eq, decide_eq_true_iff]
  intro first firstInside second secondInside before after
  obtain ⟨firstId, firstFound⟩ := mem_contents.mp (pool.mem_iff.mp firstInside)
  obtain ⟨secondId, secondFound⟩ := mem_contents.mp (pool.mem_iff.mp secondInside)
  have sameId : first.entryId = second.entryId := by
    rcases precedes_iff.mp before with later | ⟨_, one⟩
    · rcases precedes_iff.mp after with earlier | ⟨equal, _⟩
      · exact absurd later earlier.asymm
      · exact absurd equal later.ne
    · rcases precedes_iff.mp after with earlier | ⟨_, two⟩
      · rename_i equal
        exact absurd equal earlier.ne
      · exact le_antisymm one two
  rw [← (mem_of_revised firstFound).1, sameId, (mem_of_revised secondFound).1] at firstFound
  exact Option.some.inj (firstFound.symm.trans secondFound)

end IndexStore

end Omnitensor
