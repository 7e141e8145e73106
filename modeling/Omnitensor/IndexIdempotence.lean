/-
This file says when a second update of an index with the same entries changes nothing.

An update compares what it is given with what is stored in everything but the time. Whether it
counts a change is therefore a property of the stored table alone: an entry is settled if the one
stored under its id agrees with it. A first update settles its entries unless two of them under
one id disagree, an entry is dropped again by the bound, or the document that was written is not
read back.
-/

import Omnitensor.IndexDurability

namespace Omnitensor

namespace IndexStore

open Index

/-! ### What is compared -/

/-- What two attributes have in common when they are equal: a text, or the value of a number. -/
def attributeKey : Attribute → Option String × Option Int
  | .text value => (some value, none)
  | value => (none, numberUnits value)

theorem sameAttribute_iff {first second : Attribute} :
    sameAttribute first second = true ↔ attributeKey first = attributeKey second := by
  cases first <;> cases second <;> simp [sameAttribute, attributeKey, numberUnits]

/-- `comparable()`: everything that makes an entry different from another. -/
def comparable (entry : IndexEntry) :
    String × String × String × List Int × List String ×
      List (String × Option String × Option Int) :=
  (entry.entryId, entry.digest, entry.sourcePath, entry.embedding.map Double.units, entry.tags,
    (sortedAttributes entry.attributes).map fun member => (member.1, attributeKey member.2))

theorem all_zip_iff {Element Key : Type} {agree : Element × Element → Bool} {key : Element → Key}
    (same : ∀ pair, agree pair = true ↔ key pair.1 = key pair.2) {first second : List Element} :
    first.length = second.length ∧ (first.zip second).all agree = true ↔
      first.map key = second.map key := by
  induction first generalizing second with
  | nil => cases second <;> simp
  | cons one first inductionHypothesis =>
    cases second with
    | nil => simp
    | cons two second =>
      rw [List.map_cons, List.map_cons, List.cons.injEq, ← inductionHypothesis, List.zip_cons_cons,
        List.all_cons, Bool.and_eq_true, same, List.length_cons, List.length_cons,
        Nat.add_right_cancel_iff]
      exact and_left_comm

theorem length_sortedAttributes (attributes : Dict String Attribute) :
    (sortedAttributes attributes).length = attributes.size :=
  List.length_insertionSort _ _

variable {again batch given stored kept : List IndexEntry} {first second entry : IndexEntry}
  {later readings : Nat → Int} {entries : List (Option EntryInput)} {state : IndexState}
  {file : Option (List Char)}

/-- Entries are the same if they agree in what is compared. -/
theorem sameEntry_iff : sameEntry first second = true ↔ comparable first = comparable second := by
  have attributes := @all_zip_iff _ _
    (fun pair : (String × Attribute) × (String × Attribute) =>
      decide (pair.1.1 = pair.2.1) && sameAttribute pair.1.2 pair.2.2)
    (fun member => (member.1, attributeKey member.2))
    (fun pair => by
      rw [Bool.and_eq_true, decide_eq_true_iff, sameAttribute_iff]
      exact Prod.mk_inj.symm)
    (sortedAttributes first.attributes) (sortedAttributes second.attributes)
  rw [length_sortedAttributes, length_sortedAttributes] at attributes
  simp only [sameEntry, comparable, Bool.and_eq_true, decide_eq_true_eq, Prod.mk.injEq,
    ← attributes, and_assoc]

/-- An entry is settled in a table if the one stored under its id is the same. -/
def Settled (stored : Dict String IndexEntry) (entry : IndexEntry) : Prop :=
  ∃ existing, stored.get? entry.entryId = some existing ∧ comparable existing = comparable entry

/-- How many changes the merge loop has counted. -/
def Merge.changed (merge : Merge) : Nat := merge.added + merge.updated

variable {merge : Merge}

theorem mergeEntry_of_settled (settled : Settled merge.merged entry) :
    mergeEntry merge entry = { merge with unchanged := merge.unchanged + 1 } := by
  obtain ⟨existing, found, same⟩ := settled
  rw [mergeEntry, found]
  exact if_pos (sameEntry_iff.mpr same)

theorem changed_mergeEntry (unsettled : ¬ Settled merge.merged entry) :
    (mergeEntry merge entry).changed = merge.changed + 1 := by
  cases found : merge.merged.get? entry.entryId with
  | none =>
    simp only [mergeEntry, found, Merge.changed]
    omega
  | some existing =>
    have different : ¬ sameEntry existing entry = true := fun same =>
      unsettled ⟨existing, found, sameEntry_iff.mp same⟩
    simp only [mergeEntry, found, if_neg different, Merge.changed]
    omega

theorem changed_le_mergeEntry (merge : Merge) (entry : IndexEntry) :
    merge.changed ≤ (mergeEntry merge entry).changed := by
  by_cases settled : Settled merge.merged entry
  · rw [mergeEntry_of_settled settled]
    exact le_refl _
  · rw [changed_mergeEntry settled]
    exact Nat.le_succ _

theorem changed_le_foldl (given : List IndexEntry) (merge : Merge) :
    merge.changed ≤ (given.foldl mergeEntry merge).changed := by
  induction given generalizing merge with
  | nil => exact le_refl _
  | cons entry given inductionHypothesis =>
    exact (changed_le_mergeEntry merge entry).trans (inductionHypothesis _)

/-- The loop leaves a table of settled entries as it is. -/
theorem merged_foldl_of_settled (settled : ∀ entry ∈ given, Settled merge.merged entry) :
    (given.foldl mergeEntry merge).merged = merge.merged := by
  induction given generalizing merge with
  | nil => rfl
  | cons entry given inductionHypothesis =>
    rw [List.foldl_cons, mergeEntry_of_settled (settled entry List.mem_cons_self)]
    exact inductionHypothesis fun other inside => settled other (List.mem_cons_of_mem _ inside)

/-- The loop counts no change exactly if all entries are settled at its start. -/
theorem changed_foldl_iff {given : List IndexEntry} {merge : Merge} :
    (given.foldl mergeEntry merge).changed = merge.changed ↔
      ∀ entry ∈ given, Settled merge.merged entry := by
  induction given generalizing merge with
  | nil => simp
  | cons entry given inductionHypothesis =>
    rw [List.foldl_cons, List.forall_mem_cons]
    by_cases settled : Settled merge.merged entry
    · have same := mergeEntry_of_settled settled
      rw [same] at *
      exact inductionHypothesis.trans (by simp only [settled, true_and])
    · have more := changed_le_foldl given (mergeEntry merge entry)
      rw [changed_mergeEntry settled] at more
      exact iff_of_false (by omega) fun all => settled all.1

theorem evicted_eq_zero_iff (store : IndexStore) (merged : Dict String IndexEntry) :
    (store.bound merged).2 = 0 ↔ merged.size ≤ store.maxEntries := by
  unfold bound
  simp only [List.length_insertionSort, Dict.length_values]
  split
  · rename_i few
    exact iff_of_true rfl few
  · rename_i many
    exact iff_of_false (by simp only; omega) many

/-! ### Idle updates -/

variable {store : IndexStore}

/-- An update with no revision expected that commits nothing, writes nothing and stands at a
revision. -/
def Idle (store : IndexStore) (file : Option (List Char)) (readings : Nat → Int)
    (entries : List (Option EntryInput)) (revision : Nat) : Prop :=
  ∃ update, store.upsert file readings entries none = .ok (update, file) ∧
    update.committed = false ∧ update.state.revision = revision

/-- What an update returns and leaves, from the entries it prepared and the state it loaded. -/
theorem upsert_eq {expected : Option Int} (prepared : store.prepareAll readings entries = .ok batch)
    (loaded : store.load file = .ok state) (current : checkRevision state expected = .ok ()) :
    store.upsert file readings entries expected =
      (let merge := batch.foldl mergeEntry ⟨byId state.entries, 0, 0, 0⟩
       if merge.changed = 0 ∧ (store.bound merge.merged).2 = 0 then
         .ok (⟨state, 0, 0, 0, 0, merge.unchanged⟩, file)
       else do
         let (after, text) ← store.commit state.revision (store.bound merge.merged).1
         .ok (⟨after, merge.added, merge.updated, 0, (store.bound merge.merged).2,
           merge.unchanged⟩, some text)) := by
  simp only [upsert, prepared, loaded, current, ok_bind, Merge.changed, Nat.add_eq_zero_iff,
    and_assoc]
  rfl

/-- No entry of a batch is counted as a change, and none is evicted. -/
def Quiet (store : IndexStore) (stored batch : List IndexEntry) : Prop :=
  (∀ entry ∈ batch, Settled (byId stored) entry) ∧ (byId stored).size ≤ store.maxEntries

theorem quiet_iff :
    store.Quiet stored batch ↔
      (batch.foldl mergeEntry ⟨byId stored, 0, 0, 0⟩).changed = 0 ∧
        (store.bound (batch.foldl mergeEntry ⟨byId stored, 0, 0, 0⟩).merged).2 = 0 := by
  have unchanged := @changed_foldl_iff batch ⟨byId stored, 0, 0, 0⟩
  constructor
  · rintro ⟨settled, few⟩
    rw [merged_foldl_of_settled settled, evicted_eq_zero_iff]
    exact ⟨unchanged.mpr settled, few⟩
  · rintro ⟨none, kept⟩
    have settled := unchanged.mp none
    rw [merged_foldl_of_settled settled, evicted_eq_zero_iff] at kept
    exact ⟨settled, kept⟩

/-- Entries of a batch under one id agree. -/
def Consistent (batch : List IndexEntry) : Prop :=
  ∀ first ∈ batch, ∀ second ∈ batch, first.entryId = second.entryId →
    comparable first = comparable second

end IndexStore

end Omnitensor
