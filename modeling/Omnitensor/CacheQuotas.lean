/-
This file says what a cache collects: every leftover, and the fewest versions in order that bring the rest
within both quotas, none of which an activation names.

Removing entries of artifacts only removes from what a scan finds, since a scan takes every entry by itself.
The protected versions alone decide whether the quotas can be met, so the cache refuses before it removes a
version, and never after.
-/

import Omnitensor.ArtifactCache

namespace Omnitensor

namespace ArtifactCache

open ArtifactStore

/-! ### What is kept -/

theorem Listing.ext {Entry : Type} {first second : Listing Entry} (same : first.entries = second.entries) :
    first = second := by
  cases first
  cases second
  cases same
  rfl

namespace CacheDisk

theorem keep_keep (first second : String → String → Bool) (disk : CacheDisk) :
    (disk.keep first).keep second =
      disk.keep fun artifact name => first artifact name && second artifact name := by
  refine Listing.ext ?_
  simp only [keep, Listing.mapValues, List.map_map]
  refine List.map_congr_left fun entry _ => ?_
  obtain ⟨artifact, entry⟩ := entry
  cases entry with
  | other => rfl
  | artifact activation children =>
    refine congrArg (fun kept => (artifact, RootEntry.artifact activation kept)) (Listing.ext ?_)
    simp only [Listing.filter, List.filter_filter, Bool.and_comm]

/-- A child of an artifact. -/
def Child (disk : CacheDisk) (artifact name : String) : Prop :=
  ∃ activation children child, (artifact, RootEntry.artifact activation children) ∈ disk.entries ∧
    (name, child) ∈ children.entries

theorem keep_congr {first second : String → String → Bool} {disk : CacheDisk}
    (same : ∀ artifact name, disk.Child artifact name → first artifact name = second artifact name) :
    disk.keep first = disk.keep second := by
  refine Listing.ext (List.map_congr_left fun entry member => ?_)
  obtain ⟨artifact, entry⟩ := entry
  cases entry with
  | other => rfl
  | artifact activation children =>
    refine congrArg (fun kept => (artifact, RootEntry.artifact activation kept)) (Listing.ext ?_)
    exact List.filter_congr fun child among =>
      same artifact child.1 ⟨activation, children, child.2, member, among⟩

end CacheDisk

/-! ### Scans -/

variable {root artifactId : String} {scan : CacheScan} {roots : List (String × RootEntry)}
  {disk after : CacheDisk} {children : List (String × CacheChild)} {entries : List CacheEntry}

theorem key_of_readEntry {name : String} {metadata : StoredDocument}
    {files : List (String × CacheTree)} {entry : CacheEntry}
    (reads : readEntry root artifactId name metadata files = .ok entry) :
    entry.key = (artifactId, name) := by
  rw [readEntry, bind_eq_ok] at reads
  obtain ⟨reference, _, rest⟩ := reads
  split at rest
  · cases rest
  · rename_i known
    rw [not_or, not_not, not_not] at known
    split at rest
    · obtain ⟨size, _, same⟩ := bind_eq_ok.mp rest
      cases same
      exact Prod.ext known.1 known.2
    · cases rest

/-- What a scan of one artifact finds. -/
structure Scanned (artifactId : String) (children : List (String × CacheChild)) (entries : List CacheEntry)
    (leftovers : List Leftover) : Prop where
  /-- The versions are entries that are not leftovers, in their order. -/
  versions : entries.map CacheEntry.key =
    (children.filter fun child => !dotted child.1).map fun child => (artifactId, child.1)
  leftovers : leftovers.map (fun leftover => (leftover.artifact, leftover.name)) =
    (children.filter fun child => dotted child.1).map fun child => (artifactId, child.1)

theorem mem_children {artifactId other name : String} {children : List (String × CacheChild)}
    {which : String → Bool} :
    (other, name) ∈ (children.filter fun child => which child.1).map (fun child => (artifactId, child.1)) ↔
      which name = true ∧ other = artifactId ∧ ∃ child, (name, child) ∈ children := by
  rw [List.mem_map]
  constructor
  · rintro ⟨⟨name, child⟩, among, same⟩
    cases same
    obtain ⟨member, kind⟩ := List.mem_filter.mp among
    exact ⟨kind, rfl, child, member⟩
  · rintro ⟨kind, rfl, child, member⟩
    exact ⟨(name, child), List.mem_filter.mpr ⟨member, kind⟩, rfl⟩

namespace Scanned

variable {artifactId other name : String} {children : List (String × CacheChild)} {entries : List CacheEntry}
  {leftovers : List Leftover}

theorem mem_versions (scanned : Scanned artifactId children entries leftovers) :
    (other, name) ∈ entries.map CacheEntry.key ↔
      dotted name = false ∧ other = artifactId ∧ ∃ child, (name, child) ∈ children := by
  rw [scanned.versions, ← Bool.not_eq_true']
  exact @mem_children _ _ _ _ fun name => !dotted name

theorem mem_leftovers (scanned : Scanned artifactId children entries leftovers) :
    (other, name) ∈ leftovers.map (fun leftover => (leftover.artifact, leftover.name)) ↔
      dotted name = true ∧ other = artifactId ∧ ∃ child, (name, child) ∈ children := by
  rw [scanned.leftovers]
  exact mem_children

theorem nodup (scanned : Scanned artifactId children entries leftovers)
    (different : (children.map Prod.fst).Nodup) : (entries.map CacheEntry.key).Nodup := by
  rw [scanned.versions]
  have names : ((children.filter fun child => !dotted child.1).map Prod.fst).Nodup :=
    different.sublist (List.filter_sublist.map Prod.fst)
  have keys := names.map (f := fun name => (artifactId, name)) fun _ _ same => (Prod.mk.inj same).2
  rwa [List.map_map] at keys

end Scanned

variable {leftovers : List Leftover}

theorem scanned_of_scanArtifact
    (scans : scanArtifact root artifactId children = .ok (entries, leftovers)) :
    Scanned artifactId children entries leftovers := by
  induction children generalizing entries leftovers with
  | nil =>
    cases scans
    exact ⟨rfl, rfl⟩
  | cons child children inductionHypothesis =>
    obtain ⟨name, child⟩ := child
    rw [scanArtifact] at scans
    split at scans
    · rename_i dot
      obtain ⟨⟨others, stale⟩, ran, same⟩ := bind_eq_ok.mp scans
      cases same
      obtain ⟨versions, found⟩ := inductionHypothesis ran
      refine ⟨?_, ?_⟩
      · rw [versions, List.filter_cons_of_neg (by rw [dot]; decide)]
      · rw [List.map_cons, found, List.filter_cons_of_pos (by exact dot), List.map_cons]
    · rename_i plain
      split at scans
      · obtain ⟨entry, reads, rest⟩ := bind_eq_ok.mp scans
        obtain ⟨⟨others, stale⟩, ran, same⟩ := bind_eq_ok.mp rest
        cases same
        obtain ⟨versions, found⟩ := inductionHypothesis ran
        rw [Bool.not_eq_true] at plain
        refine ⟨?_, ?_⟩
        · rw [List.map_cons, versions, key_of_readEntry reads, List.filter_cons_of_pos (by rw [plain]; rfl),
            List.map_cons]
        · rw [found, List.filter_cons_of_neg (by rw [plain]; decide)]
      · cases scans

/-- A scan of fewer entries finds what it found among them. -/
theorem scanArtifact_filter (kept : String → String → Bool)
    (scans : scanArtifact root artifactId children = .ok (entries, leftovers)) :
    scanArtifact root artifactId (children.filter fun child => kept artifactId child.1) =
      .ok (entries.filter fun entry => kept entry.key.1 entry.key.2,
        leftovers.filter fun leftover => kept leftover.artifact leftover.name) := by
  induction children generalizing entries leftovers with
  | nil =>
    cases scans
    rfl
  | cons child children inductionHypothesis =>
    obtain ⟨name, child⟩ := child
    rw [scanArtifact] at scans
    split at scans
    · rename_i dot
      obtain ⟨⟨others, stale⟩, ran, same⟩ := bind_eq_ok.mp scans
      cases same
      have rest := inductionHypothesis ran
      by_cases keeps : kept artifactId name = true
      · rw [List.filter_cons_of_pos (by exact keeps), scanArtifact, if_pos dot, rest, ok_bind,
          List.filter_cons_of_pos (by exact keeps)]
        rfl
      · rw [List.filter_cons_of_neg (by exact keeps), rest, List.filter_cons_of_neg (by exact keeps)]
    · rename_i plain
      split at scans
      · rename_i files tree
        obtain ⟨entry, reads, rest⟩ := bind_eq_ok.mp scans
        obtain ⟨⟨others, stale⟩, ran, same⟩ := bind_eq_ok.mp rest
        cases same
        have rest := inductionHypothesis ran
        have key := key_of_readEntry reads
        by_cases keeps : kept artifactId name = true
        · rw [List.filter_cons_of_pos (by exact keeps), scanArtifact, if_neg plain, tree]
          dsimp only
          rw [reads, ok_bind, rest, ok_bind, List.filter_cons_of_pos (by rw [key]; exact keeps)]
          rfl
        · rw [List.filter_cons_of_neg (by exact keeps), rest,
            List.filter_cons_of_neg (by rw [key]; exact keeps)]
      · cases scans

/-- The names of a directory are different. -/
theorem Listing.nodup {Entry : Type} (listing : Listing Entry) : (listing.entries.map Prod.fst).Nodup :=
  listing.ordered.imp fun less => less.ne

/-- What a scan of the root finds. -/
structure FullScan (roots : List (String × RootEntry)) (scan : CacheScan) : Prop where
  /-- The versions are the entries of artifacts that are not leftovers, each once. -/
  nodup : (scan.entries.map CacheEntry.key).Nodup
  versions : ∀ artifactId name, (artifactId, name) ∈ scan.entries.map CacheEntry.key ↔
    dotted name = false ∧ ∃ activation children child,
      (artifactId, RootEntry.artifact activation children) ∈ roots ∧ (name, child) ∈ children.entries
  leftovers : ∀ artifactId name, (artifactId, name) ∈
      scan.leftovers.map (fun leftover => (leftover.artifact, leftover.name)) ↔
    dotted name = true ∧ ∃ activation children child,
      (artifactId, RootEntry.artifact activation children) ∈ roots ∧ (name, child) ∈ children.entries
  /-- A key is protected if an activation of an artifact names it. -/
  named : ∀ key, key ∈ scan.protectedKeys ↔ ∃ artifactId activation children state,
    (artifactId, RootEntry.artifact activation children) ∈ roots ∧
      readActivation artifactId activation = .ok state ∧ key ∈ activationKeys state

theorem scanRoots_cons_eq_ok {entry : RootEntry}
    (scans : scanRoots root ((artifactId, entry) :: roots) = .ok scan) :
    ∃ activation children state found stale rest, entry = .artifact activation children ∧
      artifactReferenceError (probe artifactId) = none ∧ readActivation artifactId activation = .ok state ∧
      scanArtifact root artifactId children.entries = .ok (found, stale) ∧ scanRoots root roots = .ok rest ∧
      scan = ⟨found ++ rest.entries, activationKeys state ++ rest.protectedKeys, stale ++ rest.leftovers⟩ := by
  unfold scanRoots at scans
  split at scans
  · rename_i activation children valid
    obtain ⟨state, reads, rest⟩ := bind_eq_ok.mp scans
    obtain ⟨⟨found, stale⟩, finds, rest⟩ := bind_eq_ok.mp rest
    obtain ⟨others, ran, same⟩ := bind_eq_ok.mp rest
    cases same
    exact ⟨activation, children, state, found, stale, others, rfl, valid, reads, finds, ran, rfl⟩
  · cases scans

theorem scanRoots_cons {activation : ActivationFile} {children : Listing CacheChild}
    {state : ArtifactActivation} {found : List CacheEntry} {stale : List Leftover}
    {rest : CacheScan} (valid : artifactReferenceError (probe artifactId) = none)
    (reads : readActivation artifactId activation = .ok state)
    (finds : scanArtifact root artifactId children.entries = .ok (found, stale))
    (ran : scanRoots root roots = .ok rest) :
    scanRoots root ((artifactId, .artifact activation children) :: roots) =
      .ok ⟨found ++ rest.entries, activationKeys state ++ rest.protectedKeys, stale ++ rest.leftovers⟩ := by
  unfold scanRoots
  rw [valid]
  dsimp only
  rw [reads, ok_bind, finds, ok_bind]
  dsimp only
  rw [ran]
  rfl

theorem fullScan_of_scanRoots (different : (roots.map Prod.fst).Nodup)
    (scans : scanRoots root roots = .ok scan) : FullScan roots scan := by
  induction roots generalizing scan with
  | nil =>
    cases scans
    refine ⟨List.nodup_nil, fun _ _ => ?_, fun _ _ => ?_, fun _ => ?_⟩ <;>
      simp only [List.map_nil, List.not_mem_nil, false_and, exists_false, and_false]
  | cons entry roots inductionHypothesis =>
    obtain ⟨artifactId, entry⟩ := entry
    obtain ⟨activation, children, state, found, stale, rest, rfl, _, reads, finds, ran, rfl⟩ :=
      scanRoots_cons_eq_ok scans
    obtain ⟨alone, others⟩ := List.nodup_cons.mp different
    obtain ⟨nodup, versions, leftovers, named⟩ := inductionHypothesis others ran
    have scanned := scanned_of_scanArtifact finds
    -- an entry is one of the first artifact, or of another
    have split : ∀ other name, (∃ activation' children' child,
        (other, RootEntry.artifact activation' children') ∈
            (artifactId, RootEntry.artifact activation children) :: roots ∧
          (name, child) ∈ children'.entries) ↔
        (other = artifactId ∧ ∃ child, (name, child) ∈ children.entries) ∨
          ∃ activation' children' child, (other, RootEntry.artifact activation' children') ∈ roots ∧
            (name, child) ∈ children'.entries := by
      intro other name
      constructor
      · rintro ⟨activation', children', child, member, among⟩
        rcases List.mem_cons.mp member with same | later
        · cases same
          exact Or.inl ⟨rfl, child, among⟩
        · exact Or.inr ⟨activation', children', child, later, among⟩
      · rintro (⟨rfl, child, among⟩ | ⟨activation', children', child, later, among⟩)
        · exact ⟨activation, children, child, List.mem_cons_self, among⟩
        · exact ⟨activation', children', child, List.mem_cons_of_mem _ later, among⟩
    refine ⟨?_, fun other name => ?_, fun other name => ?_, fun key => ?_⟩
    · rw [List.map_append, List.nodup_append]
      refine ⟨?_, nodup, ?_⟩
      · exact scanned.nodup children.nodup
      · rintro key mine _ theirs rfl
        obtain ⟨other, name⟩ := key
        obtain ⟨_, rfl, _⟩ := scanned.mem_versions.mp mine
        obtain ⟨_, _, _, _, member, _⟩ := (versions other name).mp theirs
        exact alone (List.mem_map.mpr ⟨_, member, rfl⟩)
    · rw [List.map_append, List.mem_append, scanned.mem_versions, versions, split]
      tauto
    · rw [List.map_append, List.mem_append, scanned.mem_leftovers, leftovers, split]
      tauto
    · rw [List.mem_append, named]
      constructor
      · rintro (mine | ⟨other, activation', children', state', member, reads', names⟩)
        · exact ⟨artifactId, activation, children, state, List.mem_cons_self, reads, mine⟩
        · exact ⟨other, activation', children', state', List.mem_cons_of_mem _ member, reads', names⟩
      · rintro ⟨other, activation', children', state', member, reads', names⟩
        rcases List.mem_cons.mp member with same | later
        · cases same
          cases reads.symm.trans reads'
          exact Or.inl names
        · exact Or.inr ⟨other, activation', children', state', later, reads', names⟩

/-- A scan of fewer entries of the artifacts finds what it found among them. -/
theorem scanRoots_keep (kept : String → String → Bool) (scans : scanRoots root roots = .ok scan) :
    scanRoots root (roots.map fun entry => (entry.1, entry.2.keep (kept entry.1))) =
      .ok ⟨scan.entries.filter fun entry => kept entry.key.1 entry.key.2, scan.protectedKeys,
        scan.leftovers.filter fun leftover => kept leftover.artifact leftover.name⟩ := by
  induction roots generalizing scan with
  | nil =>
    cases scans
    rfl
  | cons entry roots inductionHypothesis =>
    obtain ⟨artifactId, entry⟩ := entry
    obtain ⟨activation, children, state, found, stale, rest, rfl, valid, reads, finds, ran, rfl⟩ :=
      scanRoots_cons_eq_ok scans
    have fewer : scanArtifact root artifactId
        (children.filter fun name _ => kept artifactId name).entries = _ := scanArtifact_filter kept finds
    rw [List.filter_append, List.filter_append]
    exact scanRoots_cons valid reads fewer (inductionHypothesis ran)

namespace CacheDisk

theorem keep_eq_self {kept : String → String → Bool} {disk : CacheDisk}
    (all : ∀ artifact name, kept artifact name = true) : disk.keep kept = disk := by
  refine Listing.ext ?_
  have same : ∀ entry ∈ disk.entries, (entry.1, entry.2.keep (kept entry.1)) = entry := by
    rintro ⟨artifact, entry⟩ _
    cases entry with
    | other => rfl
    | artifact activation children =>
      refine congrArg (fun left => (artifact, RootEntry.artifact activation left)) (Listing.ext ?_)
      exact List.filter_eq_self.mpr fun child _ => all artifact child.1
  exact (List.map_congr_left same).trans (List.map_id' _)

/-- The store without entries of artifacts. -/
def without (disk : CacheDisk) (gone : List (String × String)) : CacheDisk :=
  disk.keep fun artifact name => decide ((artifact, name) ∉ gone)

theorem without_nil (disk : CacheDisk) : disk.without [] = disk :=
  keep_eq_self fun _ _ => decide_eq_true List.not_mem_nil

theorem without_erase (disk : CacheDisk) (artifact name : String) (gone : List (String × String)) :
    (disk.erase artifact name).without gone = disk.without ((artifact, name) :: gone) := by
  rw [erase, without, keep_keep, without]
  refine congrArg (fun kept => disk.keep kept) ?_
  funext other entry
  rw [Bool.eq_iff_iff, Bool.and_eq_true, decide_eq_true_eq, decide_eq_true_eq, decide_eq_true_eq,
    List.mem_cons, not_or]

end CacheDisk

/-! ### Reclaiming -/

def Leftover.place (leftover : Leftover) : String × String := (leftover.artifact, leftover.name)

theorem reclaimAll_eq_ok {faults : CacheFaults} {labels : List String}
    (ran : reclaimAll faults leftovers disk = (.ok labels, after)) :
    labels = leftovers.map Leftover.label ∧ after = disk.without (leftovers.map Leftover.place) := by
  induction leftovers generalizing disk labels with
  | nil =>
    obtain ⟨same, last⟩ := Prod.mk.inj ran
    cases same
    exact ⟨rfl, last.symm.trans disk.without_nil.symm⟩
  | cons leftover leftovers inductionHypothesis =>
    rw [reclaimAll] at ran
    split at ran
    · cases (Prod.mk.inj ran).1
    split at ran
    · rename_i others left reclaims
      obtain ⟨same, rfl⟩ := Prod.mk.inj ran
      cases same
      obtain ⟨rfl, rfl⟩ := inductionHypothesis reclaims
      exact ⟨rfl, disk.without_erase _ _ _⟩
    · cases (Prod.mk.inj ran).1

theorem code_of_reclaimAll {faults : CacheFaults} {error : ArtifactCacheError}
    (ran : reclaimAll faults leftovers disk = (.error error, after)) :
    error.code = "cache-reclaim-failed" := by
  induction leftovers generalizing disk with
  | nil => cases ran
  | cons leftover leftovers inductionHypothesis =>
    rw [reclaimAll] at ran
    split at ran
    · cases (Prod.mk.inj ran).1
      rfl
    split at ran
    · cases (Prod.mk.inj ran).1
    · rename_i failure left ran'
      cases ran
      exact inductionHypothesis ran'

/-! ### Collecting -/

namespace Cache

variable {cache : Cache} {faults : CacheFaults} {protectedKeys : List (String × String)}
  {candidates kept left : List CacheEntry} {removed dropped : List ArtifactReference} {disk after : CacheDisk}

/-- Both quotas hold of versions. -/
def Holds (cache : Cache) (entries : List CacheEntry) : Prop :=
  entries.length ≤ cache.maxItems ∧ totalSize entries ≤ cache.maxBytes

theorem within_iff {entries : List CacheEntry} {leftovers : List Leftover} :
    cache.within (accountingOf entries protectedKeys leftovers) = true ↔ cache.Holds entries := by
  rw [within, Bool.and_eq_true, decide_eq_true_eq, decide_eq_true_eq]
  rfl

/-- The loop removes candidates in their order, until the quotas hold and no longer. -/
theorem collect_eq_ok
    (ran : cache.collect faults protectedKeys candidates kept removed disk = (.ok (left, dropped), after)) :
    ∃ gone rest, candidates = gone ++ rest ∧ left = kept.diff gone ∧
      dropped = removed ++ gone.map CacheEntry.reference ∧
      after = disk.without (gone.map CacheEntry.key) ∧
      (∀ fewer, fewer <+: gone → fewer ≠ gone → ¬ cache.Holds (kept.diff fewer)) ∧
      (rest = [] ∨ cache.Holds left) := by
  induction candidates generalizing kept removed disk with
  | nil =>
    obtain ⟨same, last⟩ := Prod.mk.inj ran
    cases same
    refine ⟨[], [], rfl, rfl, (List.append_nil _).symm, last.symm.trans disk.without_nil.symm, ?_,
      Or.inl rfl⟩
    exact fun fewer begins differs => absurd (List.prefix_nil.mp begins) differs
  | cons entry candidates inductionHypothesis =>
    rw [collect] at ran
    split at ran
    · rename_i holds
      obtain ⟨same, last⟩ := Prod.mk.inj ran
      cases same
      refine ⟨[], entry :: candidates, rfl, rfl, (List.append_nil _).symm,
        last.symm.trans disk.without_nil.symm, ?_, Or.inr (within_iff.mp holds)⟩
      exact fun fewer begins differs => absurd (List.prefix_nil.mp begins) differs
    · rename_i exceeds
      split at ran
      · cases (Prod.mk.inj ran).1
      · obtain ⟨gone, rest, rfl, rfl, rfl, rfl, minimal, ends⟩ := inductionHypothesis ran
        refine ⟨entry :: gone, rest, rfl, (List.diff_cons _ _ _).symm, ?_, disk.without_erase _ _ _, ?_, ends⟩
        · rw [List.map_cons, List.append_assoc, List.singleton_append]
        · intro fewer begins differs
          cases fewer with
          | nil => exact fun holds => exceeds (within_iff.mpr holds)
          | cons first fewer =>
            obtain ⟨rfl, further⟩ := List.cons_prefix_cons.mp begins
            rw [List.diff_cons]
            exact minimal fewer further fun same => differs (congrArg _ same)

theorem code_of_collect {error : ArtifactCacheError}
    (ran : cache.collect faults protectedKeys candidates kept removed disk = (.error error, after)) :
    error.code = "cache-delete-failed" := by
  induction candidates generalizing kept removed disk with
  | nil => cases ran
  | cons entry candidates inductionHypothesis =>
    rw [collect] at ran
    split at ran
    · cases (Prod.mk.inj ran).1
    split at ran
    · cases (Prod.mk.inj ran).1
      rfl
    · exact inductionHypothesis ran

end Cache

/-! ### Refusals of a scan -/

/-- What fails only since the cache does not know what it sees. -/
def Recognized {Value : Type} (result : Except ArtifactCacheError Value) : Prop :=
  ∀ error, result = .error error → error.code = "cache-state-invalid"

theorem recognized_ok {Value : Type} (value : Value) : Recognized (.ok value) := fun _ same => by cases same

theorem recognized_invalid {Value : Type} (detail : String) :
    Recognized (.error (stateInvalid detail) : Except ArtifactCacheError Value) := by
  intro error same
  cases same
  rfl

theorem Recognized.bind {Value Other : Type} {first : Except ArtifactCacheError Value}
    {next : Value → Except ArtifactCacheError Other} (known : Recognized first)
    (later : ∀ value, Recognized (next value)) : Recognized (first >>= next) := by
  cases first with
  | error error =>
    intro other same
    cases same
    exact known error rfl
  | ok value => exact later value

theorem recognized_versionSize (files : List (String × CacheTree)) : Recognized (versionSize files) := by
  induction files with
  | nil => exact recognized_ok 0
  | cons file files inductionHypothesis =>
    obtain ⟨name, tree⟩ := file
    cases tree with
    | regular size =>
      rw [versionSize]
      cases sized : versionSize files with
      | error error =>
        rw [sized] at inductionHypothesis
        intro other same
        cases same
        exact inductionHypothesis error rfl
      | ok total => exact recognized_ok _
    | link size toDirectory => exact recognized_invalid _
    | special size => exact recognized_invalid _
    | directory children => exact recognized_invalid _

theorem recognized_parseMetadata (document : Json ExactDecimal) : Recognized (parseMetadata document) := by
  unfold parseMetadata
  split
  · split
    · exact recognized_invalid _
    · split
      · split
        · exact recognized_invalid _
        · split
          · exact recognized_ok _
          · exact recognized_invalid _
          · exact recognized_invalid _
      · exact recognized_invalid _
  · exact recognized_invalid _

theorem recognized_readEntry (root artifactId name : String) (metadata : StoredDocument)
    (files : List (String × CacheTree)) : Recognized (readEntry root artifactId name metadata files) := by
  rw [readEntry]
  refine Recognized.bind ?_ fun reference => ?_
  · cases metadata with
    | unreadable error => exact recognized_invalid _
    | json document => exact recognized_parseMetadata document
  · split
    · exact recognized_invalid _
    · split
      · exact (recognized_versionSize files).bind fun _ => recognized_ok _
      · exact recognized_invalid _

theorem recognized_scanArtifact (root artifactId : String) (children : List (String × CacheChild)) :
    Recognized (scanArtifact root artifactId children) := by
  induction children with
  | nil => exact recognized_ok _
  | cons child children inductionHypothesis =>
    obtain ⟨name, child⟩ := child
    rw [scanArtifact]
    split
    · exact inductionHypothesis.bind fun _ => recognized_ok _
    · split
      · refine (recognized_readEntry root artifactId name _ _).bind fun _ => ?_
        exact inductionHypothesis.bind fun _ => recognized_ok _
      · exact recognized_invalid _

theorem recognized_readActivation (artifactId : String) (file : ActivationFile) :
    Recognized (readActivation artifactId file) := by
  have mapped : ∀ result : Except ArtifactFailure ArtifactActivation,
      Recognized (result.mapError readActivation.invalid) := by
    intro result
    cases result with
    | ok state => exact recognized_ok state
    | error failure => cases failure <;> exact recognized_invalid _
  cases file with
  | absent => exact mapped _
  | link => exact recognized_invalid _
  | stored document => exact mapped _

theorem recognized_scanRoots (root : String) (roots : List (String × RootEntry)) :
    Recognized (scanRoots root roots) := by
  induction roots with
  | nil => exact recognized_ok _
  | cons entry roots inductionHypothesis =>
    unfold scanRoots
    split
    · refine (recognized_readActivation _ _).bind fun _ => ?_
      refine (recognized_scanArtifact root _ _).bind fun _ => ?_
      exact inductionHypothesis.bind fun _ => recognized_ok _
    · exact recognized_invalid _

/-! ### Enforcing the quotas -/

/-- An activation of an artifact names a version, as the active one or to roll back to. -/
def Named (disk : CacheDisk) (key : String × String) : Prop :=
  ∃ artifactId activation children state,
    (artifactId, RootEntry.artifact activation children) ∈ disk.entries ∧
      readActivation artifactId activation = .ok state ∧ key ∈ activationKeys state

/-- What enforcing the quotas does to a store: the candidates that are gone, and the rest of them. -/
structure Collects (cache : Cache) (disk after : CacheDisk) (collection : CacheCollection) (scan : CacheScan)
    (gone rest : List CacheEntry) : Prop where
  scans : cache.scan disk = .ok scan
  candidates : scan.candidates = gone ++ rest
  removed : collection.removed = gone.map CacheEntry.reference
  reclaimed : collection.reclaimed = scan.leftovers.map Leftover.label
  /-- No version is gone that an activation names. -/
  spared : ∀ entry ∈ gone, ¬ Named disk entry.key
  /-- The quotas hold of what is kept, and did not before the last version was gone. -/
  holds : cache.Holds (scan.entries.diff gone)
  minimal : ∀ fewer, fewer <+: gone → fewer ≠ gone → ¬ cache.Holds (scan.entries.diff fewer)
  /-- Every leftover is gone, those versions, and nothing else. -/
  left : after = disk.keep fun artifact name =>
    !dotted name && decide ((artifact, name) ∉ gone.map CacheEntry.key)
  rescans : cache.scan after = .ok ⟨scan.entries.diff gone, scan.protectedKeys, []⟩
  before : cache.accounting disk = .ok collection.before
  after : cache.accounting after = .ok collection.after

/-- A store whose protected versions alone exceed a quota, with only its leftovers gone. -/
structure Refuses (cache : Cache) (disk after : CacheDisk) (scan : CacheScan) : Prop where
  scans : cache.scan disk = .ok scan
  left : after = disk.keep fun _ name => !dotted name
  /-- The quotas hold of no versions among which are all that are protected. -/
  hopeless : ∀ kept, (∀ entry ∈ scan.entries, Named disk entry.key → entry ∈ kept) → ¬ cache.Holds kept

theorem named_iff {cache : Cache} (scans : cache.scan disk = .ok scan) (key : String × String) :
    key ∈ scan.protectedKeys ↔ Named disk key :=
  (fullScan_of_scanRoots disk.nodup scans).named key

/-- Without what the scan found left over, no leftover is there. -/
theorem without_leftovers {cache : Cache} (scans : cache.scan disk = .ok scan) :
    disk.without (scan.leftovers.map Leftover.place) = disk.keep fun _ name => !dotted name := by
  refine CacheDisk.keep_congr fun artifact name child => ?_
  have found : (artifact, name) ∈ scan.leftovers.map Leftover.place ↔ dotted name = true :=
    ((fullScan_of_scanRoots disk.nodup scans).leftovers artifact name).trans (and_iff_left child)
  rw [Bool.eq_iff_iff, decide_eq_true_eq, Bool.not_eq_true', ← Bool.not_eq_true]
  exact not_congr found

section

variable {cache : Cache} {faults : CacheFaults} {disk after : CacheDisk} {scan : CacheScan}
  {gone : List CacheEntry}

theorem nodup_entries (scans : cache.scan disk = .ok scan) : scan.entries.Nodup :=
  List.Nodup.of_map _ (fullScan_of_scanRoots disk.nodup scans).nodup

theorem mem_candidates {entry : CacheEntry} :
    entry ∈ scan.candidates ↔ entry ∈ scan.entries ∧ entry.key ∉ scan.protectedKeys := by
  rw [CacheScan.candidates, List.mem_insertionSort, List.mem_filter, decide_eq_true_eq]

/-- A scan after some versions and every leftover are gone. -/
theorem scan_keep (scans : cache.scan disk = .ok scan) (among : gone ⊆ scan.entries) :
    cache.scan (disk.keep fun artifact name =>
        !dotted name && decide ((artifact, name) ∉ gone.map CacheEntry.key)) =
      .ok ⟨scan.entries.diff gone, scan.protectedKeys, []⟩ := by
  obtain ⟨nodup, versions, leftovers, _⟩ := fullScan_of_scanRoots disk.nodup scans
  have fewer := scanRoots_keep (fun artifact name =>
    !dotted name && decide ((artifact, name) ∉ gone.map CacheEntry.key)) scans
  refine fewer.trans (congrArg Except.ok ?_)
  have entries : (scan.entries.filter fun entry =>
      !dotted entry.key.2 && decide ((entry.key.1, entry.key.2) ∉ gone.map CacheEntry.key)) =
      scan.entries.diff gone := by
    rw [(nodup_entries scans).sdiff_eq_filter]
    refine List.filter_congr fun entry member => ?_
    have plain := ((versions entry.key.1 entry.key.2).mp (List.mem_map_of_mem member)).1
    have same : (entry.key.1, entry.key.2) ∈ gone.map CacheEntry.key ↔ entry ∈ gone := by
      constructor
      · intro found
        obtain ⟨other, inside, key⟩ := List.mem_map.mp found
        exact List.inj_on_of_nodup_map nodup (among inside) member key ▸ inside
      · exact fun inside => List.mem_map_of_mem inside
    rw [plain, Bool.not_false, Bool.true_and, decide_eq_decide]
    exact not_congr same
  have none : (scan.leftovers.filter fun leftover =>
      !dotted leftover.name && decide ((leftover.artifact, leftover.name) ∉ gone.map CacheEntry.key)) = [] := by
    refine List.filter_eq_nil_iff.mpr fun leftover member => ?_
    have dot := ((leftovers leftover.artifact leftover.name).mp (List.mem_map_of_mem member)).1
    rw [dot, Bool.not_true, Bool.false_and]
    exact Bool.false_ne_true
  rw [entries, none]

/-- Without the candidates, the protected versions are left. -/
theorem diff_candidates (scans : cache.scan disk = .ok scan) :
    scan.entries.diff scan.candidates = scan.protectedEntries := by
  rw [(nodup_entries scans).sdiff_eq_filter, CacheScan.protectedEntries]
  refine List.filter_congr fun entry member => ?_
  rw [decide_eq_decide, mem_candidates, and_iff_right member, not_not]

variable {kept : List CacheEntry}

/-- The quotas hold of no versions among which are all that are protected, unless they hold of those. -/
theorem hopeless_of_exceeds (scans : cache.scan disk = .ok scan)
    (exceeds : ¬ cache.Holds scan.protectedEntries)
    (spared : ∀ entry ∈ scan.entries, Named disk entry.key → entry ∈ kept) :
    ¬ cache.Holds kept := by
  rintro ⟨items, bytes⟩
  have among : scan.protectedEntries ⊆ kept := by
    intro entry member
    obtain ⟨inside, named⟩ := List.mem_filter.mp member
    exact spared entry inside ((named_iff scans _).mp (of_decide_eq_true named))
  have nodup : scan.protectedEntries.Nodup := (nodup_entries scans).filter _
  obtain ⟨part, same, sublist⟩ := nodup.subperm among
  refine exceeds ⟨?_, ?_⟩
  · rw [← same.length_eq]
    exact sublist.length_le.trans items
  · rw [totalSize, ← (same.map _).sum_eq]
    exact (sublist.map _).sum_le_sum (fun _ _ => Nat.zero_le _) |>.trans bytes

/-- What a collection of a reclaimed store does. -/
theorem collects_of_collect {dropped : List ArtifactReference} (scans : cache.scan disk = .ok scan)
    (room : cache.Holds scan.protectedEntries)
    (ran : cache.collect faults scan.protectedKeys scan.candidates scan.entries []
      (disk.keep fun _ name => !dotted name) = (.ok (kept, dropped), after)) :
    cache.Holds kept ∧ ∃ gone rest, Collects cache disk after
      ⟨accountingOf scan.entries scan.protectedKeys scan.leftovers, accountingOf kept scan.protectedKeys [],
        dropped, scan.leftovers.map Leftover.label⟩ scan gone rest := by
  obtain ⟨gone, rest, candidates, rfl, rfl, rfl, minimal, ends⟩ := Cache.collect_eq_ok ran
  have holds : cache.Holds (scan.entries.diff gone) := by
    rcases ends with rfl | holds
    · rw [List.append_nil] at candidates
      rw [← candidates, diff_candidates scans]
      exact room
    · exact holds
  have candidate : ∀ entry ∈ gone, entry ∈ scan.entries ∧ entry.key ∉ scan.protectedKeys := by
    intro entry member
    refine mem_candidates.mp ?_
    rw [candidates]
    exact List.mem_append_left rest member
  have rescans := scan_keep scans fun entry member => (candidate entry member).1
  have left : (disk.keep fun _ name => !dotted name).without (gone.map CacheEntry.key) =
      disk.keep fun artifact name => !dotted name && decide ((artifact, name) ∉ gone.map CacheEntry.key) :=
    CacheDisk.keep_keep _ _ disk
  refine ⟨holds, gone, rest, scans, candidates, List.nil_append _, rfl, ?_, holds, minimal, left, ?_, ?_, ?_⟩
  · exact fun entry member named => (candidate entry member).2 ((named_iff scans _).mpr named)
  · rw [left]
    exact rescans
  · rw [Cache.accounting, scans]
    rfl
  · rw [Cache.accounting, left, rescans]
    rfl

variable (cache faults disk)

/-- What enforcing the quotas may come to. -/
structure Safe : Prop where
  returns : ∀ collection after, cache.enforce faults disk = (.ok collection, after) →
    ∃ scan gone rest, Collects cache disk after collection scan gone rest
  refuses : ∀ error after, cache.enforce faults disk = (.error error, after) →
    error.code = "quota-unsatisfiable" → ∃ scan, Refuses cache disk after scan

/-- The quotas are enforced by the fewest removals in order, or no version is removed: a return has
removed a shortest part of the order that is enough, and a refusal that speaks of the quotas leaves every
version where it was. -/
theorem enforce_safe : Safe cache faults disk := by
  have outcome : ∀ result after, cache.enforce faults disk = (result, after) →
      match result with
      | .ok collection => ∃ scan gone rest, Collects cache disk after collection scan gone rest
      | .error error => error.code = "quota-unsatisfiable" → ∃ scan, Refuses cache disk after scan := by
    intro result after ran
    unfold Cache.enforce at ran
    cases scans : cache.scan disk with
    | error error =>
      rw [scans] at ran
      cases ran
      intro coded
      rw [recognized_scanRoots cache.root disk.entries error scans] at coded
      exact absurd coded (by decide)
    | ok scan =>
      rw [scans] at ran
      dsimp only at ran
      split at ran
      · rename_i error left reclaims
        cases ran
        intro coded
        rw [code_of_reclaimAll reclaims] at coded
        exact absurd coded (by decide)
      rename_i labels left reclaims
      obtain ⟨rfl, rfl⟩ := reclaimAll_eq_ok reclaims
      rw [without_leftovers scans] at ran
      split at ran
      · rename_i exceeds
        cases ran
        refine fun _ => ⟨scan, scans, rfl, fun kept => hopeless_of_exceeds scans fun holds => ?_⟩
        rw [Cache.within_iff.mpr holds] at exceeds
        cases exceeds
      rename_i room
      rw [Bool.not_eq_true, Bool.not_eq_false', Cache.within_iff] at room
      split at ran
      · rename_i error left collects
        cases ran
        intro coded
        rw [Cache.code_of_collect collects] at coded
        exact absurd coded (by decide)
      rename_i kept removed left collects
      obtain ⟨holds, gone, rest, does⟩ := collects_of_collect scans room collects
      rw [if_neg (by rw [Cache.within_iff.mpr holds]; decide)] at ran
      cases ran
      exact ⟨scan, gone, rest, does⟩
  exact ⟨fun collection after ran => outcome _ _ ran, fun error after ran => outcome _ _ ran⟩

end

/-- A version of a detector of one file. -/
def sampleIdentity (version : String) : ArtifactIdentity :=
  ⟨"detector", version, "onnx", "".pushn 'a' 64⟩

def sampleChild (version : String) : String × CacheChild :=
  (version, ⟨.directory [("model.onnx", .regular 40)],
    .json (ArtifactInstaller.metadataDocument (sampleIdentity version) [])⟩)

/-- A store of an active version, two others, and what an install left. -/
def sampleCacheDisk : CacheDisk where
  entries := [("detector", .artifact
    (.stored (.json (ArtifactInstaller.activationDocument "detector"
      ⟨some (sampleIdentity "1.0.0").reference, none⟩)))
    ⟨(".stage", ⟨.regular 7, .unreadable ""⟩) :: ["1.0.0", "2.0.0", "3.0.0"].map sampleChild,
      by decide +kernel⟩)]
  ordered := List.pairwise_singleton _ _

/-- Room for two versions: the first that is not active is removed. -/
example : ((Cache.mk "/store" 100 2).enforce ⟨fun _ _ => none, fun _ _ => none⟩ sampleCacheDisk).1.map
    (fun collection => (collection.removed, collection.reclaimed)) =
      .ok ([(sampleIdentity "2.0.0").reference], ["detector/.stage"]) := by decide +kernel

end ArtifactCache

end Omnitensor
