/-
This file says when a scan of opted-in roots tells the truth.

A scan lists every file once unless two roots reach a file, and the second of them early enough. That it left
something out is true unless only what it refuses, or has listed already, follows the last file it takes.
-/

import Omnitensor.RootScans

namespace Omnitensor

namespace Ingestion

/-! ### Duplicates -/

/-- A digest has the paths of the files with this digest, in their order. -/
theorem get?_pathsByDigest (files : List IngestedFile) (digest : PyString) :
    ((pathsByDigest files).get? digest).getD [] =
      (files.filter fun item => decide (item.digest = digest)).map IngestedFile.path := by
  induction files using List.reverseRecOn with
  | nil => rfl
  | append_singleton files item inductionHypothesis =>
    have last : pathsByDigest (files ++ [item]) = (pathsByDigest files).set item.digest
        (((pathsByDigest files).get? item.digest).getD [] ++ [item.path]) := by
      rw [pathsByDigest, List.foldl_append]
      rfl
    rw [last, Dict.get?_set, List.filter_append, List.map_append]
    by_cases same : digest = item.digest
    · have kept : ([item].filter fun other => decide (other.digest = digest)) = [item] :=
        List.filter_cons_of_pos (by exact decide_eq_true same.symm)
      rw [if_pos same, ← same, Option.getD_some, inductionHypothesis, kept, List.map_singleton]
    · have dropped : ([item].filter fun other => decide (other.digest = digest)) = [] :=
        List.filter_cons_of_neg (by simpa using Ne.symm same)
      rw [if_neg same, inductionHypothesis, dropped, List.map_nil, List.append_nil]

/-- The duplicates of a digest are the paths of at least two files with it. -/
theorem duplicates_spec {scan : IngestionScan} {entry : PyString × List PyString}
    (member : entry ∈ scan.duplicates.entries) :
    1 < entry.2.length ∧ entry.2.Perm
      ((scan.files.filter fun item => decide (item.digest = entry.1)).map IngestedFile.path) := by
  obtain ⟨group, among, produced⟩ := List.mem_filterMap.mp member
  have paths := get?_pathsByDigest scan.files group.1
  rw [Dict.get?_of_mem_entries among, Option.getD_some] at paths
  dsimp only at produced
  split_ifs at produced with several
  · cases produced
    rw [← paths]
    exact ⟨by rwa [List.length_insertionSort], List.perm_insertionSort _ _⟩
  · cases produced

namespace OptedInRootScanner

variable (platform : Platform) (scanner : OptedInRootScanner) (tree : FileTree)

/-! ### The truth of a scan -/

/-- A scan lists files once that are what it may list, groups distinct paths, and is truncated if and only if it
left something out. -/
structure Truthful (result : IngestionScan) : Prop where
  once : (result.files.map IngestedFile.path).Nodup
  sound : ∀ file ∈ result.files, ∃ path, scanner.Reaches tree path ∧ scanner.Describes platform tree path file
  told : result.truncated = true ↔ ∃ path, scanner.Acceptable platform tree path ∧
    path.text ∉ result.files.map IngestedFile.path
  grouped : ∀ entry ∈ result.duplicates.entries, entry.2.Nodup

/-- A file that an earlier root reaches is met again only once as many files are accepted as may be. -/
def Apart : Prop :=
  ∀ earlier root later, scanner.roots = earlier ++ root :: later →
    ∀ before path after, scanner.rootCandidates tree root = before ++ path :: after →
      scanner.Acceptable platform tree path → path ∈ earlier.flatMap (scanner.rootCandidates tree) →
        scanner.maxFiles ≤ (scanner.acceptedFiles platform tree
          (earlier.flatMap (scanner.rootCandidates tree) ++ before)).length

/-- Where candidates follow as many files as may be, one of them is a file that came not before. -/
def Telling : Prop :=
  ∀ before after, scanner.roots.flatMap (scanner.rootCandidates tree) = before ++ after →
    (scanner.acceptedFiles platform tree before).length = scanner.maxFiles → after ≠ [] →
      ∃ path ∈ after, scanner.Acceptable platform tree path ∧ path ∉ before

variable {platform scanner tree}

theorem text_injOn {paths : List Path}
    (below : ∀ path ∈ paths, path ∈ scanner.roots.flatMap (scanner.rootCandidates tree)) :
    ∀ first ∈ paths, ∀ second ∈ paths, first.text = second.text → first = second := by
  intro first member second other same
  obtain ⟨root, _, candidate⟩ := List.mem_flatMap.mp (below first member)
  obtain ⟨otherRoot, _, otherCandidate⟩ := List.mem_flatMap.mp (below second other)
  obtain ⟨filled, descend⟩ := descends_of_mem_rootCandidates candidate
  obtain ⟨otherFilled, otherDescend⟩ := descends_of_mem_rootCandidates otherCandidate
  exact Path.text_injective filled otherFilled descend otherDescend same

/-- The paths of the first files of a scan. -/
theorem map_path_take (paths : List Path) (limit : Nat) :
    ((scanner.acceptedFiles platform tree paths).take limit).map IngestedFile.path =
      ((paths.filter (scanner.accepts platform tree)).take limit).map Path.text := by
  rw [List.map_take, acceptedFiles_map_path, List.map_take]

theorem nodup_map_path_take {paths : List Path} {limit : Nat}
    (below : ∀ path ∈ paths, path ∈ scanner.roots.flatMap (scanner.rootCandidates tree)) :
    (((scanner.acceptedFiles platform tree paths).take limit).map IngestedFile.path).Nodup ↔
      ((paths.filter (scanner.accepts platform tree)).take limit).Nodup := by
  rw [map_path_take]
  refine ⟨List.Nodup.of_map Path.text, List.Nodup.map_on (@text_injOn scanner tree _ fun path member => ?_)⟩
  exact below path (List.mem_filter.mp (List.mem_of_mem_take member)).1

/-- The first files of a scan repeat nothing if and only if the roots that reach the same files do so late enough.
The walk of a single root gives nothing twice, so that what repeats comes from two of them. -/
theorem nodup_iff_apart :
    (((scanner.acceptedFiles platform tree (scanner.roots.flatMap (scanner.rootCandidates tree))).take
      scanner.maxFiles).map IngestedFile.path).Nodup ↔ scanner.Apart platform tree := by
  rw [nodup_map_path_take fun _ member => member, AcceptedPrefix.nodup_take_filter_iff]
  simp only [AcceptedPrefix.flatMap_eq_append_cons_iff]
  constructor
  · intro every earlier root later roots before path after candidates acceptable reached
    rw [length_acceptedFiles]
    exact every _ path _ ⟨earlier, root, later, before, after, roots, candidates, rfl, rfl⟩
      (acceptable_iff.mp acceptable).2 (List.mem_append_left _ reached)
  · rintro apart _ path _ ⟨earlier, root, later, before, after, roots, candidates, rfl, rfl⟩ accepted repeated
    rw [← length_acceptedFiles]
    have among : path ∈ scanner.rootCandidates tree root := by
      rw [candidates]
      exact List.mem_append_right _ List.mem_cons_self
    have member : path ∈ scanner.roots.flatMap (scanner.rootCandidates tree) := by
      rw [roots]
      exact List.mem_flatMap.mpr ⟨root, List.mem_append_right _ List.mem_cons_self, among⟩
    have once : path ∉ before := by
      have nodup := nodup_rootCandidates scanner tree root
      rw [candidates, List.nodup_append] at nodup
      exact fun inside => nodup.2.2 path inside path List.mem_cons_self rfl
    exact apart earlier root later roots before path after candidates (acceptable_iff.mpr ⟨member, accepted⟩)
      ((List.mem_append.mp repeated).resolve_right once)

/-- A file is left out if and only if it follows as many files as may be, and came not before. -/
theorem leftOut_iff {path : Path} :
    (scanner.Acceptable platform tree path ∧ path.text ∉ ((scanner.acceptedFiles platform tree
      (scanner.roots.flatMap (scanner.rootCandidates tree))).take scanner.maxFiles).map IngestedFile.path) ↔
      ∃ before after, scanner.roots.flatMap (scanner.rootCandidates tree) = before ++ after ∧
        (scanner.acceptedFiles platform tree before).length = scanner.maxFiles ∧ path ∈ after ∧
          scanner.Acceptable platform tree path ∧ path ∉ before := by
  have texts (member : path ∈ scanner.roots.flatMap (scanner.rootCandidates tree)) :
      path.text ∈ (((scanner.roots.flatMap (scanner.rootCandidates tree)).filter
        (scanner.accepts platform tree)).take scanner.maxFiles).map Path.text ↔
        path ∈ ((scanner.roots.flatMap (scanner.rootCandidates tree)).filter
          (scanner.accepts platform tree)).take scanner.maxFiles := by
    constructor
    · intro listed
      obtain ⟨other, taken, same⟩ := List.mem_map.mp listed
      have below := (List.mem_filter.mp (List.mem_of_mem_take taken)).1
      have equal := @text_injOn scanner tree _ (fun _ inside => inside) other below path member same
      rwa [← equal]
    · exact List.mem_map_of_mem
  rw [map_path_take]
  simp only [length_acceptedFiles]
  constructor
  · rintro ⟨acceptable, leftOut⟩
    obtain ⟨member, accepted⟩ := acceptable_iff.mp acceptable
    rw [texts member] at leftOut
    obtain ⟨before, after, same, full, later, _, new⟩ :=
      AcceptedPrefix.leftOut_iff.mp ⟨member, accepted, leftOut⟩
    exact ⟨before, after, same, full, later, acceptable, new⟩
  · rintro ⟨before, after, same, full, later, acceptable, new⟩
    obtain ⟨member, accepted⟩ := acceptable_iff.mp acceptable
    rw [texts member]
    exact ⟨acceptable, (AcceptedPrefix.leftOut_iff.mpr ⟨before, after, same, full, later, accepted, new⟩).2.2⟩

/-- A scan tells the truth if and only if its roots are apart and what follows the last file tells. Apart
are roots none of which meets a file of an earlier one while there is room, and candidates tell that, left
over when the scan is full, hold a file that was not met before. -/
theorem scan_truthful_iff {result : IngestionScan} (returned : scanner.scan platform tree = .ok result) :
    scanner.Truthful platform tree result ↔
      scanner.Apart platform tree ∧ scanner.Telling platform tree := by
  obtain ⟨files, truncated⟩ := scan_eq_ok returned
  have exceeds : result.truncated = true ↔ ∃ before after,
      scanner.roots.flatMap (scanner.rootCandidates tree) = before ++ after ∧
        (scanner.acceptedFiles platform tree before).length = scanner.maxFiles ∧ after ≠ [] := by
    simp only [length_acceptedFiles]
    exact truncated.trans AcceptedPrefix.exceeds_iff
  constructor
  · intro truthful
    have once := truthful.once
    rw [files] at once
    refine ⟨nodup_iff_apart.mp once, fun before after same full filled => ?_⟩
    obtain ⟨path, acceptable, unlisted⟩ := truthful.told.mp (exceeds.mpr ⟨before, after, same, full, filled⟩)
    obtain ⟨member, accepted⟩ := acceptable_iff.mp acceptable
    -- The files of the scan are those of this beginning, which reaches the limit.
    have new : path ∉ before := by
      intro earlier
      rw [length_acceptedFiles] at full
      rw [files, map_path_take, same, AcceptedPrefix.take_filter_append full] at unlisted
      exact unlisted (List.mem_map_of_mem (List.mem_filter.mpr ⟨earlier, accepted⟩))
    rw [same] at member
    exact ⟨path, (List.mem_append.mp member).resolve_left new, acceptable, new⟩
  · rintro ⟨apart, telling⟩
    have once : (result.files.map IngestedFile.path).Nodup := by
      rw [files]
      exact nodup_iff_apart.mpr apart
    refine ⟨once, fun file member => ?_, ?_, fun entry member => ?_⟩
    · rw [files] at member
      obtain ⟨path, among, accepted⟩ := List.mem_filterMap.mp (List.mem_of_mem_take member)
      obtain ⟨reached, _⟩ := acceptable_iff.mpr ⟨among, Option.isSome_of_mem accepted⟩
      exact ⟨path, reached, describes_of_accept (accepted_eq_some_iff.mp accepted)⟩
    · rw [exceeds, files]
      constructor
      · rintro ⟨before, after, same, full, filled⟩
        obtain ⟨path, later, acceptable, new⟩ := telling before after same full filled
        exact ⟨path, leftOut_iff.mpr ⟨before, after, same, full, later, acceptable, new⟩⟩
      · rintro ⟨path, leftOut⟩
        obtain ⟨before, after, same, full, later, _⟩ := leftOut_iff.mp leftOut
        exact ⟨before, after, same, full, List.ne_nil_of_mem later⟩
    · exact (duplicates_spec member).2.nodup_iff.mpr (once.sublist (List.filter_sublist.map _))

/-- Roots of which none contains another are apart. -/
theorem apart_of_unrelated (unrelated : scanner.roots.Pairwise fun first second =>
    ¬first.names <+: second.names ∧ ¬second.names <+: first.names) : scanner.Apart platform tree := by
  intro earlier root later roots before path after candidates _ reached
  obtain ⟨other, among, candidate⟩ := List.mem_flatMap.mp reached
  rw [roots, List.pairwise_append] at unrelated
  obtain ⟨notPrefix, notExtended⟩ := unrelated.2.2 other among root List.mem_cons_self
  have below {root : ResolvedPath} (inside : path ∈ scanner.rootCandidates tree root) : root.names <+: path := by
    obtain ⟨directories, _, _, name, _, _, rfl⟩ := mem_rootCandidates.mp inside
    rw [List.append_assoc]
    exact List.prefix_append _ _
  have inside : path ∈ scanner.rootCandidates tree root := by
    rw [candidates]
    exact List.mem_append_right _ List.mem_cons_self
  rcases List.prefix_or_prefix_of_prefix (below candidate) (below inside) with contains | contained
  · exact absurd contains notPrefix
  · exact absurd contained notExtended

/-- Nothing is left out where fewer files than may be are accepted. -/
theorem telling_of_few (few : (scanner.acceptedFiles platform tree
    (scanner.roots.flatMap (scanner.rootCandidates tree))).length < scanner.maxFiles) :
    scanner.Telling platform tree := by
  intro before after same full _
  rw [same, acceptedFiles, List.filterMap_append, List.length_append] at few
  rw [acceptedFiles] at full
  omega

/-! ### A directory with a file and a stream -/

def home : PyString := .ofString "home"

def note : PyString := .ofString "note.txt"

def stream : PyString := .ofString "stream"

/-- The stream is a pipe, or a file like the other. -/
def sampleEntry (piped : Bool) (path : Path) : Entry :=
  if path = [home] then .directory (some [note, stream])
  else if path = [home, note] then .file 1 0 (.ok [7])
  else if path = [home, stream] then if piped then .special else .file 1 0 (.ok [7])
  else .missing true (.ofString "No such file or directory")

theorem sampleEntry_eq_directory {piped : Bool} {directory : Path} {names : List PyString}
    (listed : sampleEntry piped directory = .directory (some names)) : names = [note, stream] := by
  rw [sampleEntry] at listed
  split_ifs at listed
  cases listed
  rfl

def sampleTree (piped : Bool) : FileTree where
  entry := sampleEntry piped
  distinct _ names listed := by
    rw [sampleEntry_eq_directory listed]
    decide +kernel
  descends _ names listed := by
    rw [sampleEntry_eq_directory listed]
    simp only [List.forall_mem_cons, List.not_mem_nil, false_imp_iff, implies_true, and_true]
    exact ⟨⟨by decide, by decide, by decide, by decide⟩, ⟨by decide, by decide, by decide, by decide⟩⟩

def homeRoot : ResolvedPath where
  names := [home]
  descends := List.forall_mem_singleton.mpr ⟨by decide, by decide, by decide, by decide⟩

/-- A scanner whose only root is given so many times. -/
def sampleScanner (more maxFiles : Nat) (few : more + 1 ≤ maxRoots) (positive : 1 ≤ maxFiles) :
    OptedInRootScanner where
  roots := List.replicate (more + 1) homeRoot
  suffixes := []
  maxFileBytes := 64
  maxFiles := maxFiles
  maxDepth := 8
  opted := List.cons_ne_nil _ _
  few := by rwa [List.length_replicate]
  bounds := ⟨by decide, positive, by decide⟩

def samplePlatform : Platform where
  resolve _ := homeRoot
  lowerCase := id
  sha256 _ := .ofString "ca358758f6d27e6cf45272937977a748fd88391db679ceda7dc7bf1f005ee879"

/-- The file of the directory, as a scan lists it. -/
def noteFile : IngestedFile where
  path := .ofString "/home/note.txt"
  sizeBytes := 1
  modifiedAtMs := 0
  suffix := .ofString ".txt"
  digest := .ofString "ca358758f6d27e6cf45272937977a748fd88391db679ceda7dc7bf1f005ee879"

def streamRejected : RejectedFile :=
  ⟨.ofString "/home/stream", .notAFile, .ofString "not a regular file"⟩

/-- Where a root is given twice and its first file is all that is taken, the second walk comes too late. -/
theorem apart_doubled :
    (sampleScanner 1 1 (by decide) (by decide)).Apart samplePlatform (sampleTree false) := by
  intro earlier root later roots before path after _ _ reached
  cases earlier with
  | nil => cases reached
  | cons first earlier =>
    obtain ⟨rfl, _⟩ := List.cons.inj roots
    have filled : 1 ≤ ((sampleScanner 1 1 (by decide) (by decide)).acceptedFiles samplePlatform
        (sampleTree false) ((sampleScanner 1 1 (by decide) (by decide)).rootCandidates (sampleTree false)
          homeRoot)).length := by decide +kernel
    rw [List.flatMap_cons, List.append_assoc, acceptedFiles, List.filterMap_append, List.length_append]
    exact Nat.le_add_right_of_le filled

theorem telling_doubled :
    (sampleScanner 1 1 (by decide) (by decide)).Telling samplePlatform (sampleTree false) := by
  intro before after same full _
  have candidates : (sampleScanner 1 1 (by decide) (by decide)).roots.flatMap
      ((sampleScanner 1 1 (by decide) (by decide)).rootCandidates (sampleTree false)) =
        [[home, note], [home, stream], [home, note], [home, stream]] := by
    decide +kernel
  rw [candidates] at same
  rcases before with _ | ⟨first, _ | ⟨second, before⟩⟩
  · exact absurd full (by decide)
  · obtain ⟨rfl, rfl⟩ := List.cons.inj same
    refine ⟨[home, stream], List.mem_cons_self, acceptable_iff.mpr ⟨?_, by decide +kernel⟩, by decide +kernel⟩
    rw [candidates]
    exact List.mem_cons_of_mem _ List.mem_cons_self
  · obtain ⟨rfl, rest⟩ := List.cons.inj same
    obtain ⟨rfl, _⟩ := List.cons.inj rest
    have two : 2 ≤ ((sampleScanner 1 1 (by decide) (by decide)).acceptedFiles samplePlatform
        (sampleTree false) [[home, note], [home, stream]]).length := by decide +kernel
    have split : [home, note] :: [home, stream] :: before = [[home, note], [home, stream]] ++ before := rfl
    have one : (sampleScanner 1 1 (by decide) (by decide)).maxFiles = 1 := rfl
    rw [split, acceptedFiles, List.filterMap_append, List.length_append, one] at full
    rw [acceptedFiles] at two
    omega

theorem scan_truthful_iff_single :
    (sampleScanner 0 2 (by decide) (by decide)).Truthful samplePlatform (sampleTree true)
      ⟨[noteFile], [streamRejected], false⟩ ∧
    (sampleScanner 1 1 (by decide) (by decide)).Truthful samplePlatform (sampleTree false)
      ⟨[noteFile], [], true⟩ := by
  constructor
  · refine (scan_truthful_iff (by decide +kernel)).mpr ⟨apart_of_unrelated ?_, telling_of_few (by decide +kernel)⟩
    exact List.pairwise_singleton _ _
  · exact (scan_truthful_iff (by decide +kernel)).mpr ⟨apart_doubled, telling_doubled⟩

/-- A root given twice lists its file twice, as its own duplicate; and a pipe that follows the only file makes
the scan say that it left something out. -/
theorem not_truthful_sample :
    ((sampleScanner 1 10 (by decide) (by decide)).scan samplePlatform (sampleTree true) =
        .ok ⟨[noteFile, noteFile], [streamRejected, streamRejected], false⟩ ∧
      ¬(sampleScanner 1 10 (by decide) (by decide)).Truthful samplePlatform (sampleTree true)
        ⟨[noteFile, noteFile], [streamRejected, streamRejected], false⟩) ∧
    ((sampleScanner 0 1 (by decide) (by decide)).scan samplePlatform (sampleTree true) =
        .ok ⟨[noteFile], [], true⟩ ∧
      ¬(sampleScanner 0 1 (by decide) (by decide)).Truthful samplePlatform (sampleTree true)
        ⟨[noteFile], [], true⟩) := by
  refine ⟨⟨by decide +kernel, fun truthful => ?_⟩, by decide +kernel, fun truthful => ?_⟩
  · exact absurd truthful.once (by decide +kernel)
  · obtain ⟨path, acceptable, unlisted⟩ := truthful.told.mp rfl
    obtain ⟨member, accepted⟩ := acceptable_iff.mp acceptable
    have candidates : (sampleScanner 0 1 (by decide) (by decide)).roots.flatMap
        ((sampleScanner 0 1 (by decide) (by decide)).rootCandidates (sampleTree true)) =
          [[home, note], [home, stream]] := by
      decide +kernel
    rw [candidates] at member
    rcases List.mem_pair.mp member with rfl | rfl
    · exact unlisted (by decide +kernel)
    · exact absurd accepted (by decide +kernel)

end OptedInRootScanner

end Ingestion

end Omnitensor
