/-
This file says what a scan of opted-in roots gives.

What the scanner would accept is told from the file tree alone: the regular files within its bounds that a
descent through directories reaches. These are what it accepts of the candidates. A scan that returns gives the
first of them along the walks of the roots, and it is truncated when a candidate follows as many as may be.
-/

import Omnitensor.AcceptedPrefixes
import Omnitensor.Fallible
import Omnitensor.RootScanning

namespace Omnitensor

namespace Ingestion

/-! ### Paths as texts -/

theorem Path.split_text {path : Path} (filled : path ≠ []) (descend : ∀ name ∈ path, PosixPath.Descends name) :
    PosixPath.split path.text = [] :: path := by
  have names : PosixPath.split ([CodePoint.scalar '/'].intercalate path) = path :=
    List.splitOn_intercalate _ (fun name member => (descend name member).single) filled
  have text : path.text = [] ++ CodePoint.scalar '/' :: [CodePoint.scalar '/'].intercalate path := rfl
  rw [text, PosixPath.split_append_slash, names]
  rfl

/-- Paths that are shown alike are the same. -/
theorem Path.text_injective {first second : Path} (filled : first ≠ []) (others : second ≠ [])
    (descend : ∀ name ∈ first, PosixPath.Descends name)
    (descendOthers : ∀ name ∈ second, PosixPath.Descends name) (same : first.text = second.text) :
    first = second := by
  have splits := congrArg PosixPath.split same
  rw [split_text filled descend, split_text others descendOthers] at splits
  exact (List.cons_eq_cons.mp splits).2

/-! ### What a directory holds -/

namespace FileTree

variable {tree : FileTree}

variable {directory : Path} {name : PyString}

theorem descends_of_mem_names (member : name ∈ tree.names directory) : PosixPath.Descends name := by
  rw [names] at member
  split at member
  · rename_i names listed
    exact tree.descends directory names listed name member
  · exact absurd member List.not_mem_nil

theorem nodup_names (tree : FileTree) (directory : Path) : (tree.names directory).Nodup := by
  rw [names]
  split
  · rename_i names listed
    exact tree.distinct directory names listed
  · exact List.nodup_nil

theorem nodup_fileNames (tree : FileTree) (directory : Path) : (tree.fileNames directory).Nodup :=
  (List.perm_insertionSort _ _).nodup_iff.mpr ((tree.nodup_names directory).filter _)

theorem nodup_walked (tree : FileTree) (directory : Path) : (tree.walked directory).Nodup :=
  ((List.perm_insertionSort _ _).nodup_iff.mpr ((tree.nodup_names directory).filter _)).filter _

theorem mem_fileNames :
    name ∈ tree.fileNames directory ↔
      name ∈ tree.names directory ∧ tree.isDir (directory ++ [name]) = false := by
  rw [fileNames, List.mem_insertionSort, List.mem_filter, Bool.not_eq_true']

/-- A directory in a directory. -/
def Down (tree : FileTree) (directory : Path) (name : PyString) : Prop :=
  name ∈ tree.names directory ∧ ∃ names, tree.entry (directory ++ [name]) = .directory names

theorem mem_walked : name ∈ tree.walked directory ↔ tree.Down directory name := by
  rw [walked, subdirectories, List.mem_filter, List.mem_insertionSort, List.mem_filter, Down, and_assoc]
  refine and_congr_right fun _ => ?_
  rw [isDir, isLink]
  cases tree.entry (directory ++ [name]) <;> simp

theorem descends_of_descent {names : List PyString}
    (descent : TreeWalk.Descent tree.Down directory names) :
    ∀ name ∈ names, PosixPath.Descends name := by
  induction descent with
  | stay => exact fun _ member => absurd member List.not_mem_nil
  | down branch _ inductionHypothesis =>
    exact List.forall_mem_cons.mpr ⟨descends_of_mem_names branch.1, inductionHypothesis⟩

end FileTree

namespace OptedInRootScanner

variable (platform : Platform) (scanner : OptedInRootScanner) (tree : FileTree)

/-! ### What the scanner would accept -/

/-- A path that lies below a root, through directories alone and no deeper than the bound. -/
def Reaches (path : Path) : Prop :=
  ∃ root ∈ scanner.roots, ∃ directories name, TreeWalk.Descent tree.Down root.names directories ∧
    directories.length ≤ scanner.maxDepth ∧ name ∈ tree.names (root.names ++ directories) ∧
      path = root.names ++ directories ++ [name]

/-- A regular file within the bounds of size and type, and what the scanner says of it. -/
structure Describes (path : Path) (file : IngestedFile) : Prop where
  shown : file.path = path.text
  regular : ∃ bytes, tree.entry path = .file file.sizeBytes file.modifiedAtMs (.ok bytes) ∧
    bytes.length ≤ scanner.maxFileBytes ∧ file.digest = platform.sha256 bytes
  size : file.sizeBytes ≤ scanner.maxFileBytes
  suffix : file.suffix = platform.lowerCase (PosixPath.suffix path.name)
  type : scanner.suffixes = [] ∨ file.suffix ∈ scanner.suffixes

/-- A file that the scanner would accept. -/
def Acceptable (path : Path) : Prop :=
  scanner.Reaches tree path ∧ ∃ file, scanner.Describes platform tree path file

/-- The file that a candidate is accepted as. -/
def accepted (path : Path) : Option IngestedFile :=
  match scanner.accept platform tree path with
  | .ok (.ok file) => some file
  | _ => none

variable {platform scanner tree}

variable {path : Path} {file : IngestedFile} {result : IngestionScan}

theorem accepted_eq_some_iff :
    scanner.accepted platform tree path = some file ↔
      scanner.accept platform tree path = .ok (.ok file) := by
  rw [accepted]
  split <;> simp_all

/-! ### Candidates -/

theorem isDir_of_mem_names {directory : Path} {name : PyString} (member : name ∈ tree.names directory) :
    tree.isDir directory = true := by
  rw [FileTree.names] at member
  split at member
  · rename_i names listed
    rw [FileTree.isDir, listed]
  · exact absurd member List.not_mem_nil

theorem mem_rootCandidates {root : ResolvedPath} :
    path ∈ scanner.rootCandidates tree root ↔
      ∃ directories, TreeWalk.Descent tree.Down root.names directories ∧
        directories.length ≤ scanner.maxDepth ∧ ∃ name ∈ tree.names (root.names ++ directories),
          tree.isDir path = false ∧ path = root.names ++ directories ++ [name] := by
  have walked : (fun directory name => name ∈ tree.walked directory) = tree.Down :=
    funext fun directory => funext fun name => propext FileTree.mem_walked
  have below : path ∈ TreeWalk.walk tree.fileNames tree.walked scanner.maxDepth root.names ↔ _ :=
    TreeWalk.mem_walk_iff
  rw [walked] at below
  rw [rootCandidates]
  constructor
  · intro member
    split at member
    · obtain ⟨directories, descent, shallow, name, leaf, rfl⟩ := below.mp member
      obtain ⟨listed, plain⟩ := FileTree.mem_fileNames.mp leaf
      exact ⟨directories, descent, shallow, name, listed, plain, rfl⟩
    · exact absurd member List.not_mem_nil
  · rintro ⟨directories, descent, shallow, name, listed, plain, rfl⟩
    have directory : tree.isDir root.names = true := by
      cases descent with
      | stay =>
        rw [List.append_nil] at listed
        exact isDir_of_mem_names listed
      | down branch _ => exact isDir_of_mem_names branch.1
    rw [if_pos directory]
    exact below.mpr ⟨directories, descent, shallow, name, FileTree.mem_fileNames.mpr ⟨listed, plain⟩, rfl⟩

/-- The walk from a root gives no path twice. -/
theorem nodup_rootCandidates (scanner : OptedInRootScanner) (tree : FileTree) (root : ResolvedPath) :
    (scanner.rootCandidates tree root).Nodup := by
  rw [rootCandidates]
  split
  · exact TreeWalk.nodup_walk tree.nodup_fileNames tree.nodup_walked _ _
  · exact List.nodup_nil

/-- The names of a candidate lead down, and there is one. -/
theorem descends_of_mem_rootCandidates {root : ResolvedPath}
    (member : path ∈ scanner.rootCandidates tree root) :
    path ≠ [] ∧ ∀ name ∈ path, PosixPath.Descends name := by
  obtain ⟨directories, descent, _, name, listed, _, rfl⟩ := mem_rootCandidates.mp member
  refine ⟨List.append_ne_nil_of_right_ne_nil _ (List.cons_ne_nil _ _), ?_⟩
  simp only [List.forall_mem_append, List.forall_mem_singleton]
  exact ⟨⟨root.descends, FileTree.descends_of_descent descent⟩, FileTree.descends_of_mem_names listed⟩

/-! ### Judging a candidate -/

theorem fileDigest_eq_ok_iff {maxBytes : Nat} {content : Except PyString (List UInt8)} {digest : PyString} :
    fileDigest platform maxBytes content = .ok digest ↔
      ∃ bytes, content = .ok bytes ∧ bytes.length ≤ maxBytes ∧ digest = platform.sha256 bytes := by
  cases content with
  | error error => simp [fileDigest]
  | ok bytes =>
    rw [fileDigest]
    split_ifs with large
    · simp only [Except.ok.injEq, exists_eq_left', false_iff, not_and]
      exact fun small => absurd small (Nat.not_le_of_lt large)
    · simp only [Except.ok.injEq, exists_eq_left', eq_comm, Nat.le_of_not_lt large, true_and]

/-- What is accepted is a regular file within the bounds. -/
theorem describes_of_accept (accepts : scanner.accept platform tree path = .ok (.ok file)) :
    scanner.Describes platform tree path file := by
  rw [accept] at accepts
  obtain ⟨within, _, rest⟩ := bind_eq_ok.mp accepts
  cases within with
  | false => cases rest
  | true =>
    cases entry : tree.entry path with
    | file sizeBytes modifiedAtMs content =>
      simp only [entry, Bool.not_true, Bool.false_eq_true, if_false] at rest
      split_ifs at rest with large typed
      · cases rest
      · cases rest
      · cases digest : fileDigest platform scanner.maxFileBytes content with
        | error failure =>
          rw [digest] at rest
          cases failure <;> cases rest
        | ok text =>
          rw [digest] at rest
          cases rest
          obtain ⟨bytes, rfl, small, rfl⟩ := fileDigest_eq_ok_iff.mp digest
          exact {
            shown := rfl
            regular := ⟨bytes, entry, small, rfl⟩
            size := Nat.le_of_not_lt large
            suffix := rfl
            type := (not_and_or.mp typed).imp not_not.mp not_not.mp }
    | directory names =>
      rw [entry] at rest
      cases rest
    | link toDirectory resolved error =>
      rw [entry] at rest
      cases error <;> cases rest
    | special =>
      rw [entry] at rest
      cases rest
    | missing absent error =>
      rw [entry] at rest
      cases rest

/-- A regular file within the bounds is accepted below a root. -/
theorem accept_of_describes (reached : scanner.Reaches tree path)
    (describes : scanner.Describes platform tree path file) :
    scanner.accept platform tree path = .ok (.ok file) := by
  obtain ⟨root, member, directories, name, _, _, _, same⟩ := reached
  obtain ⟨bytes, entry, small, digest⟩ := describes.regular
  have resolves : tree.resolve path = .ok path := by rw [FileTree.resolve, entry]
  have within : scanner.withinRoots tree path = .ok true := by
    rw [withinRoots, resolves]
    refine congrArg Except.ok (List.any_eq_true.mpr ⟨root, member, List.isPrefixOf_iff_prefix.mpr ?_⟩)
    rw [same, List.append_assoc]
    exact List.prefix_append _ _
  have typed : ¬(scanner.suffixes ≠ [] ∧ file.suffix ∉ scanner.suffixes) :=
    not_and_or.mpr (describes.type.imp not_not.mpr not_not.mpr)
  have digested : fileDigest platform scanner.maxFileBytes (.ok bytes) = .ok file.digest :=
    fileDigest_eq_ok_iff.mpr ⟨bytes, rfl, small, digest⟩
  rw [accept, within, ok_bind, entry]
  simp only [Bool.not_true, Bool.false_eq_true, if_false, if_neg (Nat.not_lt.mpr describes.size), digested,
    ← describes.suffix, ← describes.shown]
  exact if_neg typed

/-- What the scanner would accept are the candidates that it accepts. -/
theorem acceptable_iff :
    scanner.Acceptable platform tree path ↔
      path ∈ scanner.roots.flatMap (scanner.rootCandidates tree) ∧
        (scanner.accepted platform tree path).isSome = true := by
  rw [List.mem_flatMap, Option.isSome_iff_exists]
  constructor
  · rintro ⟨reached, file, describes⟩
    refine ⟨?_, file, accepted_eq_some_iff.mpr (accept_of_describes reached describes)⟩
    obtain ⟨bytes, entry, _⟩ := describes.regular
    have plain : tree.isDir path = false := by rw [FileTree.isDir, entry]
    obtain ⟨root, member, directories, name, descent, shallow, listed, rfl⟩ := reached
    exact ⟨root, member, mem_rootCandidates.mpr ⟨directories, descent, shallow, name, listed, plain, rfl⟩⟩
  · rintro ⟨⟨root, member, candidate⟩, file, accepts⟩
    obtain ⟨directories, descent, shallow, name, listed, _, rfl⟩ := mem_rootCandidates.mp candidate
    exact ⟨⟨root, member, directories, name, descent, shallow, listed, rfl⟩, file,
      describes_of_accept (accepted_eq_some_iff.mp accepts)⟩

/-! ### A scan as a whole -/

/-- The paths among candidates. -/
def paths (candidates : List (Except ScanFault Path)) : List Path :=
  candidates.filterMap Except.toOption

theorem paths_candidates (scanner : OptedInRootScanner) (tree : FileTree) :
    paths (scanner.candidates tree) = scanner.roots.flatMap (scanner.rootCandidates tree) := by
  have fault (root : ResolvedPath) : (((rootFault tree root).map Except.error).toList.filterMap
      (Except.toOption : Except ScanFault Path → Option Path)) = [] := by
    cases rootFault tree root <;> rfl
  have every (below : List Path) : (below.map Except.ok).filterMap
      (Except.toOption : Except ScanFault Path → Option Path) = below := by
    rw [List.filterMap_map]
    exact List.filterMap_some
  rw [paths, candidates, List.filterMap_flatMap]
  refine congrArg (scanner.roots.flatMap ·) (funext fun root => ?_)
  rw [List.filterMap_append, fault, every, List.nil_append]

/-- Whether the scanner accepts a path. -/
def accepts (platform : Platform) (scanner : OptedInRootScanner) (tree : FileTree) (path : Path) : Bool :=
  (scanner.accepted platform tree path).isSome

/-- The files that paths are accepted as. -/
def acceptedFiles (platform : Platform) (scanner : OptedInRootScanner) (tree : FileTree) (paths : List Path) :
    List IngestedFile :=
  paths.filterMap (scanner.accepted platform tree)

/-- Judging candidates adds the first files among them that still fit. The result is truncated if and only if a
candidate follows as many files as still fit. -/
theorem judge_eq_ok {candidates : List (Except ScanFault Path)} {files : List IngestedFile}
    {rejected : List RejectedFile} {room : Nat} (fits : files.length + room = scanner.maxFiles)
    (returned : scanner.judge platform tree candidates files rejected = .ok result) :
    result.files = files ++ (scanner.acceptedFiles platform tree (paths candidates)).take room ∧
      (result.truncated = true ↔
        AcceptedPrefix.Exceeds (scanner.accepts platform tree) room (paths candidates)) := by
  induction candidates generalizing files rejected room with
  | nil =>
    cases returned
    refine ⟨?_, fun truncated => (Bool.false_ne_true truncated).elim, ?_⟩
    · rw [paths, List.filterMap_nil, acceptedFiles, List.filterMap_nil, List.take_nil, List.append_nil]
    · exact fun exceeds => absurd exceeds AcceptedPrefix.not_exceeds_nil
  | cons candidate candidates inductionHypothesis =>
    cases candidate with
    | error fault => cases returned
    | ok path =>
      have first : paths (.ok path :: candidates) = path :: paths candidates := rfl
      rw [judge] at returned
      rw [first]
      split_ifs at returned with full
      · cases returned
        have none : room = 0 := by omega
        subst none
        rw [List.take_zero, List.append_nil]
        exact ⟨rfl, fun _ => AcceptedPrefix.exceeds_zero path _, fun _ => rfl⟩
      · obtain ⟨verdict, judged, rest⟩ := bind_eq_ok.mp returned
        obtain ⟨left, rfl⟩ := Nat.exists_eq_add_one_of_ne_zero (show room ≠ 0 by omega)
        cases verdict with
        | ok file =>
          have accepted : scanner.accepted platform tree path = some file := accepted_eq_some_iff.mpr judged
          have more : (files ++ [file]).length + left = scanner.maxFiles := by
            rw [List.length_append, List.length_singleton]
            omega
          obtain ⟨added, truncated⟩ := inductionHypothesis more rest
          rw [AcceptedPrefix.exceeds_cons, if_pos (by rw [accepts, accepted]; rfl), acceptedFiles,
            List.filterMap_cons_some accepted, List.take_succ_cons, List.append_cons]
          exact ⟨added, truncated⟩
        | error rejection =>
          have refused : scanner.accepted platform tree path = none := by rw [accepted, judged]
          obtain ⟨added, truncated⟩ := inductionHypothesis fits rest
          rw [AcceptedPrefix.exceeds_cons, if_neg (by rw [accepts, refused]; exact Bool.false_ne_true),
            acceptedFiles, List.filterMap_cons_none refused]
          exact ⟨added, truncated⟩

theorem scan_eq_ok (returned : scanner.scan platform tree = .ok result) :
    result.files = (scanner.acceptedFiles platform tree
        (scanner.roots.flatMap (scanner.rootCandidates tree))).take scanner.maxFiles ∧
      (result.truncated = true ↔ AcceptedPrefix.Exceeds (scanner.accepts platform tree) scanner.maxFiles
        (scanner.roots.flatMap (scanner.rootCandidates tree))) := by
  have judged := judge_eq_ok (Nat.zero_add scanner.maxFiles) returned
  rwa [paths_candidates, List.nil_append] at judged

/-! ### What a scan promises -/

theorem acceptedFiles_map_path (paths : List Path) :
    (scanner.acceptedFiles platform tree paths).map IngestedFile.path =
      (paths.filter (scanner.accepts platform tree)).map Path.text := by
  induction paths with
  | nil => rfl
  | cons path paths inductionHypothesis =>
    cases found : scanner.accepted platform tree path with
    | none =>
      have refused : ¬scanner.accepts platform tree path = true := by
        rw [accepts, found]
        exact Bool.false_ne_true
      rw [List.filter_cons_of_neg refused, ← inductionHypothesis, acceptedFiles, List.filterMap_cons_none found]
      rfl
    | some file =>
      have taken : scanner.accepts platform tree path = true := by rw [accepts, found]; rfl
      have shown := (describes_of_accept (accepted_eq_some_iff.mp found)).shown
      rw [List.filter_cons_of_pos taken, List.map_cons, ← inductionHypothesis, acceptedFiles,
        List.filterMap_cons_some found, List.map_cons, shown]
      rfl

theorem length_acceptedFiles (paths : List Path) :
    (scanner.acceptedFiles platform tree paths).length =
      (paths.filter (scanner.accepts platform tree)).length := by
  have lengths := congrArg List.length (@acceptedFiles_map_path platform scanner tree paths)
  rwa [List.length_map, List.length_map] at lengths

end OptedInRootScanner

end Ingestion

end Omnitensor
