/-
This file models the scan of the roots that a user opted into.

A file tree says what lies at each path, which is a list of names, and the scan sees one such tree. The roots
have been resolved. From a root the scan goes down through directories, in the order of their names, and
follows no link. Every other entry is a candidate, and it is judged by its place, its kind, its size and its
suffix before its content is read.

Resolving a link that leads back to itself raises, and so does asking for a root that may not be examined; a
scan that meets one of the two ends without a result.
-/

import Omnitensor.Dict
import Omnitensor.PosixPath
import Omnitensor.PythonJson
import Omnitensor.TreeWalks

namespace Omnitensor

namespace Ingestion

/-- The names that lead to a place from the root of the file system. -/
abbrev Path : Type := List PyString

namespace Path

/-- A path as it is shown. -/
def text (path : Path) : PyString := .scalar '/' :: [.scalar '/'].intercalate path

/-- The last name of a path. -/
def name (path : Path) : PyString := path.getLast?.getD []

end Path

/-! ### File trees -/

/-- Why a link is not resolved: the system refuses, or the link leads back to itself. -/
inductive Unresolved where
  | refused
  | loop
  deriving DecidableEq

/-- What lies at a path. -/
inductive Entry where
  /-- A directory with the names in it, unless it cannot be listed. -/
  | directory (names : Option (List PyString))
  /-- A regular file, and its bytes unless reading fails. -/
  | file (sizeBytes : Nat) (modifiedAtMs : Int) (content : Except PyString (List UInt8))
  /-- A link, where it leads to, and the error that following it raises, if any. -/
  | link (toDirectory : Bool) (resolved : Except Unresolved Path) (error : Option PyString)
  /-- A pipe, a socket or a device. -/
  | special
  /-- What cannot be examined, with the error; either nothing lies there, or it may not be seen. -/
  | missing (absent : Bool) (error : PyString)

/-- What lies at each path. A directory holds a name once, and each name leads down. -/
structure FileTree where
  entry : Path → Entry
  distinct : ∀ directory names, entry directory = .directory (some names) → names.Nodup
  descends : ∀ directory names, entry directory = .directory (some names) →
    ∀ name ∈ names, PosixPath.Descends name

namespace FileTree

variable (tree : FileTree)

/-- The names that listing a directory gives. -/
def names (directory : Path) : List PyString :=
  match tree.entry directory with
  | .directory (some names) => names
  | _ => []

/-- Whether a directory lies at a path or where the link there leads to. -/
def isDir (path : Path) : Bool :=
  match tree.entry path with
  | .directory _ => true
  | .link toDirectory _ _ => toDirectory
  | _ => false

def isLink (path : Path) : Bool :=
  match tree.entry path with
  | .link _ _ _ => true
  | _ => false

/-- The names in a directory that lead to no directory, in order. -/
def fileNames (directory : Path) : List PyString :=
  ((tree.names directory).filter fun name => !tree.isDir (directory ++ [name])).insertionSort (· ≤ ·)

/-- The names in a directory that lead to one, in order. -/
def subdirectories (directory : Path) : List PyString :=
  ((tree.names directory).filter fun name => tree.isDir (directory ++ [name])).insertionSort (· ≤ ·)

/-- The subdirectories that a walk goes down to: it follows no link. -/
def walked (directory : Path) : List PyString :=
  (tree.subdirectories directory).filter fun name => !tree.isLink (directory ++ [name])

/-- Where a path leads to with every link followed. -/
def resolve (path : Path) : Except Unresolved Path :=
  match tree.entry path with
  | .link _ resolved _ => resolved
  | _ => .ok path

end FileTree

/-! ### Results -/

/-- Why a candidate was not ingested, in terms a user can act on. -/
inductive IngestionRejection where
  | outsideRoot
  | notAFile
  | tooLarge
  | tooDeep
  | unsupportedType
  | unreadable
  deriving DecidableEq

structure IngestedFile where
  path : PyString
  sizeBytes : Nat
  modifiedAtMs : Int
  suffix : PyString
  digest : PyString
  deriving DecidableEq

structure RejectedFile where
  path : PyString
  reason : IngestionRejection
  detail : PyString
  deriving DecidableEq

/-- One bounded pass over the opted-in roots. -/
structure IngestionScan where
  files : List IngestedFile
  rejected : List RejectedFile
  truncated : Bool
  deriving DecidableEq

/-- The paths of files by their digest. -/
def pathsByDigest (files : List IngestedFile) : Dict PyString (List PyString) :=
  files.foldl
    (fun seen item => seen.set item.digest ((seen.get? item.digest).getD [] ++ [item.path])) Dict.empty

/-- Paths grouped by digest, for every digest seen more than once. -/
def IngestionScan.duplicates (scan : IngestionScan) : Dict PyString (List PyString) :=
  (pathsByDigest scan.files).filterMap fun _ paths =>
    if 1 < paths.length then some (paths.insertionSort (· ≤ ·)) else none

/-- What a scan raises. -/
inductive ScanFault where
  | symlinkLoop (path : PyString)
  | denied (error : PyString)
  deriving DecidableEq

/-! ### The scanner -/

def maxRoots : Nat := 32

/-- A path without dots or empty names. -/
structure ResolvedPath where
  names : Path
  descends : ∀ name ∈ names, PosixPath.Descends name

/-- What the scanner takes from its platform. -/
structure Platform where
  resolve : PyString → ResolvedPath
  lowerCase : PyString → PyString
  sha256 : List UInt8 → PyString

/-- A scanner that walks only explicitly opted-in roots under hard bounds. -/
structure OptedInRootScanner where
  roots : List ResolvedPath
  suffixes : List PyString
  maxFileBytes : Nat
  maxFiles : Nat
  maxDepth : Nat
  opted : roots ≠ []
  few : roots.length ≤ maxRoots
  bounds : 1 ≤ maxFileBytes ∧ 1 ≤ maxFiles ∧ 1 ≤ maxDepth

/-- Why a file has no digest. -/
inductive DigestFailure where
  | tooLarge (observedBytes : Nat)
  | failed (error : PyString)

/-- The digest of a file. Reading stops at the first byte beyond the limit. -/
def fileDigest (platform : Platform) (maxBytes : Nat) (content : Except PyString (List UInt8)) :
    Except DigestFailure PyString :=
  match content with
  | .error error => .error (.failed error)
  | .ok bytes =>
    if maxBytes < bytes.length then .error (.tooLarge (maxBytes + 1)) else .ok (platform.sha256 bytes)

namespace OptedInRootScanner

variable (platform : Platform) (scanner : OptedInRootScanner) (tree : FileTree)

/-- The candidates below a root. -/
def rootCandidates (root : ResolvedPath) : List Path :=
  if tree.isDir root.names then TreeWalk.walk tree.fileNames tree.walked scanner.maxDepth root.names else []

/-- What asking for a root raises. -/
def rootFault (root : ResolvedPath) : Option ScanFault :=
  match tree.entry root.names with
  | .missing false error => some (.denied error)
  | _ => none

/-- The candidates of all roots, and in their places what asking for a root raises. -/
def candidates : List (Except ScanFault Path) :=
  scanner.roots.flatMap fun root =>
    ((rootFault tree root).map Except.error).toList ++ (scanner.rootCandidates tree root).map Except.ok

/-- Whether a path leads below a root. -/
def withinRoots (path : Path) : Except ScanFault Bool :=
  match tree.resolve path with
  | .error .refused => .ok false
  | .error .loop => .error (.symlinkLoop path.text)
  | .ok resolved => .ok (scanner.roots.any fun root => root.names.isPrefixOf resolved)

/-- A detail that says how many bytes there are and how many may be. -/
def exceeds (sizeBytes maxFileBytes : Nat) : PyString :=
  .ofString s!"{sizeBytes} bytes exceeds {maxFileBytes}"

/-- The file that a candidate is, or why it is none. -/
def accept (path : Path) : Except ScanFault (Except RejectedFile IngestedFile) := do
  let within ← scanner.withinRoots tree path
  if !within then
    return .error ⟨path.text, .outsideRoot, .ofString "path escapes its opted-in root"⟩
  match tree.entry path with
  | .missing _ error => return .error ⟨path.text, .unreadable, error⟩
  | .link _ _ (some error) => return .error ⟨path.text, .unreadable, error⟩
  | .file sizeBytes modifiedAtMs content =>
    if scanner.maxFileBytes < sizeBytes then
      return .error ⟨path.text, .tooLarge, exceeds sizeBytes scanner.maxFileBytes⟩
    let suffix := platform.lowerCase (PosixPath.suffix path.name)
    if scanner.suffixes ≠ [] ∧ suffix ∉ scanner.suffixes then
      return .error ⟨path.text, .unsupportedType, .ofString "unsupported type: " ++ suffix⟩
    match fileDigest platform scanner.maxFileBytes content with
    | .error (.tooLarge observedBytes) =>
      return .error ⟨path.text, .tooLarge, exceeds observedBytes scanner.maxFileBytes⟩
    | .error (.failed error) => return .error ⟨path.text, .unreadable, error⟩
    | .ok digest => return .ok ⟨path.text, sizeBytes, modifiedAtMs, suffix, digest⟩
  | _ => return .error ⟨path.text, .notAFile, .ofString "not a regular file"⟩

/-- Judge candidates one after another, after the files and the rejected ones so far. -/
def judge : List (Except ScanFault Path) → List IngestedFile → List RejectedFile →
    Except ScanFault IngestionScan
  | [], files, rejected => .ok ⟨files, rejected, false⟩
  | .error fault :: _, _, _ => .error fault
  | .ok path :: others, files, rejected =>
    if scanner.maxFiles ≤ files.length then .ok ⟨files, rejected, true⟩
    else do
      match ← scanner.accept platform tree path with
      | .ok file => judge others (files ++ [file]) rejected
      | .error rejection => judge others files (rejected ++ [rejection])

/-- One bounded pass; a candidate is judged before it is opened. -/
def scan : Except ScanFault IngestionScan :=
  scanner.judge platform tree (scanner.candidates tree) [] []

end OptedInRootScanner

end Ingestion

end Omnitensor
