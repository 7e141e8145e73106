/-
This file develops the paths of POSIX systems as texts.

A path is read as the components between its slashes. From a directory it leads somewhere: an empty
component and a dot stay, two dots go up, and any other component goes down. A path of components that go
down stays below the directory that it is followed from.
-/

import Omnitensor.PythonText

namespace Omnitensor

namespace PosixPath

/-- The components between the slashes of a path. -/
def split (path : PyString) : List PyString := List.splitOn (.scalar '/') path

def dot : PyString := .ofString "."

def dotDot : PyString := .ofString ".."

/-- The components of a relative path, of which a path library drops the empty ones and dots. -/
def parts (path : PyString) : List PyString :=
  (split path).filter fun part => decide (part ≠ [] ∧ part ≠ dot)

/-- The last component of a path. -/
def name (path : PyString) : PyString := (parts path).getLast?.getD []

/-- The end of a name from its last dot, which has to be inside. -/
def suffix (name : PyString) : PyString :=
  let last := name.reverse.takeWhile fun point => decide (point ≠ .scalar '.')
  if last ≠ [] ∧ last.length + 1 < name.length then .scalar '.' :: last.reverse else []

/-- Where a component leads to from a directory, which is given by its names from the root. -/
def follow (directory : List PyString) (part : PyString) : List PyString :=
  if part = [] ∨ part = dot then directory
  else if part = dotDot then directory.dropLast
  else directory ++ [part]

/-- Where components lead to, one after another. -/
def walk (directory : List PyString) (components : List PyString) : List PyString :=
  components.foldl follow directory

/-- Where a path leads to from a directory; one that begins with a slash leads there from the root. -/
def locate (directory : List PyString) (path : PyString) : List PyString :=
  walk (if path.head? = some (.scalar '/') then [] else directory) (split path)

/-- A component that goes down by one name. -/
structure Descends (part : PyString) : Prop where
  filled : part ≠ []
  notDot : part ≠ dot
  notDotDot : part ≠ dotDot
  single : CodePoint.scalar '/' ∉ part

theorem Descends.follow_eq {part : PyString} (descends : Descends part) (directory : List PyString) :
    follow directory part = directory ++ [part] := by
  rw [follow, if_neg (not_or.mpr ⟨descends.filled, descends.notDot⟩), if_neg descends.notDotDot]

/-- Components that go down lead to what they name below a directory. -/
theorem walk_of_descends {components : List PyString} (descend : ∀ part ∈ components, Descends part)
    (directory : List PyString) : walk directory components = directory ++ components := by
  induction components generalizing directory with
  | nil => exact (List.append_nil directory).symm
  | cons part components inductionHypothesis =>
    obtain ⟨first, others⟩ := List.forall_mem_cons.mp descend
    rw [walk, List.foldl_cons, first.follow_eq]
    exact (inductionHypothesis others _).trans (List.append_assoc directory [part] components)

/-- What does not begin with a slash leads below a directory if each of its components goes down. -/
theorem locate_of_descends {path : PyString} (relative : path.head? ≠ some (.scalar '/'))
    (descend : ∀ part ∈ split path, Descends part) (directory : List PyString) :
    locate directory path = directory ++ split path := by
  rw [locate, if_neg relative, walk_of_descends descend]

theorem split_of_notMem {path : PyString} (single : CodePoint.scalar '/' ∉ path) : split path = [path] :=
  List.splitOn_eq_singleton single

theorem split_append_slash (path rest : PyString) :
    split (path ++ .scalar '/' :: rest) = split path ++ split rest :=
  List.splitOn_append_cons_self path rest

/-- What lies between slashes holds none. -/
theorem slash_notMem_of_mem_split {path part : PyString} (member : part ∈ split path) :
    CodePoint.scalar '/' ∉ part := by
  induction path generalizing part with
  | nil =>
    rw [split, List.splitOn_nil, List.mem_singleton] at member
    rw [member]
    exact List.not_mem_nil
  | cons point path inductionHypothesis =>
    rw [split, List.splitOn, List.splitOnP_cons_eq_if_modifyHead] at member
    change ∀ {part}, part ∈ List.splitOnP (· == CodePoint.scalar '/') path → _ at inductionHypothesis
    split_ifs at member with slash
    · rcases List.mem_cons.mp member with rfl | member
      · exact List.not_mem_nil
      · exact inductionHypothesis member
    · cases parts : List.splitOnP (· == CodePoint.scalar '/') path with
      | nil => exact absurd parts (List.splitOnP_ne_nil _ _)
      | cons first others =>
        rw [parts] at member inductionHypothesis
        rcases List.mem_cons.mp member with rfl | member
        · rw [List.mem_cons, not_or]
          exact ⟨fun same => slash (same ▸ beq_self_eq_true _), inductionHypothesis List.mem_cons_self⟩
        · exact inductionHypothesis (List.mem_cons_of_mem _ member)

/-- A path of which a library drops no component holds neither an empty one nor a dot. -/
theorem split_eq_parts {path : PyString} (same : (split path).length = (parts path).length) :
    split path = parts path :=
  (List.filter_sublist.eq_of_length same.symm).symm

end PosixPath

end Omnitensor
