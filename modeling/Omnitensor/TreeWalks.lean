/-
This file develops walks through trees that go down a bounded number of levels.

A directory is given by the names that lead to it. A walk gives the leaves of a directory and then, one branch
after another, what it gives below each of them. It reaches what a descent along branches reaches within its
levels, and everything once.
-/

import Mathlib.Data.List.Nodup
import Mathlib.Data.List.Flatten

namespace Omnitensor

namespace TreeWalk

variable {Name : Type}

/-- A descent from a directory, along the names of branches. -/
inductive Descent (Branch : List Name → Name → Prop) : List Name → List Name → Prop
  | stay (directory : List Name) : Descent Branch directory []
  | down {directory : List Name} {name : Name} {names : List Name} (branch : Branch directory name)
      (further : Descent Branch (directory ++ [name]) names) : Descent Branch directory (name :: names)

variable (leaves branches : List Name → List Name)

/-- What lies at a directory under one of its names. -/
def below (directory : List Name) (names : List Name) : List (List Name) :=
  names.map fun name => directory ++ [name]

/-- The paths to the leaves of a directory, and below each of its branches as many levels down. -/
def walk : Nat → List Name → List (List Name)
  | 0, directory => below directory (leaves directory)
  | levels + 1, directory => below directory (leaves directory) ++
      (branches directory).flatMap fun name => walk levels (directory ++ [name])

variable {leaves branches}

variable {directory names path : List Name}

theorem mem_below : path ∈ below directory names ↔ ∃ name ∈ names, path = directory ++ [name] := by
  simp only [below, List.mem_map, eq_comm]

/-- A walk gives the leaves that a descent reaches within its levels. -/
theorem mem_walk_iff {levels : Nat} :
    path ∈ walk leaves branches levels directory ↔
      ∃ names, Descent (fun directory name => name ∈ branches directory) directory names ∧
        names.length ≤ levels ∧ ∃ name ∈ leaves (directory ++ names), path = directory ++ names ++ [name] := by
  induction levels generalizing directory with
  | zero =>
    rw [walk, mem_below]
    constructor
    · rintro ⟨name, leaf, rfl⟩
      refine ⟨[], .stay directory, Nat.le_refl 0, name, ?_, ?_⟩
      · rwa [List.append_nil]
      · rw [List.append_nil]
    · rintro ⟨names, _, short, name, leaf, rfl⟩
      rw [List.length_eq_zero_iff.mp (Nat.le_zero.mp short), List.append_nil] at leaf ⊢
      exact ⟨name, leaf, rfl⟩
  | succ levels inductionHypothesis =>
    rw [walk, List.mem_append, mem_below, List.mem_flatMap]
    constructor
    · rintro (⟨name, leaf, rfl⟩ | ⟨branch, among, further⟩)
      · refine ⟨[], .stay directory, Nat.zero_le _, name, ?_, ?_⟩
        · rwa [List.append_nil]
        · rw [List.append_nil]
      · obtain ⟨names, descent, short, name, leaf, rfl⟩ := inductionHypothesis.mp further
        rw [← List.append_cons] at leaf ⊢
        exact ⟨branch :: names, .down among descent, Nat.succ_le_succ short, name, leaf, rfl⟩
    · rintro ⟨names, descent, short, name, leaf, rfl⟩
      cases descent with
      | stay =>
        rw [List.append_nil] at leaf ⊢
        exact .inl ⟨name, leaf, rfl⟩
      | @down _ branch names among further =>
        refine .inr ⟨branch, among, inductionHypothesis.mpr ⟨names, further, Nat.le_of_succ_le_succ short, ?_⟩⟩
        rw [List.append_cons directory branch names] at leaf ⊢
        exact ⟨name, leaf, rfl⟩

/-- What a walk gives lies below the directory, and a level further down below a branch. -/
theorem exists_of_mem_walk {levels : Nat} (member : path ∈ walk leaves branches levels directory) :
    ∃ names name, path = directory ++ (names ++ [name]) := by
  obtain ⟨names, _, _, name, _, rfl⟩ := mem_walk_iff.mp member
  exact ⟨names, name, List.append_assoc _ _ _⟩

theorem nodup_below (nodup : names.Nodup) : (below directory names).Nodup :=
  nodup.map fun _ _ same => List.head_eq_of_cons_eq (List.append_cancel_left same)

/-- Two branches of a directory have nothing in common. -/
theorem disjoint_walk {first second : Name} (different : first ≠ second) (levels : Nat)
    (directory : List Name) :
    List.Disjoint (walk leaves branches levels (directory ++ [first]))
      (walk leaves branches levels (directory ++ [second])) := by
  intro path below other
  obtain ⟨names, name, rfl⟩ := exists_of_mem_walk below
  obtain ⟨others, last, same⟩ := exists_of_mem_walk other
  rw [← List.append_cons, ← List.append_cons] at same
  exact different (List.head_eq_of_cons_eq (List.append_cancel_left same))

/-- A walk through a tree in which no directory repeats a name gives no path twice. -/
theorem nodup_walk (leavesOnce : ∀ directory, (leaves directory).Nodup)
    (branchesOnce : ∀ directory, (branches directory).Nodup) (levels : Nat) (directory : List Name) :
    (walk leaves branches levels directory).Nodup := by
  induction levels generalizing directory with
  | zero => exact nodup_below (leavesOnce directory)
  | succ levels inductionHypothesis =>
    refine List.nodup_append.mpr ⟨nodup_below (leavesOnce directory), ?_, ?_⟩
    · refine List.nodup_flatMap.mpr ⟨fun name _ => inductionHypothesis _, ?_⟩
      exact (branchesOnce directory).imp fun different => disjoint_walk different levels directory
    · -- A leaf of the directory lies one level down, and what is below a branch lies deeper.
      rintro path leaf other deeper rfl
      obtain ⟨name, _, rfl⟩ := mem_below.mp leaf
      obtain ⟨branch, _, deeper⟩ := List.mem_flatMap.mp deeper
      obtain ⟨names, last, same⟩ := exists_of_mem_walk deeper
      have lengths := congrArg List.length same
      simp only [List.length_append, List.length_singleton] at lengths
      omega

end TreeWalk

end Omnitensor
