/-
This file develops chains of edges in a graph in which every vertex is left by one edge at most.

The chain that begins at a vertex is followed until it comes to a goal. With finitely many edges it arrives
there, ends at a vertex that no edge leaves, or comes back to a vertex that it left; and it does only one of
the three. A chain that ends never uses an edge twice.
-/

import Mathlib.Data.List.Nodup
import Mathlib.Data.List.Perm.Subperm
import Mathlib.Tactic.Common

namespace Omnitensor

/-- A graph of which every vertex has one edge at most. -/
structure FunctionalGraph (Vertex Edge : Type) where
  edge : Vertex → Option Edge
  source : Edge → Vertex
  target : Edge → Vertex
  leaves : ∀ {vertex next}, edge vertex = some next → source next = vertex

namespace FunctionalGraph

variable {Vertex Edge : Type} (graph : FunctionalGraph Vertex Edge) (goal : Vertex)

/-- Edges one after another from a vertex to another, none of which leaves the goal. -/
inductive Chain : Vertex → List Edge → Vertex → Prop
  | nil (vertex : Vertex) : Chain vertex [] vertex
  | cons {vertex stop : Vertex} {next : Edge} {edges : List Edge} (away : vertex ≠ goal)
    (found : graph.edge vertex = some next) (rest : Chain (graph.target next) edges stop) :
    Chain vertex (next :: edges) stop

/-- The chain stops at a vertex that is the goal, or that no edge leaves. -/
def Stops (start : Vertex) (edges : List Edge) (stop : Vertex) : Prop :=
  graph.Chain goal start edges stop ∧ (stop = goal ∨ graph.edge stop = none)

/-- The chain ends short of the goal. -/
def DeadEnd (start : Vertex) (edges : List Edge) (stop : Vertex) : Prop :=
  graph.Chain goal start edges stop ∧ stop ≠ goal ∧ graph.edge stop = none

/-- The chain comes back to a vertex that it left. -/
def Returns (start : Vertex) (edges : List Edge) (stop : Vertex) : Prop :=
  graph.Chain goal start edges stop ∧ stop ≠ goal ∧ stop ∈ edges.map graph.source

variable {graph goal} {start middle stop : Vertex} {edges others : List Edge}

theorem Chain.append (first : graph.Chain goal start edges middle)
    (second : graph.Chain goal middle others stop) : graph.Chain goal start (edges ++ others) stop := by
  induction first with
  | nil _ => exact second
  | cons away found _ inductionHypothesis => exact .cons away found (inductionHypothesis second)

/-- A chain that stops goes on with each other chain from where it starts. -/
theorem Stops.exists_append (stops : graph.Stops goal start edges stop)
    (chain : graph.Chain goal start others middle) :
    ∃ rest, edges = others ++ rest ∧ graph.Stops goal middle rest stop := by
  induction chain generalizing edges with
  | nil _ => exact ⟨edges, rfl, stops⟩
  | cons away found _ inductionHypothesis =>
    obtain ⟨own, ends⟩ := stops
    cases own with
    | nil _ => exact (ends.elim (absurd · away) fun none => by rw [found] at none; cases none)
    | cons _ known rest =>
      cases found.symm.trans known
      obtain ⟨more, rfl, stops⟩ := inductionHypothesis ⟨rest, ends⟩
      exact ⟨more, rfl, stops⟩

/-- A chain stops at one place. -/
theorem Stops.unique {other : Vertex} (stops : graph.Stops goal start edges stop)
    (again : graph.Stops goal start others other) : edges = others ∧ stop = other := by
  obtain ⟨rest, same, ends⟩ := stops.exists_append again.1
  cases ends.1 with
  | nil _ => exact ⟨same.trans (List.append_nil others), rfl⟩
  | cons away found _ =>
    exact (again.2.elim (absurd · away) fun none => by rw [found] at none; cases none)

/-- What is left of a chain from a vertex that it leaves. -/
theorem Chain.exists_of_mem_source (chain : graph.Chain goal start edges stop) {vertex : Vertex}
    (member : vertex ∈ edges.map graph.source) :
    ∃ before after, edges = before ++ after ∧ after ≠ [] ∧ graph.Chain goal vertex after stop := by
  induction chain with
  | nil _ => exact absurd member List.not_mem_nil
  | @cons start _ next edges away found rest inductionHypothesis =>
    rcases List.mem_cons.mp member with rfl | later
    · rw [graph.leaves found]
      exact ⟨[], next :: edges, rfl, List.cons_ne_nil _ _, .cons away found rest⟩
    · obtain ⟨before, after, rfl, filled, chain⟩ := inductionHypothesis later
      exact ⟨next :: before, after, rfl, filled, chain⟩

/-- A chain that stops leaves no vertex twice, and does not leave the last one. -/
theorem Stops.nodup (stops : graph.Stops goal start edges stop) :
    (edges.map graph.source).Nodup ∧ stop ∉ edges.map graph.source := by
  obtain ⟨chain, ends⟩ := stops
  induction chain with
  | nil _ => exact ⟨List.nodup_nil, List.not_mem_nil⟩
  | @cons start stop next edges away found rest inductionHypothesis =>
    obtain ⟨different, last⟩ := inductionHypothesis ends
    rw [List.map_cons, graph.leaves found, List.nodup_cons, List.mem_cons, not_or]
    refine ⟨⟨fun again => ?_, different⟩, ?_, last⟩
    · obtain ⟨before, after, same, _, chain⟩ := rest.exists_of_mem_source again
      have short := (Stops.unique ⟨chain, ends⟩ ⟨.cons away found rest, ends⟩).1
      have lengths := congrArg List.length same
      rw [short, List.length_append, List.length_cons] at lengths
      omega
    · rintro rfl
      exact (ends.elim (absurd · away) fun none => by rw [found] at none; cases none)

/-- A chain that stops does not come back. -/
theorem Stops.not_returns (stops : graph.Stops goal start edges stop) {other : Vertex} :
    ¬ graph.Returns goal start others other := by
  rintro ⟨chain, away, member⟩
  obtain ⟨rest, rfl, ends⟩ := stops.exists_append chain
  obtain ⟨different, last⟩ := stops.nodup
  rw [List.map_append] at different last
  cases ends.1 with
  | nil _ => exact last (List.mem_append_left _ member)
  | cons _ found _ =>
    refine (List.nodup_append.mp different).2.2 _ member _ (List.mem_cons_self) ?_
    exact (graph.leaves found).symm

/-! ### Finitely many edges -/

theorem Chain.subset (chain : graph.Chain goal start edges stop) {all : List Edge}
    (finite : ∀ {vertex next}, graph.edge vertex = some next → next ∈ all) : edges ⊆ all := by
  induction chain with
  | nil _ => exact List.nil_subset all
  | cons _ found _ inductionHypothesis => exact List.cons_subset.mpr ⟨finite found, inductionHypothesis⟩

/-- A chain that leaves no vertex twice has no more edges than there are. -/
theorem Chain.length_le (chain : graph.Chain goal start edges stop) {all : List Edge}
    (finite : ∀ {vertex next}, graph.edge vertex = some next → next ∈ all)
    (different : (edges.map graph.source).Nodup) : edges.length ≤ all.length :=
  ((List.Nodup.of_map _ different).subperm (chain.subset finite)).length_le

variable (graph goal) in
/-- A chain stops or comes back. -/
theorem stops_or_returns {all : List Edge}
    (finite : ∀ {vertex next}, graph.edge vertex = some next → next ∈ all) (start : Vertex) :
    ∃ edges stop, graph.Chain goal start edges stop ∧ (edges.map graph.source).Nodup ∧
      (graph.Stops goal start edges stop ∨ graph.Returns goal start edges stop) := by
  by_contra none
  -- otherwise there are chains of every length that leave no vertex twice
  have long : ∀ length, ∃ edges stop, graph.Chain goal start edges stop ∧
      (edges.map graph.source).Nodup ∧ edges.length = length := by
    intro length
    induction length with
    | zero => exact ⟨[], start, .nil start, List.nodup_nil, rfl⟩
    | succ length inductionHypothesis =>
      obtain ⟨edges, stop, chain, different, size⟩ := inductionHypothesis
      have open_end : ¬ (graph.Stops goal start edges stop ∨ graph.Returns goal start edges stop) :=
        fun either => none ⟨edges, stop, chain, different, either⟩
      rw [not_or, Stops, Returns, not_and, not_or] at open_end
      obtain ⟨away, left⟩ := open_end.1 chain
      obtain ⟨next, found⟩ := Option.ne_none_iff_exists'.mp left
      refine ⟨edges ++ [next], graph.target next, chain.append (.cons away found (.nil _)), ?_, ?_⟩
      · rw [List.map_append, List.map_singleton, graph.leaves found, List.nodup_append]
        refine ⟨different, List.nodup_singleton stop, fun vertex member other last same => ?_⟩
        rw [List.mem_singleton.mp last] at same
        exact open_end.2 ⟨chain, away, same ▸ member⟩
      · rw [List.length_append, size, List.length_singleton]
  obtain ⟨edges, stop, chain, different, size⟩ := long (all.length + 1)
  have few := chain.length_le finite different
  omega

end FunctionalGraph

end Omnitensor
