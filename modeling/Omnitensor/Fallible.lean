/-
This file develops computations that may fail, one after another.

A sequence returns if its first part returns and the rest returns on what the first part gave. A
list is processed in order; its results correspond to its values one by one, as long as none fails.
-/

import Mathlib

namespace Omnitensor

section

variable {Failure Value Other : Type}

variable {values : List Value} {read : Value → Except Failure Other} {results : List Other}
  {result : Other} {first : Except Failure Value} {related : Value → Other → Prop}

theorem bind_eq_ok {next : Value → Except Failure Other} :
    (first >>= next) = .ok result ↔ ∃ value, first = .ok value ∧ next value = .ok result := by
  cases first <;> simp [bind, Except.bind]

@[simp] theorem ok_bind (value : Value) (next : Value → Except Failure Other) :
    (Except.ok value >>= next) = next value := rfl

theorem map_eq_ok {change : Value → Other} :
    change <$> first = .ok result ↔ ∃ value, first = .ok value ∧ change value = result := by
  cases first <;> simp [Functor.map, Except.map]

/-- A result that passes a test is one. -/
theorem exists_ok_of_any {result : Except Failure Value} {test : Value → Bool}
    (passes : result.toOption.any test = true) :
    ∃ value, result = .ok value ∧ test value = true := by
  cases result with
  | error failure => cases passes
  | ok value => exact ⟨value, rfl, passes⟩

theorem mapM_eq_ok :
    values.mapM read = .ok results ↔
      List.Forall₂ (fun value result => read value = .ok result) values results := by
  induction values generalizing results with
  | nil =>
    rw [List.mapM_nil]
    constructor
    · intro same
      cases same
      exact List.Forall₂.nil
    · intro same
      cases same
      rfl
  | cons value values inductionHypothesis =>
    rw [List.mapM_cons, bind_eq_ok]
    constructor
    · rintro ⟨result, first, rest⟩
      obtain ⟨others, more, last⟩ := bind_eq_ok.1 rest
      cases last
      exact List.Forall₂.cons first (inductionHypothesis.mp more)
    · intro all
      cases all with
      | cons first rest =>
        exact ⟨_, first, bind_eq_ok.2 ⟨_, inductionHypothesis.mpr rest, rfl⟩⟩

theorem exists_of_mem_forall₂ (all : List.Forall₂ related values results) :
    ∀ result ∈ results, ∃ value ∈ values, related value result := by
  induction all with
  | nil => exact fun _ member => by cases member
  | cons first rest inductionHypothesis =>
    intro result member
    rcases List.mem_cons.mp member with rfl | member
    · exact ⟨_, List.mem_cons_self, first⟩
    · obtain ⟨value, inside, same⟩ := inductionHypothesis result member
      exact ⟨value, List.mem_cons_of_mem _ inside, same⟩

theorem exists_of_mem_mapM (all : values.mapM read = .ok results) :
    ∀ result ∈ results, ∃ value ∈ values, read value = .ok result :=
  exists_of_mem_forall₂ (mapM_eq_ok.1 all)

theorem exists_result_of_mapM (all : values.mapM read = .ok results) :
    ∀ value ∈ values, ∃ result, read value = .ok result := by
  replace all := mapM_eq_ok.1 all
  induction all with
  | nil => exact fun _ member => by cases member
  | cons first rest inductionHypothesis =>
    exact List.forall_mem_cons.mpr ⟨⟨_, first⟩, inductionHypothesis⟩

/-- A list is processed if each of its values is, and the results are related as each of them is. -/
theorem exists_mapM_eq_ok
    (each : ∀ value ∈ values, ∃ result, read value = .ok result ∧ related value result) :
    ∃ results, values.mapM read = .ok results ∧ List.Forall₂ related values results := by
  induction values with
  | nil => exact ⟨[], rfl, List.Forall₂.nil⟩
  | cons value values inductionHypothesis =>
    obtain ⟨⟨first, one, holds⟩, others⟩ := List.forall_mem_cons.mp each
    obtain ⟨rest, all, related⟩ := inductionHypothesis others
    refine ⟨first :: rest, ?_, List.Forall₂.cons holds related⟩
    rw [List.mapM_cons, one, ok_bind, all]
    rfl

theorem length_of_mapM (all : values.mapM read = .ok results) : results.length = values.length :=
  (mapM_eq_ok.1 all).length_eq.symm

/-- The results of a list that is processed are those of its values. -/
theorem mem_iff_of_mapM (all : values.mapM read = .ok results) :
    result ∈ results ↔ ∃ value ∈ values, read value = .ok result := by
  refine ⟨exists_of_mem_mapM all result, ?_⟩
  rintro ⟨value, inside, same⟩
  have related := mapM_eq_ok.1 all
  clear all
  induction related with
  | nil => cases inside
  | cons first rest inductionHypothesis =>
    rcases List.mem_cons.mp inside with rfl | later
    · cases first.symm.trans same
      exact List.mem_cons_self
    · exact List.mem_cons_of_mem _ (inductionHypothesis later)

/-- What the results of a list tell, if each tells it of its value. -/
theorem map_eq_of_mapM {Told : Type} {told : Other → Told} {given : Value → Told}
    (all : values.mapM read = .ok results)
    (each : ∀ value result, read value = .ok result → told result = given value) :
    results.map told = values.map given := by
  have related := mapM_eq_ok.1 all
  clear all
  induction related with
  | nil => rfl
  | cons first rest inductionHypothesis =>
    rw [List.map_cons, List.map_cons, inductionHypothesis, each _ _ first]

end

end Omnitensor
