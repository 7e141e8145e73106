/-
This file develops runs of machines that take one action at a time.

A machine is a partial step function: an action is enabled in a state or it is not.
A run is a sequence of actions, each enabled in turn; a state is reachable when a
run from the start ends in it. What every enabled action preserves holds of every
state a run reaches; when an action preserves it only under a condition on the state
it is taken in, it holds of every state reached by a run that meets the condition
throughout.
-/

import Mathlib.Data.Option.Basic

namespace Omnitensor

namespace Machine

variable {State Action : Type} (step : State → Action → Option State)

/-- The state after a sequence of actions, when each is enabled in turn. -/
def run : State → List Action → Option State
  | state, [] => some state
  | state, action :: actions => (step state action).bind fun next => run next actions

/-- The states a run from the start ends in. -/
def Reachable (start state : State) : Prop := ∃ actions, run step start actions = some state

/-- A condition holds of every state and action along a run. -/
def Throughout (holds : State → Action → Prop) : State → List Action → Prop
  | _, [] => True
  | state, action :: actions =>
    holds state action ∧ ∀ next ∈ step state action, Throughout holds next actions

instance decidableThroughout (holds : State → Action → Prop)
    [decidableHolds : ∀ state action, Decidable (holds state action)] :
    (state : State) → (actions : List Action) → Decidable (Throughout step holds state actions)
  | _, [] => inferInstanceAs (Decidable True)
  | state, action :: actions =>
    have := fun next => decidableThroughout holds next actions
    inferInstanceAs (Decidable (_ ∧ ∀ next ∈ step state action, _))

variable {step}

@[simp] theorem run_nil (state : State) : run step state [] = some state := rfl

theorem run_cons (state : State) (action : Action) (actions : List Action) :
    run step state (action :: actions) = (step state action).bind fun next => run step next actions :=
  rfl

theorem run_cons_eq_some {start state : State} {action : Action} {actions : List Action} :
    run step start (action :: actions) = some state ↔
      ∃ next, step start action = some next ∧ run step next actions = some state :=
  Option.bind_eq_some_iff

/-- A run that passes a test is one. -/
theorem exists_run_of_any {start : State} {actions : List Action} {test : State → Bool}
    (passes : (run step start actions).any test = true) :
    ∃ state, run step start actions = some state ∧ test state = true := by
  cases runs : run step start actions with
  | none =>
    rw [runs] at passes
    cases passes
  | some state =>
    rw [runs] at passes
    exact ⟨state, rfl, passes⟩

theorem run_append (start : State) (first second : List Action) :
    run step start (first ++ second) =
      (run step start first).bind fun middle => run step middle second := by
  induction first generalizing start with
  | nil => rfl
  | cons action first inductionHypothesis =>
    rw [List.cons_append, run_cons, run_cons, Option.bind_assoc]
    exact Option.bind_congr fun next _ => inductionHypothesis next

theorem run_concat {start state next : State} {actions : List Action} {action : Action}
    (runs : run step start actions = some state) (steps : step state action = some next) :
    run step start (actions ++ [action]) = some next := by
  rw [run_append, runs, Option.bind_some, run_cons, steps]
  rfl

theorem Reachable.start (start : State) : Reachable step start start := ⟨[], rfl⟩

/-- What every enabled action preserves, every run preserves. -/
theorem invariant_run (invariant : State → Prop)
    (preserved : ∀ state action next, invariant state → step state action = some next →
      invariant next)
    {start state : State} {actions : List Action} (initially : invariant start)
    (runs : run step start actions = some state) : invariant state := by
  induction actions generalizing start with
  | nil => exact Option.some.inj runs ▸ initially
  | cons action actions inductionHypothesis =>
    obtain ⟨next, steps, rest⟩ := run_cons_eq_some.mp runs
    exact inductionHypothesis (preserved start action next initially steps) rest

theorem Reachable.invariant (invariant : State → Prop)
    (preserved : ∀ state action next, invariant state → step state action = some next →
      invariant next)
    {start state : State} (initially : invariant start)
    (reachable : Reachable step start state) : invariant state :=
  reachable.elim fun _ runs => invariant_run invariant preserved initially runs

/-- What every action preserves under a condition, every run that meets the condition
preserves. -/
theorem invariant_run_throughout (invariant : State → Prop) {holds : State → Action → Prop}
    (preserved : ∀ state action next, invariant state → holds state action →
      step state action = some next → invariant next)
    {start state : State} {actions : List Action} (initially : invariant start)
    (throughout : Throughout step holds start actions)
    (runs : run step start actions = some state) : invariant state := by
  induction actions generalizing start with
  | nil => exact Option.some.inj runs ▸ initially
  | cons action actions inductionHypothesis =>
    obtain ⟨next, steps, rest⟩ := run_cons_eq_some.mp runs
    exact inductionHypothesis (preserved start action next initially throughout.1 steps)
      (throughout.2 next steps) rest

/-- A condition on the actions alone holds throughout when it holds of every action. -/
theorem throughout_of_forall {accept : Action → Prop} {start : State} {actions : List Action}
    (accepted : ∀ action ∈ actions, accept action) :
    Throughout step (fun _ action => accept action) start actions := by
  induction actions generalizing start with
  | nil => exact trivial
  | cons action actions inductionHypothesis =>
    exact ⟨accepted action List.mem_cons_self, fun next _ =>
      inductionHypothesis fun other member => accepted other (List.mem_cons_of_mem _ member)⟩

/-- Two conditions that agree wherever an invariant holds, and of which the second keeps it, hold
throughout the same runs. -/
theorem throughout_congr (invariant : State → Prop) {first second : State → Action → Prop}
    (agree : ∀ state action next, invariant state → step state action = some next →
      (first state action ↔ second state action))
    (preserved : ∀ state action next, invariant state → second state action →
      step state action = some next → invariant next)
    {start state : State} {actions : List Action} (initially : invariant start)
    (runs : run step start actions = some state) :
    Throughout step first start actions ↔ Throughout step second start actions := by
  induction actions generalizing start with
  | nil => exact Iff.rfl
  | cons action actions inductionHypothesis =>
    obtain ⟨next, steps, rest⟩ := run_cons_eq_some.mp runs
    have head := agree start action next initially steps
    have tail : second start action →
        (Throughout step first next actions ↔ Throughout step second next actions) :=
      fun accepts => inductionHypothesis (preserved start action next initially accepts steps) rest
    simp only [Throughout, steps, Option.mem_def, Option.some.injEq, forall_eq']
    exact ⟨fun ⟨here, later⟩ => ⟨head.mp here, (tail (head.mp here)).mp later⟩,
      fun ⟨here, later⟩ => ⟨head.mpr here, (tail here).mpr later⟩⟩

end Machine

end Omnitensor
