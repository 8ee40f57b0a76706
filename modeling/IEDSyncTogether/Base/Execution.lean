import Mathlib.Order.Basic

/-!
# Executions of an open system

A system is a relation between states, labelled by the event that is observed;
every choice of the environment and every visible outcome is part of the event.
A run keeps its events, so a history variable is a function of the run and not
a field of the state.
-/

namespace IEDSyncTogether.Base

/-- Initial states and labelled transitions. -/
structure TransitionSystem (State Event : Type) where
  Initial : State → Prop
  Step : State → Event → State → Prop

namespace TransitionSystem

variable {State Event : Type}

/-- A finite execution with its events in order. -/
inductive Runs (system : TransitionSystem State Event) : List Event → State → Prop where
  | initial {state} (valid : system.Initial state) : Runs system [] state
  | step {events state event next} (prior : Runs system events state)
      (transition : system.Step state event next) : Runs system (events ++ [event]) next

/-- Only the steps whose state and event are allowed. -/
def guarded (system : TransitionSystem State Event) (allowed : State → Event → Prop) :
    TransitionSystem State Event where
  Initial := system.Initial
  Step state event next := allowed state event ∧ system.Step state event next

variable {system : TransitionSystem State Event}

/-- What holds initially and is kept by every step holds in every run. The step
may use the run that led to it. -/
theorem Runs.invariant (holds : List Event → State → Prop)
    (initial : ∀ {state}, system.Initial state → holds [] state)
    (preserved : ∀ {events state event next}, system.Runs events state → holds events state →
      system.Step state event next → holds (events ++ [event]) next)
    {events : List Event} {state : State} (run : system.Runs events state) :
    holds events state := by
  induction run with
  | initial valid => exact initial valid
  | step prior transition ih => exact preserved prior ih transition

/-- The state reached by the events, if they can happen one after the other. -/
def Follows (system : TransitionSystem State Event) : State → List Event → State → Prop
  | state, [], last => state = last
  | state, event :: events, last =>
    ∃ next, system.Step state event next ∧ Follows system next events last

/-- A run goes on with whatever follows. -/
theorem Runs.append {first : List Event} {state : State} (run : system.Runs first state)
    {second : List Event} {last : State} (follows : system.Follows state second last) :
    system.Runs (first ++ second) last := by
  induction second generalizing first state with
  | nil =>
      obtain rfl := follows
      rwa [List.append_nil]
  | cons event second ih =>
      obtain ⟨next, transition, rest⟩ := follows
      have further := ih (run.step transition) rest
      rwa [List.append_assoc, List.singleton_append] at further

/-- What follows an initial state is a run. -/
theorem Runs.of_follows {state : State} (valid : system.Initial state) {events : List Event}
    {last : State} (follows : system.Follows state events last) : system.Runs events last :=
  (Runs.initial valid).append follows

/-- A weaker guard admits every run of a stronger one. -/
theorem Runs.guarded_mono {strong weak : State → Event → Prop}
    (weaker : ∀ state event, strong state event → weak state event)
    {events : List Event} {state : State}
    (run : (system.guarded strong).Runs events state) :
    (system.guarded weak).Runs events state := by
  induction run with
  | initial valid => exact .initial valid
  | step _ transition ih => exact .step ih ⟨weaker _ _ transition.1, transition.2⟩

end TransitionSystem

end IEDSyncTogether.Base
