import Mathlib.Order.Basic
import Mathlib.Tactic.Common

/-!
# Event-driven machines

A machine is a state type with initial states and a labelled step relation.
`Reachable` collects the states of every run whose steps all satisfy a guard on
the state before the step and on the event, so that one induction serves both
the unconditional invariants (guard `True`) and the invariants that hold only
while some event pattern is avoided.
-/

namespace Vvmux
namespace Library

/-- A labelled transition system with initial states. -/
structure Machine (State Event : Type*) where
  initial : State → Prop
  step : State → Event → State → Prop

namespace Machine

variable {State Event : Type*}

/-- The same steps from one state on. -/
def startingAt
    (machine : Machine State Event)
    (start : State) : Machine State Event where
  initial state := state = start
  step := machine.step

/-- States of the runs whose every step satisfies `guard`. -/
inductive Reachable
    (machine : Machine State Event)
    (guard : State → Event → Prop) : State → Prop
  | initial {state : State} :
      machine.initial state → Reachable machine guard state
  | step {before after : State} {event : Event} :
      Reachable machine guard before →
      guard before event →
      machine.step before event after →
      Reachable machine guard after

/-- A predicate is preserved by every guarded step. -/
def Preserved
    (machine : Machine State Event)
    (guard : State → Event → Prop)
    (invariant : State → Prop) : Prop :=
  ∀ before event after,
    invariant before → guard before event →
      machine.step before event after → invariant after

/-- The invariant rule: what holds initially and is preserved by guarded steps
holds in every state of every guarded run. -/
theorem Reachable.invariant
    {machine : Machine State Event}
    {guard : State → Event → Prop}
    {invariant : State → Prop}
    {state : State}
    (reachable : machine.Reachable guard state)
    (holdsInitially : ∀ start, machine.initial start → invariant start)
    (preserved : machine.Preserved guard invariant) : invariant state := by
  induction reachable with
  | initial start => exact holdsInitially _ start
  | step _ guarded stepped ih =>
      exact preserved _ _ _ ih guarded stepped

/-- The state after a list of events that all pass a check. -/
def follow
    (next : State → Event → Option State)
    (allowed : State → Event → Bool) :
    State → List Event → Option State
  | state, [] => some state
  | state, event :: rest =>
      if allowed state event then
        (next state event).bind fun after => follow next allowed after rest
      else none

/-- By induction over the events. -/
theorem Reachable.follow
    {machine : Machine State Event}
    {guard : State → Event → Prop}
    {next : State → Event → Option State}
    {allowed : State → Event → Bool}
    (steps : ∀ before event after, next before event = some after →
      machine.step before event after)
    (checks : ∀ before event, allowed before event = true →
      guard before event)
    {state after : State}
    (reachable : machine.Reachable guard state)
    {events : List Event}
    (followed : Machine.follow next allowed state events = some after) :
    machine.Reachable guard after := by
  induction events generalizing state with
  | nil =>
      cases followed
      exact reachable
  | cons event rest ih =>
      unfold Machine.follow at followed
      split at followed
      · rename_i passes
        obtain ⟨middle, stepped, further⟩ :=
          Option.bind_eq_some_iff.mp followed
        exact ih
          (.step reachable (checks state event passes)
            (steps state event middle stepped)) further
      · cases followed

end Machine

end Library
end Vvmux
