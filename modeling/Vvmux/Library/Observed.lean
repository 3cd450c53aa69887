import Vvmux.Library.Machine

/-!
# Observed machines

A machine whose steps are written down: beside every state stands what was
observed on the way to it, the latest first.  Each note names its subject, and
the history of a subject is what concerns it.
-/

namespace Vvmux
namespace Library

variable {State Event Subject Note : Type*}

/-- The machine, with what is observed of every step. -/
def Machine.observed
    (machine : Machine State Event)
    (observe : State → Event → List Note) :
    Machine (State × List Note) Event where
  initial run := machine.initial run.1 ∧ run.2 = []
  step before event after :=
    machine.step before.1 event after.1 ∧
      after.2 = observe before.1 event ++ before.2

/-- The next state of an observed machine that is a function. -/
def Machine.observing
    (next : State → Event → Option State)
    (observe : State → Event → List Note)
    (run : State × List Note)
    (event : Event) : Option (State × List Note) :=
  (next run.1 event).map fun after => (after, observe run.1 event ++ run.2)

theorem Machine.observed_observing
    {machine : Machine State Event}
    {next : State → Event → Option State}
    (steps : ∀ before event after, next before event = some after →
      machine.step before event after)
    {observe : State → Event → List Note}
    {before after : State × List Note}
    {event : Event}
    (observing : Machine.observing next observe before event = some after) :
    (machine.observed observe).step before event after := by
  obtain ⟨state, stepped, rfl⟩ := Option.map_eq_some_iff.mp observing
  exact ⟨steps _ _ _ stepped, rfl⟩

/-! ## Histories -/

variable [DecidableEq Subject]

/-- What was observed of one subject. -/
def concerning
    (subject : Subject)
    (notes : List (Subject × Note)) : List Note :=
  notes.filterMap fun note => if note.1 = subject then some note.2 else none

theorem concerning_append
    (subject : Subject)
    (later earlier : List (Subject × Note)) :
    concerning subject (later ++ earlier) =
      concerning subject later ++ concerning subject earlier :=
  List.filterMap_append

/-- Notes on a subject are its history. -/
theorem concerning_noted
    (subject : Subject)
    (notes : List Note) :
    concerning subject (notes.map (Prod.mk subject)) = notes := by
  unfold concerning
  rw [List.filterMap_map]
  have kept : (fun note : Subject × Note =>
      if note.1 = subject then some note.2 else none) ∘ Prod.mk subject =
      some := by
    funext note
    exact if_pos rfl
  rw [kept, List.filterMap_some]

/-- A subject without a note has no history. -/
theorem concerning_eq_nil
    {subject : Subject}
    {notes : List (Subject × Note)}
    (absent : ∀ note ∈ notes, note.1 ≠ subject) :
    concerning subject notes = [] := by
  unfold concerning
  rw [List.filterMap_eq_nil_iff]
  intro note noted
  rw [if_neg (absent note noted)]

/-- The history of a subject under further notes on one. -/
theorem concerning_note
    (subject noted : Subject)
    (later : List Note)
    (notes : List (Subject × Note)) :
    concerning subject (later.map (Prod.mk noted) ++ notes) =
      (if noted = subject then later else []) ++
        concerning subject notes := by
  rw [concerning_append]
  split
  · rename_i same
    rw [same, concerning_noted]
  · rename_i other
    rw [concerning_eq_nil]
    intro note mapped
    obtain ⟨_, _, rfl⟩ := List.mem_map.mp mapped
    exact other

end Library
end Vvmux
