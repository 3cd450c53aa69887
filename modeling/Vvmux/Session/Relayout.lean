import Mathlib.Data.List.Dedup
import Vvmux.Session.Operations

/-!
# Relaying out and nested closes

One rule serves every invariant of the mutually recursive part of the actor: a
predicate that survives the single rewrites of the state (a restored drag, a
restored rectangle, a removed pane) survives relaying out, closing a pane,
cancelling a drag and ending an edit mode. The first use of the rule shows that
the fuel of `resizeAll` never runs out, so the recursion equation of the source
holds.
-/

namespace Vvmux
namespace Session

open Library
open Layout

namespace SessionActor

/-- The second state differs from the first in bookkeeping only: sizes of
panes, an ended edit mode, clients, messages, revisions and answers already
consumed. -/
structure SameCore (s t : SessionActor) : Prop where
  tabs : t.tabs = s.tabs
  activeTab : t.activeTab = s.activeTab
  panes : ∀ pane, pane ∈ t.panes ↔ pane ∈ s.panes
  pointerDrag : t.pointerDrag = s.pointerDrag
  floatModal : t.floatModal = none ∨ t.floatModal = s.floatModal
  nextPaneId : t.nextPaneId = s.nextPaneId
  nextTabId : t.nextTabId = s.nextTabId
  refusals : t.environment.resizeRefusals <:+ s.environment.resizeRefusals
  reaction : t.environment.reaction = s.environment.reaction

theorem SameCore.refl (s : SessionActor) : SameCore s s :=
  ⟨rfl, rfl, fun _ => Iff.rfl, rfl, .inr rfl, rfl, rfl, List.suffix_rfl, rfl⟩

theorem sameCore_notify (s : SessionActor) (message : ServerMessage) :
    SameCore s (s.notify message) := by
  unfold notify
  split <;> exact ⟨rfl, rfl, fun _ => Iff.rfl, rfl, .inr rfl, rfl, rfl, List.suffix_rfl, rfl⟩

theorem sameCore_counted (s : SessionActor) (revision sequence : Nat) :
    SameCore s { s with
      layoutRevision := revision, sessionSequence := sequence } :=
  ⟨rfl, rfl, fun _ => Iff.rfl, rfl, .inr rfl, rfl, rfl, List.suffix_rfl, rfl⟩

theorem sameCore_scheduleRender (s : SessionActor) :
    SameCore s s.scheduleRender :=
  ⟨rfl, rfl, fun _ => Iff.rfl, rfl, .inr rfl, rfl, rfl, List.suffix_rfl, rfl⟩

theorem sameCore_forceFull (s : SessionActor) (full : Bool) :
    SameCore s { s with forceFull := full } :=
  ⟨rfl, rfl, fun _ => Iff.rfl, rfl, .inr rfl, rfl, rfl, List.suffix_rfl, rfl⟩

theorem sameCore_endModal (s : SessionActor) :
    SameCore s { s with floatModal := none } :=
  ⟨rfl, rfl, fun _ => Iff.rfl, rfl, .inl rfl, rfl, rfl, List.suffix_rfl, rfl⟩

variable {s t u : SessionActor}

theorem SameCore.trans
    (first : SameCore s t)
    (second : SameCore t u) : SameCore s u where
  tabs := second.tabs.trans first.tabs
  activeTab := second.activeTab.trans first.activeTab
  panes pane := (second.panes pane).trans (first.panes pane)
  pointerDrag := second.pointerDrag.trans first.pointerDrag
  floatModal := by
    rcases second.floatModal with ended | same
    · exact .inl ended
    · rw [same]
      exact first.floatModal
  nextPaneId := second.nextPaneId.trans first.nextPaneId
  nextTabId := second.nextTabId.trans first.nextTabId
  refusals := second.refusals.trans first.refusals
  reaction := second.reaction.trans first.reaction

/-- Bookkeeping starts neither a drag nor an edit mode. -/
theorem SameCore.idle
    (core : SameCore s t) :
    (s.pointerDrag = none → t.pointerDrag = none) ∧
      (s.floatModal = none → t.floatModal = none) := by
  refine ⟨fun idle => core.pointerDrag.trans idle, fun idle => ?_⟩
  rcases core.floatModal with ended | same
  · exact ended
  · exact same.trans idle

/-! ## One resize pass -/

/-- What a pass keeps: the panes it started from, a suffix of the answers, one
consumed answer for every failure, and failures only among refused panes. -/
structure ResizePass.Within
    (panes : OrderedMap PaneId Pane)
    (refusals : List (List PaneId))
    (pass : ResizePass) : Prop where
  panes : ∀ pane, pane ∈ pass.panes ↔ pane ∈ panes
  suffix : pass.resizeRefusals <:+ refusals
  consumed : pass.failures.length + pass.resizeRefusals.length ≤ refusals.length
  refused : ∀ pane ∈ pass.failures, ∃ answer ∈ refusals, pane ∈ answer

theorem ResizePass.Within.visit
    {panes : OrderedMap PaneId Pane}
    {refusals : List (List PaneId)}
    {pass : ResizePass}
    (within : pass.Within panes refusals)
    (projection : PaneProjection) :
    (pass.visit projection).Within panes refusals := by
  unfold ResizePass.visit
  cases found : pass.panes.find? projection.paneId with
  | none => exact within
  | some pane =>
      have present : projection.paneId ∈ pass.panes := by
        rw [← OrderedMap.find?_isSome_iff, found]
        rfl
      simp only
      split_ifs with unchanged refused
      · exact within
      · -- A refusal comes from a remaining answer.
        cases answers : pass.resizeRefusals with
        | nil => simp [answers] at refused
        | cons answer rest =>
            have suffix := within.suffix
            have consumed := within.consumed
            rw [answers] at suffix consumed
            refine ⟨?_, ?_, ?_, ?_⟩
            · intro query
              rw [OrderedMap.mem_insert, within.panes]
              refine or_iff_right_of_imp fun same => ?_
              rw [same, ← within.panes]
              exact present
            · exact (List.suffix_cons answer rest).trans suffix
            · simp only [List.length_append, List.length_cons,
                List.length_nil, List.tail_cons] at consumed ⊢
              omega
            · intro query member
              rcases List.mem_append.mp member with old | new
              · exact within.refused query old
              · rw [List.mem_singleton] at new
                rw [answers] at refused
                exact ⟨answer, suffix.mem (List.mem_cons_self ..),
                  by simpa [new] using refused⟩
      · refine ⟨?_, ?_, ?_, within.refused⟩
        · intro query
          rw [OrderedMap.mem_insert, within.panes]
          refine or_iff_right_of_imp fun same => ?_
          rw [same, ← within.panes]
          exact present
        · exact (List.tail_suffix _).trans within.suffix
        · have consumed := within.consumed
          simp only [List.length_tail]
          omega

variable {failures : List PaneId}

/-- A pass changes bookkeeping only; its failures are refused panes, and each
of them has consumed an answer. -/
theorem resizePanes_spec
    (result : s.resizePanes = some (t, failures)) :
    SameCore s t ∧
      (∀ pane ∈ failures,
        ∃ answer ∈ s.environment.resizeRefusals, pane ∈ answer) ∧
      (failures ≠ [] → t.environment.resizeRefusals.length <
        s.environment.resizeRefusals.length) := by
  simp only [resizePanes, Option.bind_eq_bind, Option.bind_eq_some_iff,
    Option.pure_def, Option.some.injEq, Prod.mk.injEq] at result
  obtain ⟨projections, _, rfl, rfl⟩ := result
  have start : ResizePass.Within s.panes s.environment.resizeRefusals
      ⟨s.panes, s.environment.resizeRefusals, [], 0⟩ :=
    ⟨fun _ => Iff.rfl, List.suffix_rfl, by simp, by simp⟩
  have within : ResizePass.Within s.panes s.environment.resizeRefusals
      (projections.flatten.foldl ResizePass.visit
        ⟨s.panes, s.environment.resizeRefusals, [], 0⟩) :=
    List.foldlRecOn _ _ start fun _ inner projection _ => inner.visit projection
  refine ⟨⟨rfl, rfl, within.panes, rfl, .inr rfl, rfl, rfl, within.suffix, rfl⟩, ?_, ?_⟩
  · intro pane member
    apply within.refused pane
    rwa [sortedFailures, List.mem_dedup, List.mem_insertionSort] at member
  · intro someFailed
    have consumed := within.consumed
    have nonempty : (projections.flatten.foldl ResizePass.visit
        ⟨s.panes, s.environment.resizeRefusals, [], 0⟩).failures ≠ [] := by
      rintro none
      exact someFailed (by rw [none]; rfl)
    have positive := List.length_pos_iff.mpr nonempty
    simp only
    omega

/-! ## The preservation rule -/

/-- A run that starts neither a drag nor an edit mode. -/
structure Calm (s t : SessionActor) : Prop where
  drag : s.pointerDrag = none → t.pointerDrag = none
  modal : s.floatModal = none → t.floatModal = none

theorem Calm.refl (s : SessionActor) : Calm s s := ⟨id, id⟩

theorem Calm.trans (first : Calm s t) (second : Calm t u) : Calm s u :=
  ⟨fun idle => second.drag (first.drag idle),
    fun idle => second.modal (first.modal idle)⟩

theorem SameCore.calm (core : SameCore s t) : Calm s t := by
  refine ⟨fun idle => core.pointerDrag.trans idle, fun idle => ?_⟩
  rcases core.floatModal with ended | same
  · exact ended
  · exact same.trans idle

/-- A rewrite of the layout that leaves the rest of the state alone. -/
structure SameControl (s t : SessionActor) : Prop where
  pointerDrag : t.pointerDrag = s.pointerDrag
  floatModal : t.floatModal = s.floatModal
  environment : t.environment = s.environment

theorem SameControl.refl (s : SessionActor) : SameControl s s :=
  ⟨rfl, rfl, rfl⟩

theorem SameControl.trans
    (first : SameControl s t)
    (second : SameControl t u) : SameControl s u :=
  ⟨second.pointerDrag.trans first.pointerDrag,
    second.floatModal.trans first.floatModal,
    second.environment.trans first.environment⟩

theorem SameControl.calm (control : SameControl s t) : Calm s t :=
  ⟨fun idle => control.pointerDrag.trans idle,
    fun idle => control.floatModal.trans idle⟩

theorem sameControl_removeFromTab
    (s : SessionActor)
    (index : Nat)
    (pane : PaneId) :
    SameControl s (s.removeFromTab index pane).clampActiveTab := by
  have clamped : ∀ inner : SessionActor,
      SameControl inner inner.clampActiveTab := by
    intro inner
    unfold clampActiveTab
    split <;> exact ⟨rfl, rfl, rfl⟩
  refine SameControl.trans ?_ (clamped _)
  unfold removeFromTab
  split
  · exact SameControl.refl s
  · simp only
    split <;> exact ⟨rfl, rfl, rfl⟩

theorem sameControl_restoreDrag (s : SessionActor) (drag : PointerDrag) :
    SameControl s (s.restoreDrag drag).1 := by
  unfold restoreDrag
  split
  · exact SameControl.refl s
  · split
    · exact SameControl.refl s
    · cases drag with
      | tiledBoundary tabId axis boundary last original =>
          simp only
          split <;> exact ⟨rfl, rfl, rfl⟩
      | move tabId pane start original => exact ⟨rfl, rfl, rfl⟩
      | resize tabId pane edges start original => exact ⟨rfl, rfl, rfl⟩

theorem sameControl_restoreModal (s : SessionActor) (modal : FloatModal) :
    SameControl s (s.restoreModal modal).1 := by
  unfold restoreModal
  split
  · exact SameControl.refl s
  · split
    · exact SameControl.refl s
    · exact ⟨rfl, rfl, rfl⟩

/-- A predicate that survives every single rewrite of the recursive part, when
only panes in `closable` are closed. -/
structure Stable
    (closable : PaneId → Prop)
    (invariant : SessionActor → Prop) : Prop where
  sameCore : ∀ {s t}, SameCore s t → invariant s → invariant t
  refusals : ∀ {s}, invariant s →
    ∀ answer ∈ s.environment.resizeRefusals, ∀ pane ∈ answer, closable pane
  dropDrag : ∀ {s}, invariant s → invariant { s with pointerDrag := none }
  restoreDrag : ∀ {s drag}, invariant s → s.pointerDrag = some drag →
    invariant (SessionActor.restoreDrag { s with pointerDrag := none } drag).1
  restoreModal : ∀ {s} modal, invariant s → invariant (s.restoreModal modal).1
  erase : ∀ {s pane}, invariant s → closable pane →
    s.pointerDrag = none → s.floatModal = none →
    (s.tabs.findIdx? fun tab => tab.contains pane) = none →
    invariant { s with panes := s.panes.erase pane }
  remove : ∀ {s pane index}, invariant s → closable pane →
    s.pointerDrag = none → s.floatModal = none →
    (s.tabs.findIdx? fun tab => tab.contains pane) = some index →
    invariant (({ s with panes := s.panes.erase pane }).removeFromTab index
      pane).clampActiveTab

/-- A computation keeps a predicate, and is calm. -/
def Keeps
    (invariant : SessionActor → Prop)
    (run : SessionActor → Option SessionActor) : Prop :=
  ∀ s t, invariant s → run s = some t → invariant t ∧ Calm s t

section Rule

variable {closable : PaneId → Prop}
variable {invariant : SessionActor → Prop}
variable {resizeAll : SessionActor → Option SessionActor}

theorem keeps_relayoutWith
    (stable : Stable closable invariant)
    (keeps : Keeps invariant resizeAll) :
    Keeps invariant (relayoutWith resizeAll) := by
  intro s t holds result
  simp only [relayoutWith, Option.bind_eq_bind, Option.bind_eq_some_iff,
    Option.pure_def, Option.some.injEq] at result
  obtain ⟨resized, resizedEq, rfl⟩ := result
  have counted := sameCore_counted s (wrappingAdd s.layoutRevision 1)
    (wrappingAdd s.sessionSequence 1)
  have rendered := sameCore_scheduleRender resized
  obtain ⟨kept, calm⟩ := keeps _ resized (stable.sameCore counted holds) resizedEq
  exact ⟨stable.sameCore rendered kept,
    (counted.calm.trans calm).trans rendered.calm⟩

theorem keeps_relayoutFullWith
    (stable : Stable closable invariant)
    (keeps : Keeps invariant resizeAll) :
    Keeps invariant (relayoutFullWith resizeAll) := by
  intro s t holds result
  have forced := sameCore_forceFull s true
  obtain ⟨kept, calm⟩ := keeps_relayoutWith stable keeps { s with forceFull := true }
    t (stable.sameCore forced holds) result
  exact ⟨kept, forced.calm.trans calm⟩

variable {s t : SessionActor}

section

variable (stable : Stable closable invariant)
  (keeps : Keeps invariant resizeAll)
include stable keeps

/-- Cancelling a drag keeps the predicate and leaves no drag. -/
theorem keeps_cancelPointerDragWith
    (restore : Bool)
    (holds : invariant s)
    (result : cancelPointerDragWith resizeAll restore s = some t) :
    invariant t ∧ Calm s t ∧ t.pointerDrag = none := by
  unfold cancelPointerDragWith at result
  cases drag : s.pointerDrag with
  | none =>
      simp only [drag, Option.some.injEq] at result
      subst result
      exact ⟨holds, Calm.refl s, drag⟩
  | some active =>
      simp only [drag] at result
      have control := sameControl_restoreDrag { s with pointerDrag := none } active
      have dropped : Calm s { s with pointerDrag := none } := ⟨fun _ => rfl, id⟩
      split_ifs at result with discard changed
      · simp only [Option.some.injEq] at result
        subst result
        exact ⟨stable.dropDrag holds, dropped, rfl⟩
      · obtain ⟨kept, calm⟩ := keeps_relayoutFullWith stable keeps _ t
          (stable.restoreDrag holds drag) result
        exact ⟨kept, (dropped.trans control.calm).trans calm,
          calm.drag control.pointerDrag⟩
      · simp only [Option.some.injEq] at result
        subst result
        exact ⟨stable.restoreDrag holds drag, dropped.trans control.calm,
          control.pointerDrag⟩

/-- Ending an edit mode keeps the predicate and leaves no mode. -/
theorem keeps_endFloatModeWith
    (restore : Bool)
    (holds : invariant s)
    (result : endFloatModeWith resizeAll restore s = some t) :
    invariant t ∧ Calm s t ∧ t.floatModal = none := by
  unfold endFloatModeWith at result
  cases mode : s.floatModal with
  | none =>
      simp only [mode, Option.some.injEq] at result
      subst result
      exact ⟨holds, Calm.refl s, mode⟩
  | some modal =>
      simp only [mode] at result
      obtain ⟨ended, endedEq, rfl⟩ := Option.map_eq_some_iff.mp result
      have dropped := sameCore_endModal s
      have holdsDropped := stable.sameCore dropped holds
      have control := sameControl_restoreModal { s with floatModal := none } modal
      have inner : invariant ended ∧ Calm s ended ∧ ended.floatModal = none := by
        split_ifs at endedEq with discard changed
        · simp only [Option.some.injEq] at endedEq
          subst endedEq
          exact ⟨holdsDropped, dropped.calm, rfl⟩
        · obtain ⟨kept, calm⟩ := keeps_relayoutFullWith stable keeps _ ended
            (stable.restoreModal modal holdsDropped) endedEq
          exact ⟨kept, (dropped.calm.trans control.calm).trans calm,
            calm.modal control.floatModal⟩
        · simp only [Option.some.injEq] at endedEq
          subst endedEq
          exact ⟨stable.restoreModal modal holdsDropped,
            dropped.calm.trans control.calm, control.floatModal⟩
      have announced := sameCore_notify ended
        (.floatingEditMode modal.modeId none none)
      exact ⟨stable.sameCore announced inner.1, inner.2.1.trans announced.calm,
        announced.calm.modal inner.2.2⟩

/-- The first step of a close keeps the predicate and leaves no drag. -/
theorem keeps_cancelDragForClose
    (pane : PaneId)
    (holds : invariant s)
    (result : cancelDragForClose resizeAll pane s = some t) :
    invariant t ∧ Calm s t ∧ t.pointerDrag = none := by
  unfold cancelDragForClose at result
  cases drag : s.pointerDrag with
  | none =>
      simp only [drag, Option.some.injEq] at result
      subst result
      exact ⟨holds, Calm.refl s, drag⟩
  | some active =>
      simp only [drag] at result
      exact keeps_cancelPointerDragWith stable keeps _ holds result

/-- The second step of a close keeps the predicate and leaves no mode. -/
theorem keeps_endModeForClose
    (pane : PaneId)
    (holds : invariant s)
    (result : endModeForClose resizeAll pane s = some t) :
    invariant t ∧ Calm s t ∧ t.floatModal = none := by
  unfold endModeForClose at result
  cases mode : s.floatModal with
  | none =>
      simp only [mode, Option.some.injEq] at result
      subst result
      exact ⟨holds, Calm.refl s, mode⟩
  | some modal =>
      simp only [mode] at result
      exact keeps_endFloatModeWith stable keeps _ holds result

/-- Closing a closable pane keeps the predicate. -/
theorem keeps_closePaneWith
    {pane : PaneId}
    (allowed : closable pane) :
    Keeps invariant (fun s => closePaneWith resizeAll s pane) := by
  intro s t holds result
  simp only [closePaneWith, Option.bind_eq_bind,
    Option.bind_eq_some_iff] at result
  obtain ⟨cancelled, cancelledEq, ended, endedEq, result⟩ := result
  obtain ⟨holdsCancelled, firstCalm, noDrag⟩ :=
    keeps_cancelDragForClose stable keeps pane holds cancelledEq
  obtain ⟨holdsEnded, secondCalm, noMode⟩ :=
    keeps_endModeForClose stable keeps pane holdsCancelled endedEq
  have idle := secondCalm.drag noDrag
  have calm := firstCalm.trans secondCalm
  unfold removePaneWith at result
  cases owner : ended.tabs.findIdx? fun tab => tab.contains pane with
  | none =>
      simp only [owner, Option.some.injEq] at result
      subst result
      exact ⟨stable.erase holdsEnded allowed idle noMode owner,
        calm.trans ⟨id, id⟩⟩
  | some index =>
      simp only [owner] at result
      obtain ⟨kept, relaidOut⟩ := keeps_relayoutFullWith stable keeps _ t
        (stable.remove holdsEnded allowed idle noMode owner) result
      have removed := (sameControl_removeFromTab
        { ended with panes := ended.panes.erase pane } index pane).calm
      exact ⟨kept, (calm.trans ⟨removed.drag, removed.modal⟩).trans relaidOut⟩

end

variable {close : SessionActor → PaneId → Option SessionActor}

/-- A chain of closes keeps the predicate. -/
theorem keeps_foldlM
    (keeps : ∀ pane ∈ failures, Keeps invariant fun s => close s pane) :
    Keeps invariant fun s => failures.foldlM close s := by
  induction failures with
  | nil =>
      intro s t holds result
      simp only [List.foldlM_nil, Option.pure_def, Option.some.injEq] at result
      subst result
      exact ⟨holds, Calm.refl s⟩
  | cons pane rest ih =>
      intro s t holds result
      simp only [List.foldlM_cons, Option.bind_eq_bind,
        Option.bind_eq_some_iff] at result
      obtain ⟨middle, closed, result⟩ := result
      obtain ⟨kept, calm⟩ :=
        keeps pane (List.mem_cons_self ..) s middle holds closed
      obtain ⟨restKept, restCalm⟩ := ih
        (fun other member => keeps other (List.mem_cons_of_mem _ member))
        middle t kept result
      exact ⟨restKept, calm.trans restCalm⟩

/-- A close that is announced to the client keeps what the close keeps. -/
theorem keeps_announced
    (stable : Stable closable invariant)
    {pane : PaneId}
    (keeps : Keeps invariant fun s => close s pane) :
    Keeps invariant fun s =>
      close (s.status s!"pane {pane} PTY resize failed") pane := by
  intro s t holds result
  have announced : SameCore s (s.status s!"pane {pane} PTY resize failed") :=
    sameCore_notify s _
  obtain ⟨kept, calm⟩ := keeps _ t (stable.sameCore announced holds) result
  exact ⟨kept, announced.calm.trans calm⟩

theorem keeps_resizeAllWith
    (stable : Stable closable invariant)
    (keeps : ∀ pane, closable pane → Keeps invariant fun s => close s pane) :
    Keeps invariant (resizeAllWith close) := by
  intro s t holds result
  simp only [resizeAllWith, Option.bind_eq_bind,
    Option.bind_eq_some_iff] at result
  obtain ⟨⟨resized, failures⟩, pass, closes⟩ := result
  obtain ⟨core, refused, _⟩ := resizePanes_spec pass
  have announced : ∀ pane ∈ failures, Keeps invariant fun s =>
      close (s.status s!"pane {pane} PTY resize failed") pane := by
    intro pane member
    obtain ⟨answer, remaining, named⟩ := refused pane member
    exact keeps_announced stable
      (keeps pane (stable.refusals holds answer remaining pane named))
  obtain ⟨kept, calm⟩ :=
    keeps_foldlM announced resized t (stable.sameCore core holds) closes
  exact ⟨kept, core.calm.trans calm⟩

/-- Relaying out keeps the predicate, whatever the fuel. -/
theorem keeps_resizeAllFuel
    (stable : Stable closable invariant)
    (fuel : Nat) : Keeps invariant (resizeAllFuel fuel) := by
  induction fuel with
  | zero =>
      exact keeps_resizeAllWith stable fun pane _ s t _ result => by
        simp at result
  | succ fuel ih =>
      exact keeps_resizeAllWith stable fun pane allowed =>
        keeps_closePaneWith stable ih allowed

end Rule

section TiedRule

variable {closable : PaneId → Prop}
variable {invariant : SessionActor → Prop}

theorem Stable.resizeAll (stable : Stable closable invariant) :
    Keeps invariant SessionActor.resizeAll :=
  fun s t holds result => keeps_resizeAllFuel stable _ s t holds result

theorem Stable.relayout (stable : Stable closable invariant) :
    Keeps invariant SessionActor.relayout :=
  keeps_relayoutWith stable stable.resizeAll

theorem Stable.relayoutFull (stable : Stable closable invariant) :
    Keeps invariant SessionActor.relayoutFull :=
  keeps_relayoutFullWith stable stable.resizeAll

theorem Stable.closePane
    (stable : Stable closable invariant)
    {pane : PaneId}
    (allowed : closable pane) : Keeps invariant fun s => s.closePane pane :=
  keeps_closePaneWith stable stable.resizeAll allowed

theorem Stable.cancelPointerDrag
    (stable : Stable closable invariant)
    {restore : Bool}
    {s t : SessionActor}
    (holds : invariant s)
    (result : s.cancelPointerDrag restore = some t) :
    invariant t ∧ Calm s t ∧ t.pointerDrag = none :=
  keeps_cancelPointerDragWith stable stable.resizeAll restore holds result

theorem Stable.endFloatMode
    (stable : Stable closable invariant)
    {restore : Bool}
    {s t : SessionActor}
    (holds : invariant s)
    (result : s.endFloatMode restore = some t) :
    invariant t ∧ Calm s t ∧ t.floatModal = none :=
  keeps_endFloatModeWith stable stable.resizeAll restore holds result

end TiedRule

/-! ## The fuel suffices -/

/-- At most `bound` answers of the environment are left. -/
def AnswersWithin (bound : Nat) (s : SessionActor) : Prop :=
  s.environment.resizeRefusals.length ≤ bound

theorem stable_answersWithin (bound : Nat) :
    Stable (fun _ => True) (AnswersWithin bound) where
  sameCore core holds := core.refusals.length_le.trans holds
  refusals _ _ _ _ _ := trivial
  dropDrag holds := holds
  restoreDrag holds _ := by
    unfold AnswersWithin
    rw [(sameControl_restoreDrag _ _).environment]
    exact holds
  restoreModal modal holds := by
    unfold AnswersWithin
    rw [(sameControl_restoreModal _ _).environment]
    exact holds
  erase holds _ _ _ _ := holds
  remove holds _ _ _ _ := by
    unfold AnswersWithin
    rw [(sameControl_removeFromTab _ _ _).environment]
    exact holds

section Agreement

variable {bound : Nat}
variable {left right : SessionActor → Option SessionActor}

/-- Two computations agree while at most `bound` answers are left. -/
def Agree
    (bound : Nat)
    (left right : SessionActor → Option SessionActor) : Prop :=
  ∀ s, AnswersWithin bound s → left s = right s

theorem Agree.relayoutFullWith
    (agree : Agree bound left right) :
    Agree bound (relayoutFullWith left) (relayoutFullWith right) := by
  intro s within
  unfold SessionActor.relayoutFullWith relayoutWith
  rw [agree _ (by exact within)]

theorem Agree.cancelPointerDragWith
    (agree : Agree bound left right)
    (restore : Bool) :
    Agree bound (cancelPointerDragWith left restore)
      (cancelPointerDragWith right restore) := by
  intro s within
  unfold SessionActor.cancelPointerDragWith
  split
  · rfl
  · rename_i drag active
    simp only
    split
    · rfl
    · rw [agree.relayoutFullWith _ ((stable_answersWithin bound).restoreDrag
        within active)]

theorem Agree.endFloatModeWith
    (agree : Agree bound left right)
    (restore : Bool) :
    Agree bound (endFloatModeWith left restore)
      (endFloatModeWith right restore) := by
  intro s within
  unfold SessionActor.endFloatModeWith
  split
  · rfl
  · rename_i modal active
    simp only
    rw [agree.relayoutFullWith _ ((stable_answersWithin bound).restoreModal
      modal (s := { s with floatModal := none }) within)]

theorem Agree.closePaneWith
    (agree : Agree bound left right)
    (keeps : Keeps (AnswersWithin bound) left)
    (pane : PaneId) :
    Agree bound (fun s => closePaneWith left s pane)
      (fun s => closePaneWith right s pane) := by
  intro s within
  have stable := stable_answersWithin bound
  have firstAgree : cancelDragForClose left pane s =
      cancelDragForClose right pane s := by
    unfold cancelDragForClose
    split
    · exact agree.cancelPointerDragWith _ s within
    · rfl
  simp only [SessionActor.closePaneWith, Option.bind_eq_bind]
  rw [← firstAgree]
  refine Option.bind_congr fun cancelled cancelledEq => ?_
  have cancelledWithin :=
    (keeps_cancelDragForClose stable keeps pane within cancelledEq).1
  have secondAgree : endModeForClose left pane cancelled =
      endModeForClose right pane cancelled := by
    unfold endModeForClose
    split
    · exact agree.endFloatModeWith _ cancelled cancelledWithin
    · rfl
  rw [← secondAgree]
  refine Option.bind_congr fun ended endedEq => ?_
  have endedWithin :=
    (keeps_endModeForClose stable keeps pane cancelledWithin endedEq).1
  unfold removePaneWith
  simp only
  split
  · rfl
  · apply agree.relayoutFullWith
    unfold AnswersWithin
    rw [(sameControl_removeFromTab _ _ _).environment]
    exact endedWithin

end Agreement

/-- Chains of closes agree while the closes do. -/
theorem foldlM_agree
    {bound : Nat}
    {left right : SessionActor → PaneId → Option SessionActor}
    (agree : ∀ pane, Agree bound (fun s => left s pane) (fun s => right s pane))
    (keeps : ∀ pane, Keeps (AnswersWithin bound) fun s => left s pane)
    (failures : List PaneId) :
    Agree bound (fun s => failures.foldlM left s)
      (fun s => failures.foldlM right s) := by
  induction failures with
  | nil => exact fun s _ => rfl
  | cons pane rest ih =>
      intro s within
      simp only [List.foldlM_cons, Option.bind_eq_bind]
      have same : left s pane = right s pane := agree pane s within
      rw [← same]
      refine Option.bind_congr fun middle closed => ?_
      exact ih middle (keeps pane s middle within closed).1

/-- More fuel than answers changes nothing. -/
theorem resizeAllFuel_agree
    (fuel more : Nat)
    (fuelBound : AnswersWithin fuel s)
    (moreBound : AnswersWithin more s) :
    resizeAllFuel fuel s = resizeAllFuel more s := by
  induction fuel generalizing more s with
  | zero =>
      cases more with
      | zero => rfl
      | succ more =>
          simp only [resizeAllFuel, resizeAllWith, Option.bind_eq_bind]
          refine Option.bind_congr fun pass result => ?_
          obtain ⟨_, _, consumed⟩ := resizePanes_spec result
          have noFailures : pass.2 = [] := by
            by_contra failed
            have := consumed failed
            unfold AnswersWithin at fuelBound
            omega
          simp [noFailures]
  | succ fuel ih =>
      cases more with
      | zero =>
          simp only [resizeAllFuel, resizeAllWith, Option.bind_eq_bind]
          refine Option.bind_congr fun pass result => ?_
          obtain ⟨_, _, consumed⟩ := resizePanes_spec result
          have noFailures : pass.2 = [] := by
            by_contra failed
            have := consumed failed
            unfold AnswersWithin at moreBound
            omega
          simp [noFailures]
      | succ more =>
          simp only [resizeAllFuel, resizeAllWith, Option.bind_eq_bind]
          refine Option.bind_congr fun pass result => ?_
          obtain ⟨_, _, consumed⟩ := resizePanes_spec result
          by_cases failed : pass.2 = []
          · simp [failed]
          · -- Every later close runs with an answer less.
            have fewer := consumed failed
            unfold AnswersWithin at fuelBound moreBound
            have agree : Agree (min fuel more) (resizeAllFuel fuel)
                (resizeAllFuel more) := fun inner within =>
              ih more
                (within.trans (min_le_left fuel more))
                (within.trans (min_le_right fuel more))
            have stable := stable_answersWithin (min fuel more)
            have keeps := keeps_resizeAllFuel stable fuel
            refine @foldlM_agree (min fuel more) _ _
              (fun pane before within => ?_) (fun pane => ?_) pass.2 pass.1 ?_
            · exact agree.closePaneWith keeps pane _
                (stable.sameCore (sameCore_notify before _) within)
            · exact keeps_announced stable
                (keeps_closePaneWith stable keeps trivial)
            · unfold AnswersWithin
              omega

/-- The recursion equation of the source: relaying out closes the failed panes,
and each close relays out again. -/
theorem resizeAll_eq (s : SessionActor) :
    s.resizeAll = resizeAllWith closePane s := by
  have unrolled : s.resizeAll =
      resizeAllFuel (s.environment.resizeRefusals.length + 1) s :=
    resizeAllFuel_agree _ _ (le_refl _) (Nat.le_succ _)
  rw [unrolled]
  simp only [resizeAllFuel, resizeAllWith, Option.bind_eq_bind]
  refine Option.bind_congr fun pass result => ?_
  have stable := stable_answersWithin s.environment.resizeRefusals.length
  have core := (resizePanes_spec result).1
  have agree : Agree s.environment.resizeRefusals.length
      (resizeAllFuel s.environment.resizeRefusals.length) resizeAll :=
    fun inner within => resizeAllFuel_agree _ _ within (le_refl _)
  have keeps := keeps_resizeAllFuel stable
    s.environment.resizeRefusals.length
  refine @foldlM_agree s.environment.resizeRefusals.length _ _
    (fun pane before within => ?_) (fun pane => ?_)
    pass.2 pass.1 core.refusals.length_le
  · exact agree.closePaneWith keeps pane _
      (stable.sameCore (sameCore_notify before _) within)
  · exact keeps_announced stable (keeps_closePaneWith stable keeps trivial)

end SessionActor

end Session
end Vvmux
