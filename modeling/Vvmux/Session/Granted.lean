import Vvmux.Session.Events

/-!
# Events whose resizes are granted

While no PTY refuses a size, relaying out closes no pane: ending a drag or an
edit mode moves borders and rectangles only. In every case the answer to pane
input outlives relaying out.
-/

namespace Vvmux
namespace Session

open Library
open Layout

namespace SessionActor

/-- No remaining answer refuses a resize. -/
def Granted (s : SessionActor) : Prop :=
  ∀ answer ∈ s.environment.resizeRefusals, answer = []

instance (s : SessionActor) : Decidable s.Granted :=
  inferInstanceAs
    (Decidable (∀ answer ∈ s.environment.resizeRefusals, answer = []))

theorem Reshaped.trans
    {s t u : SessionActor}
    (first : Reshaped s t)
    (second : Reshaped t u) : Reshaped s u where
  tabs := @forall₂_trans _ Tab.Similar Tab.Similar.trans _ _ _ first.tabs
    second.tabs
  activeTab := second.activeTab.trans first.activeTab
  panes pane := (second.panes pane).trans (first.panes pane)
  pointerDrag := second.pointerDrag.trans first.pointerDrag
  nextPaneId := second.nextPaneId.trans first.nextPaneId
  nextTabId := second.nextTabId.trans first.nextTabId
  refusals := second.refusals.trans first.refusals

variable {s t : SessionActor}

theorem Granted.reshaped
    (granted : s.Granted)
    (reshaped : Reshaped s t) : t.Granted :=
  fun answer remaining => granted answer (reshaped.refusals.mem remaining)

/-- The second state has the same host and configuration. -/
structure SameHost (s t : SessionActor) : Prop where
  config : t.config = s.config
  attached : t.attached = s.attached
  lastDisplay : t.lastDisplay = s.lastDisplay

theorem SameHost.refl (s : SessionActor) : SameHost s s := ⟨rfl, rfl, rfl⟩

theorem SameHost.trans
    {s t u : SessionActor}
    (first : SameHost s t)
    (second : SameHost t u) : SameHost s u :=
  ⟨second.config.trans first.config, second.attached.trans first.attached,
    second.lastDisplay.trans first.lastDisplay⟩

theorem SameHost.contentArea
    (same : SameHost s t) : t.contentArea = s.contentArea := by
  unfold SessionActor.contentArea layoutDisplay
  rw [same.config, same.attached, same.lastDisplay]

theorem SameHost.clientIs
    (same : SameHost s t)
    (id : Nat) : t.clientIs id = s.clientIs id := by
  unfold SessionActor.clientIs
  rw [same.attached]

section

variable (granted : s.Granted)
include granted

/-- A granted resize of everything is one pass without a failure. -/
theorem Granted.resizePanes
    (result : s.resizeAll = some t) : s.resizePanes = some (t, []) := by
  rw [resizeAll_eq] at result
  simp only [resizeAllWith, Option.bind_eq_bind,
    Option.bind_eq_some_iff] at result
  obtain ⟨⟨resized, failures⟩, pass, closes⟩ := result
  obtain ⟨_, refused, _⟩ := resizePanes_spec pass
  have none : failures = [] := by
    rw [List.eq_nil_iff_forall_not_mem]
    intro pane failed
    obtain ⟨answer, remaining, named⟩ := refused pane failed
    rw [granted answer remaining] at named
    cases named
  rw [none, List.foldlM_nil, Option.pure_def, Option.some.injEq] at closes
  rw [pass, none, ← closes]

/-- A granted resize of everything is bookkeeping. -/
theorem Granted.resizeAll (result : s.resizeAll = some t) : SameCore s t :=
  (resizePanes_spec (Granted.resizePanes granted result)).1

/-- A granted relayout is bookkeeping, and keeps the host. -/
theorem Granted.relayout
    (result : s.relayout = some t) : SameCore s t ∧ SameHost s t := by
  simp only [SessionActor.relayout, relayoutWith, Option.bind_eq_bind,
    Option.bind_eq_some_iff, Option.pure_def, Option.some.injEq] at result
  obtain ⟨resized, resizedEq, rfl⟩ := result
  have counted := sameCore_counted s (wrappingAdd s.layoutRevision 1)
    (wrappingAdd s.sessionSequence 1)
  have start : Granted { s with
      layoutRevision := wrappingAdd s.layoutRevision 1
      sessionSequence := wrappingAdd s.sessionSequence 1 } := granted
  refine ⟨(counted.trans (Granted.resizeAll start resizedEq)).trans
    (sameCore_scheduleRender resized), ?_⟩
  have pass := Granted.resizePanes start resizedEq
  simp only [SessionActor.resizePanes, Option.bind_eq_bind,
    Option.bind_eq_some_iff, Option.pure_def, Option.some.injEq,
    Prod.mk.injEq] at pass
  obtain ⟨projections, _, rfl, _⟩ := pass
  exact ⟨rfl, rfl, rfl⟩

theorem Granted.relayoutFull
    (result : s.relayoutFull = some t) : SameCore s t := by
  have start : Granted { s with forceFull := true } := granted
  exact (sameCore_forceFull s true).trans (Granted.relayout start result).1

theorem Granted.sameHost_relayoutFull
    (result : s.relayoutFull = some t) : SameHost s t := by
  have start : Granted { s with forceFull := true } := granted
  obtain ⟨config, attached, lastDisplay⟩ := (Granted.relayout start result).2
  exact ⟨config, attached, lastDisplay⟩

/-- A granted cancellation moves borders and rectangles only. -/
theorem Granted.cancelPointerDrag
    (placed : Placed s)
    (result : s.cancelPointerDrag true = some t) :
    Reshaped { s with pointerDrag := none } t := by
  unfold SessionActor.cancelPointerDrag cancelPointerDragWith at result
  cases dragged : s.pointerDrag with
  | none =>
      simp only [dragged, Option.some.injEq] at result
      subst result
      have same := (SameCore.refl s).reshaped
      exact { same with pointerDrag := dragged }
  | some drag =>
      have restored := placed.restoreDrag dragged
      have dropped : Granted { s with pointerDrag := none } := granted
      simp only [dragged, Bool.not_true, Bool.false_eq_true, if_false] at result
      split_ifs at result with changed
      · exact restored.trans (Granted.relayoutFull
          (dropped.reshaped restored) result).reshaped
      · rw [Option.some.injEq] at result
        exact result ▸ restored

/-- A granted end of an edit mode moves rectangles only. -/
theorem Granted.endFloatMode
    (result : s.endFloatMode true = some t) : Reshaped s t := by
  unfold SessionActor.endFloatMode endFloatModeWith at result
  cases mode : s.floatModal with
  | none =>
      simp only [mode, Option.some.injEq] at result
      exact result ▸ (SameCore.refl s).reshaped
  | some modal =>
      have restored := (sameCore_endModal s).reshaped.trans
        (reshaped_restoreModal { s with floatModal := none } modal)
      simp only [mode, Bool.not_true, Bool.false_eq_true, if_false] at result
      obtain ⟨ended, endedEq, rfl⟩ := Option.map_eq_some_iff.mp result
      refine Reshaped.trans ?_ (sameCore_notify ended _).reshaped
      split_ifs at endedEq with changed
      · exact restored.trans (Granted.relayoutFull
          (Granted.reshaped granted restored) endedEq).reshaped
      · rw [Option.some.injEq] at endedEq
        exact endedEq ▸ restored

end

theorem Granted.settle
    {s t : SessionActor}
    (granted : s.Granted)
    (placed : Placed s)
    (result : s.settle = some t) :
    Reshaped { s with pointerDrag := none } t := by
  obtain ⟨u, cancelled, ended⟩ := Option.bind_eq_some_iff.mp result
  have first := Granted.cancelPointerDrag granted placed cancelled
  have dropped : Granted { s with pointerDrag := none } := granted
  exact first.trans (Granted.endFloatMode (dropped.reshaped first) ended)

/-- Relaying out does not touch the answer to pane input. -/
theorem stable_reaction (reaction : PaneReaction) :
    Stable (fun _ => True) fun s => s.environment.reaction = reaction where
  sameCore core kept := core.reaction.trans kept
  refusals _ _ _ _ _ := trivial
  dropDrag kept := kept
  restoreDrag {s drag} kept _ := by
    rw [(sameControl_restoreDrag { s with pointerDrag := none } drag).environment]
    exact kept
  restoreModal {s} modal kept := by
    rw [(sameControl_restoreModal s modal).environment]
    exact kept
  erase kept _ _ _ _ := kept
  remove {s pane index} kept _ _ _ _ := by
    rw [(sameControl_removeFromTab { s with panes := s.panes.erase pane } index
      pane).environment]
    exact kept

end SessionActor

end Session
end Vvmux
