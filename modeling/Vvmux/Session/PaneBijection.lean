import Vvmux.Session.Events

/-!
# Panes and places correspond

Every pane of a session has exactly one place in the layout and every place
holds a pane, in every run that avoids two events: an automation split of a tab
whose border is being dragged, and a press that ends an edit mode while a tiled
pane of the active tab refuses its size. In both the press-time copy of the tree
outlives a change of the panes, and restoring it loses or revives a pane.
-/

namespace Vvmux
namespace Session

open Library
open Layout

namespace SessionActor

/-- The press-time copy of a tree is not overtaken by the event. -/
def CopySpared (s : SessionActor) : ActorEvent → Prop
  | .client _ (.automation requested allowFocused (.split axis)) =>
      ∀ pane tab candidate,
        s.resolveAutomationPane requested allowFocused = .ok pane →
          s.tabs.find? (fun tab => tab.contains pane) = some tab →
            s.AcceptsSplit tab pane axis candidate →
              s.environment.spawnError = none →
                ∀ tabId axis boundary last original,
                  s.pointerDrag = some
                    (.tiledBoundary tabId axis boundary last original) →
                      tabId ≠ tab.id
  | .client _ (.mouse event) =>
      event.kind ≠ .move → event.kind ≠ .release → s.floatModal ≠ none →
        ∀ tab, s.activeTab? = some tab →
          ∀ answer ∈ s.environment.resizeRefusals,
            ∀ pane ∈ answer, pane ∉ tab.leaves
  | _ => True

/-- While an edit mode is active, no closable pane is a leaf of the active
tab. -/
structure ModeSpared (closable : PaneId → Prop) (s : SessionActor) : Prop where
  placed : WellPlaced closable (fun _ => True) s
  spared : s.floatModal ≠ none → ∀ tab, s.activeTab? = some tab →
    ∀ pane, closable pane → pane ∉ tab.leaves

theorem tabStable_true (closable : PaneId → Prop) :
    TabStable closable fun _ => True :=
  ⟨fun _ _ => trivial, fun _ _ _ _ _ => trivial⟩

variable {closable : PaneId → Prop}

theorem ModeSpared.reshape
    {s t : SessionActor}
    (spared : ModeSpared closable s)
    (reshaped : Reshaped s t)
    (modal : t.floatModal = none ∨ t.floatModal = s.floatModal) :
    ModeSpared closable t := by
  refine ⟨spared.placed.reshape (fun _ _ => trivial) reshaped, ?_⟩
  intro mode tab active pane closes leaf
  rcases modal with ended | same
  · exact mode ended
  · rw [activeTab?, reshaped.activeTab] at active
    obtain ⟨old, found, similar⟩ :=
      exists_related_getElem? reshaped.tabs active
    exact spared.spared (same ▸ mode) old found pane closes
      (similar.leaves.mem_iff.mp leaf)

/-- A close ends the edit mode before it removes a pane. -/
theorem ModeSpared.stable (closable : PaneId → Prop) :
    Stable closable (ModeSpared closable) where
  sameCore core spared := spared.reshape core.reshaped core.floatModal
  refusals spared := spared.placed.refusals
  dropDrag spared :=
    ⟨(WellPlaced.stable (tabStable_true closable)).dropDrag spared.placed,
      spared.spared⟩
  restoreDrag {s drag} spared dragged := by
    have rule := WellPlaced.stable (tabStable_true closable)
    have dropped : ModeSpared closable { s with pointerDrag := none } :=
      ⟨rule.dropDrag spared.placed, spared.spared⟩
    exact dropped.reshape (spared.placed.placed.restoreDrag dragged)
      (.inr (sameControl_restoreDrag _ drag).floatModal)
  restoreModal {s} modal spared :=
    spared.reshape (reshaped_restoreModal s modal)
      (.inr (sameControl_restoreModal s modal).floatModal)
  erase spared allowed idle noMode orphan :=
    ⟨(WellPlaced.stable (tabStable_true closable)).erase spared.placed allowed
      idle noMode orphan, fun mode => absurd noMode mode⟩
  remove {s pane index} spared allowed idle noMode owner :=
    ⟨(WellPlaced.stable (tabStable_true closable)).remove spared.placed allowed
      idle noMode owner, fun mode => absurd
        ((sameControl_removeFromTab { s with panes := s.panes.erase pane } index
          pane).floatModal.trans noMode) mode⟩

/-- Having given leaves survives the closes that spare them. -/
theorem tabStable_leaves
    {tabId : Nat}
    {leaves : List PaneId}
    (spared : ∀ pane, closable pane → pane ∉ leaves) :
    TabStable closable fun tab => tab.id = tabId → tab.leaves.Perm leaves where
  similar same kept named :=
    same.leaves.trans (kept (same.id.symm.trans named))
  remove {tab pane} kept _ allowed _ _ named := by
    have refocused := Tab.samePanes_refocus (tab.removePane pane) pane
    have sameId : (tab.removePane pane).id = tab.id := rfl
    have old := kept (sameId.symm.trans (refocused.id.symm.trans named))
    refine refocused.leaves.trans (List.Perm.trans (List.Perm.of_eq ?_) old)
    rw [Tab.leaves_removePane]
    split_ifs
    · rfl
    · rw [List.filter_eq_self]
      intro id leaf
      simpa using fun equal : id = pane =>
        spared pane allowed (old.mem_iff.mp (equal ▸ leaf))

/-- The press-time copy of the active tab is current when the focus moves. -/
theorem leaves_afterPress
    {s u v : SessionActor}
    {event : MouseEvent}
    {id : Nat}
    (placed : Placed s)
    (spared : s.CopySpared (.client id (.mouse event)))
    (notMove : event.kind ≠ .move)
    (notRelease : event.kind ≠ .release)
    (cancelled : s.cancelPointerDrag true = some u)
    {tab : Tab}
    (active : u.activeTab? = some tab)
    {projection : PaneProjection}
    (pressed : u.afterPress tab projection = some v) :
    ∀ other ∈ v.tabs, other.id = tab.id → other.leaves.Perm tab.leaves := by
  let closable : PaneId → Prop := fun pane =>
    ∃ answer ∈ s.environment.resizeRefusals, pane ∈ answer
  have arrived : WellPlaced closable (fun _ => True) s :=
    ⟨placed, fun answer remaining pane named => ⟨answer, remaining, named⟩,
      fun _ _ => trivial⟩
  obtain ⟨cancelledHolds, calm, _⟩ := (WellPlaced.stable
    (tabStable_true closable)).cancelPointerDrag arrived cancelled
  have member := List.mem_of_getElem? active
  have current : ∀ other ∈ u.tabs, other.id = tab.id →
      other.leaves.Perm tab.leaves := by
    intro other present named
    rw [cancelledHolds.placed.tab_unique present member named]
  unfold afterPress at pressed
  split_ifs at pressed with moved
  · cases mode : u.floatModal with
    | none =>
        have same : u.endFloatMode true = some u := by
          simp [endFloatMode, endFloatModeWith, mode]
        rw [same, Option.some.injEq] at pressed
        exact pressed ▸ current
    | some modal =>
        -- The mode was active before the drag was restored.
        have active' : s.floatModal ≠ none := fun ended => by
          rw [calm.modal ended] at mode
          exact nomatch mode
        have modeSpared : ModeSpared closable s :=
          ⟨arrived, fun _ other found pane ⟨answer, remaining, named⟩ =>
            spared notMove notRelease active' other found answer remaining pane
              named⟩
        have uSpared := ((ModeSpared.stable closable).cancelPointerDrag
          modeSpared cancelled).1
        have apart := uSpared.spared (by simp [mode]) tab active
        have withLeaves : WellPlaced closable
            (fun other => other.id = tab.id → other.leaves.Perm tab.leaves) u :=
          ⟨cancelledHolds.placed, cancelledHolds.refusals, current⟩
        exact ((WellPlaced.stable (tabStable_leaves apart)).endFloatMode
          withLeaves pressed).1.tabs
  · rw [Option.some.injEq] at pressed
    exact pressed ▸ current

variable {s : SessionActor}

/-- A spared event is permitted for the invariant of places alone. -/
theorem CopySpared.permitted
    {event : ActorEvent}
    (placed : Placed s)
    (spared : s.CopySpared event) :
    EventPermitted (fun _ => True) (fun _ => True) (fun _ => True) s event := by
  cases event with
  | client id message =>
      cases message with
      | attach replace display vivid => trivial
      | input => exact fun _ _ _ _ _ => trivial
      | mouse event =>
          intro notMove notRelease u cancelled tab projection active _
          exact ⟨fun v pressed => leaves_afterPress placed spared notMove
            notRelease cancelled active pressed, fun _ _ _ _ => trivial,
            fun _ _ _ _ _ => trivial⟩
      | resize display => trivial
      | action action =>
          intro u _
          cases action <;>
            simp [ActionPermitted, InputPermitted, tabStable_true]
      | detach => trivial
      | floatingEdit modeId command => trivial
      | automation requested allowFocused method =>
          intro pane resolved
          cases method with
          | split axis =>
              intro tab candidate owner accepts granted
              exact ⟨spared pane tab candidate resolved owner accepts granted,
                trivial⟩
          | focus => exact fun _ _ => trivial
          | closePane => trivial
  | disconnected id => trivial
  | ptyOutput pane screenChanged answers => exact fun _ => trivial
  | ptyExit pane => trivial

theorem placed_unstarted (config : Config) : Placed (unstarted config) := by
  refine ⟨?_, ?_, ?_, ?_, ?_, ?_, ?_⟩ <;>
    simp [layout, DragCurrent, unstarted]

theorem placed_initial (initial : sessionMachine.initial s) : Placed s := by
  obtain ⟨config, started⟩ := initial
  have opened := opened_newTab started
  refine (placed_unstarted config).addTab opened.tabs rfl rfl opened.panes
    opened.nextPaneId opened.nextTabId ?_ opened.pointerDrag
  rw [opened.tabs, opened.activeTab]
  exact Nat.zero_lt_one

/-- Guard of the runs in which no press-time copy is overtaken. -/
def CopiesSpared (s : SessionActor) (event : Environment × ActorEvent) : Prop :=
  { s with environment := event.1 }.CopySpared event.2

theorem placed_of_reachable
    (reachable : sessionMachine.Reachable CopiesSpared s) : Placed s := by
  refine reachable.invariant (fun start => placed_initial) ?_
  intro before event after placed spared stepped
  have arrived : Placed { before with environment := event.1 } :=
    { placed with }
  exact (placed_sessionStep (tabStable_true _) (fun _ _ => trivial) placed
    (fun _ _ => trivial) (fun _ _ _ _ => trivial)
    (CopySpared.permitted arrived spared) stepped).1

/-- A status row, floats of half the area and a border margin of two cells. -/
def plainConfig : Config := ⟨true, 50, 50, 2⟩

/-- The first state of a plain session. -/
def plainStart : SessionActor :=
  { unstarted plainConfig with
    panes := OrderedMap.empty.insert 1 ⟨22, 80⟩
    tabs := [freshTab 1 1]
    nextPaneId := 2
    nextTabId := 2
    pendingRender := true }

theorem initial_plainStart : sessionMachine.initial plainStart :=
  ⟨plainConfig, rfl⟩

/-- A client on a host of 80 by 24 cells splits the first pane, presses the
border, and an automation client splits the first pane again before the next
key. -/
def splitUnderDrag : List (Environment × ActorEvent) :=
  [({}, .client 1 (.attach false ⟨80, 24, 0, 0⟩ false)),
    ({}, .client 1 (.action (.split .vertical))),
    ({}, .client 1 (.mouse ⟨0, 39, 5, .press, false⟩)),
    ({}, .client 2 (.automation (some 1) false (.split .horizontal))),
    ({}, .client 1 (.action .nextTab))]

end SessionActor

end Session
end Vvmux
