import Vvmux.Session.FocusRuns

/-!
# Zoom and focus agree

A zoomed pane is the focused pane of its tab, in every run that splits no zoomed
tab, zooms no pane outside its tab and spares the press-time copies. Splitting
is the one operation that moves the focus without looking at the zoom.
-/

namespace Vvmux
namespace Session

open Library
open Layout

namespace SessionActor

/-- A zoomed pane is a pane of the tab and the focused one. -/
def Coherent (tab : Tab) : Prop :=
  ∀ pane, tab.zoomed = some pane → pane ∈ tab.paneIds ∧ tab.focused = pane

variable {tab : Tab}

theorem coherent_of_unzoomed (unzoomed : tab.zoomed = none) : Coherent tab :=
  fun _ zoom => nomatch unzoomed.symm.trans zoom

theorem Coherent.similar
    {before after : Tab}
    (coherent : Coherent before)
    (same : Tab.Similar before after) : Coherent after := by
  intro pane zoom
  obtain ⟨present, focused⟩ := coherent pane (same.zoomed.symm.trans zoom)
  exact ⟨(same.samePanes.mem_iff pane).mpr present,
    same.focused.trans focused⟩

/-- Focusing keeps the agreement when it focuses the zoomed pane, if any. -/
theorem Coherent.setFocus
    (coherent : Coherent tab)
    {pane : PaneId}
    (focused : ∀ zoomed, tab.zoomed = some zoomed → pane = zoomed) :
    Coherent (tab.setFocus pane) := by
  intro zoomed zoom
  rw [Tab.setFocus_zoomed] at zoom
  refine ⟨?_, ?_⟩
  · rw [(Tab.samePanes_setFocus tab pane).mem_iff]
    exact (coherent zoomed zoom).1
  · rw [Tab.setFocus_focused]
    exact focused zoomed zoom

/-- No close separates zoom and focus: closing the zoomed pane ends the zoom, and
closing another pane leaves the focus alone. -/
theorem tabStable_coherent (closable : PaneId → Prop) :
    TabStable closable Coherent where
  similar same coherent := coherent.similar same
  remove {tab pane} coherent _ _ _ _ := by
    cases zoom : (tab.removePane pane).zoomed with
    | none =>
        apply coherent_of_unzoomed
        unfold Tab.refocus
        split_ifs
        · split
          · rw [Tab.setFocus_zoomed]
            exact zoom
          · exact zoom
        · exact zoom
    | some zoomed =>
        obtain ⟨old, different⟩ := Option.filter_eq_some_iff.mp zoom
        replace different : zoomed ≠ pane := by simpa using different
        obtain ⟨present, focused⟩ := coherent zoomed old
        have steady : (tab.removePane pane).refocus pane =
            tab.removePane pane := by
          unfold Tab.refocus
          exact if_neg fun lost : tab.focused = pane =>
            different (focused.symm.trans lost)
        rw [steady]
        intro other otherZoom
        rw [zoom, Option.some.injEq] at otherZoom
        subst otherZoom
        exact ⟨tab.mem_removePane different present, focused⟩

theorem coherent_focusInTab
    {pane : PaneId}
    (present : pane ∈ tab.paneIds) : Coherent (focusInTab pane tab) := by
  have base : ∀ between : Tab, between.paneIds = tab.paneIds →
      (∀ zoomed, between.zoomed = some zoomed → pane = zoomed) →
        Coherent (between.setFocus pane) := by
    intro between paneIds focused zoomed zoom
    rw [Tab.setFocus_zoomed] at zoom
    refine ⟨?_, ?_⟩
    · rw [(Tab.samePanes_setFocus between pane).mem_iff, paneIds,
        ← focused zoomed zoom]
      exact present
    · rw [Tab.setFocus_focused]
      exact focused zoomed zoom
  have stays : ∀ zoomed, tab.zoomed = some zoomed →
      ¬(tab.zoomed.any fun zoomed => zoomed != pane) = true → pane = zoomed := by
    intro zoomed zoom same
    rw [zoom, Option.any_some] at same
    have equal : zoomed = pane := by simpa using same
    exact equal.symm
  unfold focusInTab
  simp only
  split_ifs with ordinary foreign foreign
  · exact base _ rfl fun _ zoom => nomatch zoom
  · exact base _ rfl fun zoomed zoom => stays zoomed zoom foreign
  · exact base _ rfl fun _ zoom => nomatch zoom
  · exact base _ rfl fun zoomed zoom => stays zoomed zoom foreign

/-- The event neither splits a zoomed tab nor zooms a pane that is not in its
tab; a press that ends an edit mode meets no refusal. -/
def ZoomSpared (s : SessionActor) : ActorEvent → Prop
  | .client _ (.action (.split axis)) => ∀ u tab candidate,
      s.settle = some u → u.activeTab? = some tab →
        tab.focused ∉ tab.floating.paneIds →
          u.AcceptsSplit tab tab.focused axis candidate →
            u.environment.spawnError = none → tab.zoomed = none
  | .client _ (.action .toggleZoom) => ∀ u tab,
      s.settle = some u → u.activeTab? = some tab → tab.zoomed = none →
        tab.focused ∈ tab.paneIds
  | .client _ (.automation requested allowFocused (.split axis)) =>
      ∀ pane tab candidate,
        s.resolveAutomationPane requested allowFocused = .ok pane →
          s.tabs.find? (fun tab => tab.contains pane) = some tab →
            s.AcceptsSplit tab pane axis candidate →
              s.environment.spawnError = none → tab.zoomed = none
  | .client _ (.mouse event) => event.kind ≠ .move → event.kind ≠ .release →
      s.floatModal ≠ none → s.Granted
  | _ => True

section Permitted

variable {s : SessionActor}

/-- A press focuses the zoomed pane of a zoomed tab. -/
theorem ZoomSpared.press
    {id : Nat}
    {event : MouseEvent}
    (placed : Placed s)
    (copies : s.CopySpared (.client id (.mouse event)))
    (spared : s.ZoomSpared (.client id (.mouse event)))
    (coherent : ∀ tab ∈ s.tabs, Coherent tab) :
    EventPermitted (fun _ => True) Coherent Coherent s
      (.client id (.mouse event)) := by
  intro notMove notRelease u cancelled tab projection active hits
  have arrived : WellPlaced (fun _ => True) Coherent s :=
    ⟨placed, fun _ _ _ _ => trivial, coherent⟩
  obtain ⟨holds, calm, _⟩ := (WellPlaced.stable
    (tabStable_coherent _)).cancelPointerDrag arrived cancelled
  have projected := projected_of_hits hits
  have focused : ∀ zoomed, tab.zoomed = some zoomed →
      projection.paneId = zoomed := by
    intro zoomed zoom
    unfold Projected at projected
    rw [zoom] at projected
    exact projected
  refine ⟨fun v pressed => leaves_afterPress placed copies notMove notRelease
    cancelled active pressed, ?_, fun _ _ _ _ _ => trivial⟩
  intro v other pressed otherActive
  -- The active tab is the pressed one, up to borders and rectangles.
  have same : Tab.Similar tab other := by
    have unmoved : v = u → Tab.Similar tab other := by
      rintro rfl
      rw [active, Option.some.injEq] at otherActive
      exact otherActive ▸ Tab.Similar.refl tab
    unfold afterPress at pressed
    split_ifs at pressed
    · cases mode : u.floatModal with
      | none =>
          have ended : u.endFloatMode true = some u := by
            simp [endFloatMode, endFloatModeWith, mode]
          exact unmoved (Option.some.inj (ended.symm.trans pressed)).symm
      | some modal =>
          have active' : s.floatModal ≠ none := fun none => by
            rw [calm.modal none] at mode
            cases mode
          have granted := spared notMove notRelease active'
          have restored := granted.cancelPointerDrag placed cancelled
          have dropped : Granted { s with pointerDrag := none } := granted
          have reshaped :=
            Granted.endFloatMode (dropped.reshaped restored) pressed
          rw [activeTab?, reshaped.activeTab] at otherActive
          obtain ⟨old, found, moved⟩ :=
            exists_related_getElem? reshaped.tabs otherActive
          rw [show u.tabs[u.activeTab]? = some tab from active,
            Option.some.injEq] at found
          exact found ▸ moved
    · exact unmoved (Option.some.inj pressed).symm
  have tabCoherent := holds.tabs tab (List.mem_of_getElem? active)
  exact (tabCoherent.similar same).setFocus fun zoomed zoom =>
    focused zoomed (same.zoomed.symm.trans zoom)

/-- A spared event keeps zoom and focus together. -/
theorem ZoomSpared.permitted
    {event : ActorEvent}
    (placed : Placed s)
    (copies : s.CopySpared event)
    (spared : s.ZoomSpared event)
    (coherent : ∀ tab ∈ s.tabs, Coherent tab) :
    EventPermitted (fun _ => True) Coherent Coherent s event := by
  have arrived : WellPlaced (fun _ => True) Coherent s :=
    ⟨placed, fun _ _ _ _ => trivial, coherent⟩
  cases event with
  | client id message =>
      cases message with
      | attach replace display vivid => trivial
      | input => exact fun _ _ _ _ _ => trivial
      | mouse event => exact ZoomSpared.press placed copies spared coherent
      | resize display => trivial
      | action action =>
          intro u settled
          have holds := (keeps_settle (tabStable_coherent _) arrived settled).1
          cases action with
          | split axis =>
              intro tab candidate active tiled accepts granted
              apply coherent_of_unzoomed
              rw [splitTab_zoomed]
              exact spared u tab candidate settled active tiled accepts granted
          | focus direction =>
              intro tab pane active unzoomed _
              apply coherent_of_unzoomed
              rw [Tab.setFocus_zoomed]
              exact unzoomed
          | newTab => exact coherent_of_unzoomed rfl
          | closePane => exact fun _ _ => trivial
          | toggleZoom =>
              intro tab active pane zoom
              simp only at zoom
              split_ifs at zoom with zoomed
              rw [Option.some.injEq] at zoom
              subst zoom
              refine ⟨spared u tab settled active ?_, rfl⟩
              simpa using zoomed
          | newFloatingPane =>
              intro tab active unzoomed
              apply coherent_of_unzoomed
              rw [floatTab_zoomed]
              exact unzoomed
          | toggleFloatingPanes =>
              refine ⟨tabStable_coherent _, fun tab active unzoomed => ?_⟩
              apply coherent_of_unzoomed
              unfold toggleTabFloats
              simp only
              split_ifs
              · split
                · rw [Tab.setFocus_zoomed]
                  exact unzoomed
                · exact unzoomed
              · exact unzoomed
          | togglePanePinned =>
              exact fun tab pinned active unzoomed => coherent_of_unzoomed unzoomed
          | enterCopyMode | copyInput | paste => exact fun _ _ _ _ _ => trivial
          | resize direction | nextTab | previousTab | selectTab index
          | enterFloatingMoveMode | enterFloatingResizeMode => trivial
      | detach => trivial
      | floatingEdit modeId command => trivial
      | automation requested allowFocused method =>
          intro pane resolved
          cases method with
          | split axis =>
              intro tab candidate owner accepts granted
              refine ⟨copies pane tab candidate resolved owner accepts granted, ?_⟩
              apply coherent_of_unzoomed
              rw [splitTab_zoomed]
              exact spared pane tab candidate resolved owner accepts granted
          | focus =>
              intro tab owner
              have owns := List.find?_some owner
              exact coherent_focusInTab ((Tab.contains_iff tab pane).mp owns)
          | closePane => trivial
  | disconnected id => trivial
  | ptyOutput pane screenChanged answers => exact fun _ => trivial
  | ptyExit pane => trivial

end Permitted

/-- Guard of the runs that keep zoom and focus together. -/
def ZoomGuard (s : SessionActor) (event : Environment × ActorEvent) : Prop :=
  CopiesSpared s event ∧ { s with environment := event.1 }.ZoomSpared event.2

/-- Every pane has its place, and zoom and focus agree in every tab. -/
structure ZoomHeld (s : SessionActor) : Prop where
  placed : Placed s
  coherent : ∀ tab ∈ s.tabs, Coherent tab

theorem zoomHeld_of_reachable
    {s : SessionActor}
    (reachable : sessionMachine.Reachable ZoomGuard s) : ZoomHeld s := by
  refine reachable.invariant ?_ ?_
  · intro start initial
    refine ⟨placed_initial initial, ?_⟩
    obtain ⟨config, started⟩ := initial
    have opened := opened_newTab started
    intro tab present
    rw [opened.tabs] at present
    rw [List.mem_singleton.mp present]
    exact coherent_of_unzoomed rfl
  · intro before event after holds guard stepped
    have arrived : Placed { before with environment := event.1 } :=
      { holds.placed with }
    obtain ⟨placed, tabs⟩ := placed_sessionStep (tabStable_coherent _)
      (fun _ inside => inside) holds.placed holds.coherent
      (fun _ _ _ _ => trivial)
      (guard.2.permitted arrived guard.1 holds.coherent) stepped
    exact ⟨placed, tabs⟩

/-- In every spared run, a zoomed pane is the focused pane of its tab, and the
one projection of the tab is that pane with the focus. -/
theorem zoomed_pane_focused
    {s : SessionActor}
    (reachable : sessionMachine.Reachable ZoomGuard s)
    {tab : Tab}
    (member : tab ∈ s.tabs)
    {pane : PaneId}
    (zoom : tab.zoomed = some pane) :
    pane ∈ tab.paneIds ∧ tab.focused = pane ∧
      ∀ area, ∃ layer, tab.visibleProjections area =
        some [⟨pane, area, area.content, layer, true⟩] := by
  obtain ⟨present, focused⟩ :=
    (zoomHeld_of_reachable reachable).coherent tab member pane zoom
  refine ⟨present, focused, fun area => ?_⟩
  simp only [Tab.visibleProjections, zoom, focused, beq_self_eq_true]
  exact ⟨_, rfl⟩

/-- The plain session once a client has attached. -/
def attachedStart : SessionActor :=
  (runEvents plainStart
    [({}, .client 1 (.attach false ⟨80, 24, 0, 0⟩ false))]).getD plainStart

/-- The attached session with its pane zoomed. -/
def zoomedStart : SessionActor :=
  (runEvents attachedStart
    [({}, .client 1 (.action .toggleZoom))]).getD attachedStart

theorem reachable_zoomedStart : sessionMachine.Reachable ZoomGuard zoomedStart := by
  have attach : sessionStep plainStart
      ({}, .client 1 (.attach false ⟨80, 24, 0, 0⟩ false)) attachedStart :=
    ⟨by decide, by decide⟩
  have zoom : sessionStep attachedStart
      ({}, .client 1 (.action .toggleZoom)) zoomedStart :=
    ⟨by decide, by decide⟩
  have spared : attachedStart.settle.all fun u =>
      u.activeTab?.all fun tab => decide (tab.focused ∈ tab.paneIds) := by
    decide
  have attachGuard : ZoomGuard plainStart
      ({}, .client 1 (.attach false ⟨80, 24, 0, 0⟩ false)) :=
    ⟨trivial, trivial⟩
  have zoomGuard : ZoomGuard attachedStart
      ({}, .client 1 (.action .toggleZoom)) := by
    refine ⟨trivial, fun u tab settled active _ => ?_⟩
    have same : attachedStart.settle = some u := settled
    rw [same, Option.all_some, active, Option.all_some] at spared
    exact of_decide_eq_true spared
  exact .step (.step (.initial initial_plainStart) attachGuard attach) zoomGuard
    zoom

theorem zoomed_pane_focused_zoomedStart :
    ∃ tab ∈ zoomedStart.tabs, tab.zoomed = some 1 ∧
      (1 ∈ tab.paneIds ∧ tab.focused = 1 ∧
        ∀ area, ∃ layer, tab.visibleProjections area =
          some [⟨1, area, area.content, layer, true⟩]) := by
  have zoomed : ∃ tab ∈ zoomedStart.tabs, tab.zoomed = some 1 := by
    decide +kernel
  obtain ⟨tab, member, zoom⟩ := zoomed
  exact ⟨tab, member, zoom,
    zoomed_pane_focused reachable_zoomedStart member zoom⟩

/-- A client splits the first pane, zooms the new one and splits again. -/
def splitUnderZoom : List (Environment × ActorEvent) :=
  [({}, .client 1 (.attach false ⟨80, 24, 0, 0⟩ false)),
    ({}, .client 1 (.action (.split .vertical))),
    ({}, .client 1 (.action .toggleZoom)),
    ({}, .client 1 (.action (.split .horizontal)))]

/-- The zoom stays on the second pane while the third has the focus. -/
theorem splitUnderZoom_separates :
    ∃ s, sessionMachine.Reachable (fun _ _ => True) s ∧
      ∃ tab ∈ s.tabs, tab.zoomed = some 2 ∧ tab.focused = 3 := by
  have separated : (runEvents plainStart splitUnderZoom).any fun s =>
      decide (∃ tab ∈ s.tabs, tab.zoomed = some 2 ∧ tab.focused = 3) := by
    decide +kernel
  obtain ⟨s, result, holds⟩ := (Option.any_eq_true ..).mp separated
  exact ⟨s, reachable_runEvents (.initial initial_plainStart) result,
    of_decide_eq_true holds⟩

end SessionActor

end Session
end Vvmux
