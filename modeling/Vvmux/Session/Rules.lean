import Vvmux.Session.Placement

/-!
# Rules for the operations

Each operation of the actor keeps every pane in its place, and a predicate of
single tabs as far as the tabs it rewrites satisfy the predicate afterwards. The
hypotheses named `permitted` say what has to be known of a rewritten tab; an
instance of the rules chooses the predicate and discharges them.
-/

namespace Vvmux
namespace Session

open Library
open Layout

namespace SessionActor

/-! ## Rewrites of single tabs -/

theorem samePanes_toggleTabFloats (tab : Tab) :
    Tab.SamePanes tab (toggleTabFloats tab) := by
  have flipped : Tab.SamePanes tab { tab with
      floating := { tab.floating with
        ordinaryVisible := !tab.floating.ordinaryVisible } } :=
    ⟨rfl, List.Perm.refl _, List.Perm.refl _⟩
  unfold toggleTabFloats
  simp only
  split_ifs
  · split
    · exact flipped.trans (Tab.samePanes_setFocus _ _)
    · exact flipped
  · exact flipped

theorem samePanes_setPinned (tab : Tab) (pane : PaneId) (pinned : Bool) :
    Tab.SamePanes tab
      { tab with floating := tab.floating.setPinned pane pinned } :=
  ⟨rfl, List.Perm.refl _, (tab.floating.perm_paneIds_setPinned pane pinned).1⟩

theorem samePanes_focusInTab (pane : PaneId) (tab : Tab) :
    Tab.SamePanes tab (focusInTab pane tab) := by
  unfold focusInTab
  refine Tab.SamePanes.trans ?_ (Tab.samePanes_setFocus _ pane)
  split_ifs <;> exact ⟨rfl, List.Perm.refl _, List.Perm.refl _⟩

/-- A tab with a split leaf, focused on the new pane. -/
def splitTab (candidate : TiledNode) (newPane : PaneId) (tab : Tab) : Tab :=
  { tab with tree := some candidate }.setFocus newPane

@[simp] theorem splitTab_focused
    (candidate : TiledNode)
    (newPane : PaneId)
    (tab : Tab) : (splitTab candidate newPane tab).focused = newPane :=
  Tab.setFocus_focused _ newPane

@[simp] theorem splitTab_zoomed
    (candidate : TiledNode)
    (newPane : PaneId)
    (tab : Tab) : (splitTab candidate newPane tab).zoomed = tab.zoomed :=
  Tab.setFocus_zoomed _ newPane

/-- A split of a leaf of the tab is accepted with the given tree. -/
def AcceptsSplit
    (s : SessionActor)
    (tab : Tab)
    (pane : PaneId)
    (axis : Axis)
    (candidate : TiledNode) : Prop :=
  ∃ tree, tab.tree = some tree ∧
    tree.splitPane pane s.nextPaneId axis s.contentArea =
      some (.ok candidate)

variable {candidate : TiledNode}

theorem perm_paneIds_splitTab
    {s : SessionActor}
    {tab : Tab}
    {pane : PaneId}
    {axis : Axis}
    (accepts : s.AcceptsSplit tab pane axis candidate) :
    (splitTab candidate s.nextPaneId tab).paneIds.Perm
      (s.nextPaneId :: tab.paneIds) := by
  obtain ⟨tree, treeEq, accepted⟩ := accepts
  have grown := TiledNode.perm_paneIds_splitPane accepted
  refine (Tab.samePanes_setFocus _ s.nextPaneId).perm.trans ?_
  rw [Tab.paneIds, Tab.paneIds, Tab.leaves_eq_paneIds treeEq]
  exact grown.append_right _

/-- A tab with a new ordinary float, focused on it. -/
def floatTab (s : SessionActor) (newPane : PaneId) (tab : Tab) : Tab :=
  { tab with
    floating := tab.floating.insert newPane s.contentArea
      s.config.defaultWidthPercent
      s.config.defaultHeightPercent }.setFocus newPane

section

variable (s : SessionActor) (newPane : PaneId)

@[simp] theorem floatTab_focused
    (tab : Tab) : (s.floatTab newPane tab).focused = newPane :=
  Tab.setFocus_focused _ newPane

@[simp] theorem floatTab_zoomed
    (tab : Tab) : (s.floatTab newPane tab).zoomed = tab.zoomed :=
  Tab.setFocus_zoomed _ newPane

theorem perm_paneIds_floatTab
    (tab : Tab) :
    (s.floatTab newPane tab).paneIds.Perm (newPane :: tab.paneIds) := by
  have inserted := tab.floating.perm_paneIds_insert newPane s.contentArea
    s.config.defaultWidthPercent s.config.defaultHeightPercent
  refine (Tab.samePanes_setFocus _ newPane).perm.trans ?_
  exact (inserted.append_left tab.leaves).trans List.perm_middle

end

theorem spawnPane_eq_ok
    {s t : SessionActor}
    {pane : PaneId}
    (spawned : s.spawnPane pane = .ok t) :
    t = { s with panes := s.panes.insert pane ⟨22, 80⟩ } ∧
      s.environment.spawnError = none := by
  unfold spawnPane at spawned
  split at spawned
  · exact nomatch spawned
  · rename_i granted
    exact ⟨(Except.ok.inj spawned).symm, granted⟩

section Rules

variable {closable : PaneId → Prop}
variable {perTab next : Tab → Prop}
variable {s t : SessionActor}

variable {tab : Tab} {pane : PaneId} {axis : Axis} {event : MouseEvent}

/-- A pane spawned into the tab at an index, by a split. -/
theorem WellPlaced.splitTab
    (holds : WellPlaced closable perTab s)
    {index : Nat}
    (found : s.tabs[index]? = some tab)
    (accepts : s.AcceptsSplit tab pane axis candidate)
    (undragged : ∀ tabId axis boundary last original,
      s.pointerDrag = some (.tiledBoundary tabId axis boundary last original) →
        tabId ≠ tab.id)
    (permitted : perTab (SessionActor.splitTab candidate s.nextPaneId tab)) :
    WellPlaced closable perTab
      ({ s with
        panes := s.panes.insert s.nextPaneId ⟨22, 80⟩
        nextPaneId := s.nextPaneId + 1 }.modifyTab index
          (SessionActor.splitTab candidate s.nextPaneId)) := by
  have sameId : (SessionActor.splitTab candidate s.nextPaneId tab).id = tab.id :=
    (Tab.samePanes_setFocus _ _).id
  refine ⟨holds.placed.grow found rfl sameId (perm_paneIds_splitTab accepts)
    (fun id => s.panes.mem_insert _ _ id) rfl rfl rfl ?_, holds.refusals, ?_⟩
  · intro tabId axis boundary last original dragged other present named
    rcases mem_modify_cases present with old | ⟨old, oldFound, rfl⟩
    · exact holds.placed.drag tabId axis boundary last original dragged other old
        named
    · rw [found, Option.some.injEq] at oldFound
      subst oldFound
      rw [sameId] at named
      exact absurd named.symm (undragged _ _ _ _ _ dragged)
  · intro other present
    rcases mem_modify_cases present with old | ⟨old, oldFound, rfl⟩
    · exact holds.tabs other old
    · rw [found, Option.some.injEq] at oldFound
      subst oldFound
      exact permitted

/-- A pane spawned into the tab at an index, as a float. -/
theorem WellPlaced.floatTab
    (holds : WellPlaced closable perTab s)
    {index : Nat}
    (found : s.tabs[index]? = some tab)
    (permitted : perTab (s.floatTab s.nextPaneId tab)) :
    WellPlaced closable perTab
      ({ s with
        panes := s.panes.insert s.nextPaneId ⟨22, 80⟩
        nextPaneId := s.nextPaneId + 1 }.modifyTab index
          (s.floatTab s.nextPaneId)) := by
  have sameId : (s.floatTab s.nextPaneId tab).id = tab.id :=
    (Tab.samePanes_setFocus _ _).id
  have leaves : (s.floatTab s.nextPaneId tab).leaves = tab.leaves :=
    Tab.setFocus_leaves _ _
  refine ⟨holds.placed.grow found rfl sameId (s.perm_paneIds_floatTab _ tab)
    (fun id => s.panes.mem_insert _ _ id) rfl rfl rfl ?_, holds.refusals, ?_⟩
  · intro tabId axis boundary last original dragged other present named
    have current := holds.placed.drag tabId axis boundary last original dragged
    rcases mem_modify_cases present with old | ⟨old, oldFound, rfl⟩
    · exact current other old named
    · rw [found, Option.some.injEq] at oldFound
      subst oldFound
      rw [leaves]
      exact current tab (List.mem_of_getElem? found) (sameId.symm.trans named)
  · intro other present
    rcases mem_modify_cases present with old | ⟨old, oldFound, rfl⟩
    · exact holds.tabs other old
    · rw [found, Option.some.injEq] at oldFound
      subst oldFound
      exact permitted

/-- A session without tabs stays without tabs while it relays out. -/
theorem stable_noTabs : Stable (fun _ => True) fun s => s.tabs = [] where
  sameCore core none := core.tabs.trans none
  refusals _ _ _ _ _ := trivial
  dropDrag none := none
  restoreDrag {s drag} none _ := by
    simp [SessionActor.restoreDrag, none]
  restoreModal {s} modal none := by
    simp [SessionActor.restoreModal, none]
  erase none _ _ _ _ := none
  remove {s pane index} none _ _ _ owner := by
    simp [none] at owner

/-- Splitting the focused pane. -/
theorem keeps_split
    (rule : TabStable closable perTab)
    (holds : WellPlaced closable perTab s)
    (idle : s.pointerDrag = none)
    (permitted : ∀ tab candidate, s.activeTab? = some tab →
      tab.focused ∉ tab.floating.paneIds →
        s.AcceptsSplit tab tab.focused axis candidate →
          s.environment.spawnError = none →
            perTab (SessionActor.splitTab candidate s.nextPaneId tab))
    (result : s.split axis = some t) : WellPlaced closable perTab t := by
  have told : ∀ message, WellPlaced closable perTab (s.status message) :=
    fun message => holds.core (sameCore_notify s _)
  unfold split at result
  cases active : s.activeTab? with
  | none =>
      simp only [active, Option.some.injEq] at result
      exact result ▸ holds
  | some tab =>
      cases treeEq : tab.tree with
      | none =>
          simp only [active, treeEq, Option.some.injEq] at result
          exact result ▸ told _
      | some tree =>
          simp only [active, treeEq] at result
          split_ifs at result with floats
          · rw [Option.some.injEq] at result
            exact result ▸ told _
          · simp only [Option.bind_eq_bind, Option.bind_eq_some_iff] at result
            obtain ⟨outcome, accepted, result⟩ := result
            cases outcome with
            | error refused =>
                simp only [Option.some.injEq] at result
                exact result ▸ told _
            | ok candidate =>
                simp only at result
                cases spawned : s.spawnPane s.nextPaneId with
                | error message =>
                    simp only [spawned, Option.some.injEq] at result
                    exact result ▸ told _
                | ok grown =>
                    obtain ⟨grownEq, granted⟩ := spawnPane_eq_ok spawned
                    simp only [spawned, grownEq] at result
                    rw [FloatingLayer.contains_iff] at floats
                    have accepts : s.AcceptsSplit tab tab.focused axis candidate :=
                      ⟨tree, treeEq, accepted⟩
                    have grownHolds := holds.splitTab active accepts
                      (fun _ _ _ _ _ dragged => by simp [idle] at dragged)
                      (permitted tab candidate active floats accepts granted)
                    exact ((WellPlaced.stable rule).relayout _ t grownHolds
                      result).1

/-- Splitting a pane on behalf of an automation client. -/
theorem keeps_automationSplit
    (rule : TabStable closable perTab)
    (holds : WellPlaced closable perTab s)
    {reply : Except AutomationError SplitReply}
    (undragged : ∀ tab candidate,
      s.tabs.find? (fun tab => tab.contains pane) = some tab →
        s.AcceptsSplit tab pane axis candidate → s.environment.spawnError = none →
          ∀ tabId axis boundary last original,
            s.pointerDrag =
              some (.tiledBoundary tabId axis boundary last original) →
                tabId ≠ tab.id)
    (permitted : ∀ tab candidate,
      s.tabs.find? (fun tab => tab.contains pane) = some tab →
        s.AcceptsSplit tab pane axis candidate → s.environment.spawnError = none →
          perTab (SessionActor.splitTab candidate s.nextPaneId tab))
    (result : s.automationSplit pane axis = some (t, reply)) :
    WellPlaced closable perTab t := by
  unfold automationSplit at result
  cases position : s.tabs.findIdx? fun tab => tab.contains pane with
  | none =>
      simp only [position, Option.some.injEq, Prod.mk.injEq] at result
      exact result.1 ▸ holds
  | some index =>
      obtain ⟨tab, found, owner⟩ := find?_of_findIdx? position
      cases treeEq : tab.tree with
      | none =>
          simp only [position, found, treeEq, Option.some.injEq,
            Prod.mk.injEq] at result
          exact result.1 ▸ holds
      | some tree =>
          simp only [position, found, treeEq] at result
          split_ifs at result with floats
          · simp only [Option.some.injEq, Prod.mk.injEq] at result
            exact result.1 ▸ holds
          · simp only [Option.bind_eq_bind, Option.bind_eq_some_iff] at result
            obtain ⟨outcome, accepted, result⟩ := result
            cases outcome with
            | error refused =>
                simp only [Option.some.injEq, Prod.mk.injEq] at result
                exact result.1 ▸ holds
            | ok candidate =>
                simp only at result
                cases spawned : s.spawnPane s.nextPaneId with
                | error message =>
                    simp only [spawned, Option.some.injEq, Prod.mk.injEq] at result
                    exact result.1 ▸ holds
                | ok grown =>
                    obtain ⟨grownEq, granted⟩ := spawnPane_eq_ok spawned
                    simp only [spawned, grownEq,
                      Option.bind_eq_bind, Option.bind_eq_some_iff,
                      Option.pure_def, Option.some.injEq, Prod.mk.injEq] at result
                    obtain ⟨relaid, relayout, rfl, _⟩ := result
                    have accepts : s.AcceptsSplit tab pane axis candidate :=
                      ⟨tree, treeEq, accepted⟩
                    have grownHolds := holds.splitTab found accepts
                      (undragged tab candidate owner accepts granted)
                      (permitted tab candidate owner accepts granted)
                    exact ((WellPlaced.stable rule).relayoutFull _ relaid
                      grownHolds relayout).1

variable {direction : Direction}

/-- Focusing the neighbour of the focused pane. -/
theorem keeps_focus
    (holds : WellPlaced closable perTab s)
    (implies : ∀ tab, perTab tab → next tab)
    (permitted : ∀ tab pane, s.activeTab? = some tab → tab.zoomed = none →
      pane ∈ tab.paneIds → next (tab.setFocus pane))
    (result : s.focus direction = some t) : WellPlaced closable next t := by
  unfold focus at result
  cases active : s.activeTab? with
  | none =>
      simp only [active, Option.some.injEq] at result
      exact result ▸ holds.weaken implies
  | some tab =>
      simp only [active] at result
      split_ifs at result with zoom
      · rw [Option.some.injEq] at result
        exact result ▸ holds.weaken implies
      · rw [Bool.not_eq_true, Option.isSome_eq_false_iff,
          Option.isNone_iff_eq_none] at zoom
        simp only [Option.bind_eq_bind, Option.bind_eq_some_iff] at result
        obtain ⟨projections, projected, result⟩ := result
        cases neighbour : directionalFocus projections tab.focused direction with
        | none =>
            simp only [neighbour, Option.some.injEq] at result
            exact result ▸ holds.weaken implies
        | some pane =>
            simp only [neighbour, Option.some.injEq] at result
            obtain ⟨projection, present, rfl⟩ :=
              List.mem_map.mp (directionalFocus_mem neighbour)
            have inside := Tab.mem_visibleProjections projected
              (fun zoomed zoomEq => by simp [zoom] at zoomEq) present
            have focused := holds.rewriteFound implies active
              (fun tab => tab.setFocus projection.paneId)
              (Tab.samePanes_setFocus tab projection.paneId)
              (permitted tab _ active zoom inside)
            rw [← result]
            exact focused.core
              ⟨rfl, rfl, fun _ => Iff.rfl, rfl, .inr rfl, rfl, rfl,
                List.suffix_rfl, rfl⟩

/-- Resizing the focused pane from the keyboard. -/
theorem keeps_resize
    (rule : TabStable closable perTab)
    (holds : WellPlaced closable perTab s)
    (result : s.resize direction = some t) : WellPlaced closable perTab t := by
  unfold resize at result
  cases active : s.activeTab? with
  | none =>
      simp only [active, Option.some.injEq] at result
      exact result ▸ holds
  | some tab =>
      simp only [active] at result
      split_ifs at result with zoom floats
      · rw [Option.some.injEq] at result
        exact result ▸ holds
      · rw [Option.some.injEq] at result
        exact result ▸ holds.core (sameCore_notify s _)
      · cases treeEq : tab.tree with
        | none =>
            simp only [treeEq, Option.some.injEq] at result
            exact result ▸ holds
        | some tree =>
            simp only [treeEq, Option.bind_eq_bind,
              Option.bind_eq_some_iff] at result
            obtain ⟨⟨resized, changed⟩, resizedEq, result⟩ := result
            have leaves := TiledNode.paneIds_resize resizedEq
            have resizedHolds := holds.reshapeFound rule.similar active
              (fun tab => { tab with tree := some resized })
              (Tab.similar_tree tab (by
                rw [leaves, Tab.leaves_eq_paneIds treeEq]))
            simp only at result
            split_ifs at result
            · exact ((WellPlaced.stable rule).relayout _ t resizedHolds result).1
            · rw [Option.some.injEq] at result
              exact result ▸ resizedHolds

/-- A session with one more tab. -/
structure Opened (s t : SessionActor) : Prop where
  tabs : t.tabs = s.tabs ++ [freshTab s.nextTabId s.nextPaneId]
  panes : ∀ id, id ∈ t.panes ↔ id = s.nextPaneId ∨ id ∈ s.panes
  nextPaneId : t.nextPaneId = s.nextPaneId + 1
  nextTabId : t.nextTabId = s.nextTabId + 1
  activeTab : t.activeTab = s.activeTab
  pointerDrag : t.pointerDrag = s.pointerDrag
  environment : t.environment = s.environment

theorem opened_newTab (opened : s.newTab = .ok t) : Opened s t := by
  unfold newTab at opened
  cases spawned : s.spawnPane s.nextPaneId with
  | error message =>
      rw [spawned] at opened
      exact nomatch opened
  | ok grown =>
      rw [spawned] at opened
      obtain ⟨rfl, _⟩ := spawnPane_eq_ok spawned
      rw [← Except.ok.inj opened]
      exact ⟨rfl, fun id => s.panes.mem_insert _ _ id, rfl, rfl, rfl, rfl, rfl⟩

/-- Opening a tab. -/
theorem keeps_newTab
    (rule : TabStable closable perTab)
    (holds : WellPlaced closable perTab s)
    (idle : s.pointerDrag = none)
    (permitted : perTab (freshTab s.nextTabId s.nextPaneId))
    (result : s.runAction .newTab = some t) : WellPlaced closable perTab t := by
  unfold runAction at result
  cases spawned : s.newTab with
  | error message =>
      simp only [spawned, Option.some.injEq] at result
      exact result ▸ holds
  | ok grown =>
      simp only [spawned] at result
      have opened := opened_newTab spawned
      have length : grown.tabs.length = s.tabs.length + 1 := by
        simp [opened.tabs]
      have placed : Placed { grown with
          activeTab := grown.tabs.length - 1 } := by
        refine holds.placed.addTab opened.tabs rfl rfl opened.panes
          opened.nextPaneId opened.nextTabId ?_ (opened.pointerDrag.trans idle)
        show grown.tabs.length - 1 < grown.tabs.length
        omega
      refine ((WellPlaced.stable rule).relayout _ t ⟨placed, ?_, ?_⟩ result).1
      · show ∀ answer ∈ grown.environment.resizeRefusals, _
        rw [opened.environment]
        exact holds.refusals
      · intro tab present
        replace present : tab ∈ grown.tabs := present
        rw [opened.tabs] at present
        rcases List.mem_append.mp present with old | new
        · exact holds.tabs tab old
        · rw [List.mem_singleton.mp new]
          exact permitted

/-- Opening a float; without any tab the new pane has no place, and the session
ends. -/
theorem keeps_newFloat
    (rule : TabStable closable perTab)
    (holds : WellPlaced closable perTab s)
    (permitted : ∀ tab, s.activeTab? = some tab → tab.zoomed = none →
      perTab (s.floatTab s.nextPaneId tab))
    (result : s.newFloat = some t) :
    t.tabs = [] ∨ WellPlaced closable perTab t := by
  have told : ∀ message, WellPlaced closable perTab (s.status message) :=
    fun message => holds.core (sameCore_notify s _)
  unfold newFloat at result
  split_ifs at result with zoom
  · rw [Option.some.injEq] at result
    exact .inr (result ▸ told _)
  · cases spawned : s.spawnPane s.nextPaneId with
    | error message =>
        simp only [spawned, Option.some.injEq] at result
        exact .inr (result ▸ told _)
    | ok grown =>
        simp only [spawned, (spawnPane_eq_ok spawned).1] at result
        cases active : s.activeTab? with
        | none =>
            left
            have none : s.tabs = [] := by
              by_contra someTab
              have inside := holds.placed.active someTab
              exact absurd (List.getElem?_eq_none_iff.mp active) (by omega)
            refine (stable_noTabs.relayoutFull _ t ?_ result).1
            show s.tabs.modify _ _ = []
            rw [none]
            exact List.modify_nil ..
        | some tab =>
            right
            have zoomEq : tab.zoomed = none := by
              simpa [active] using zoom
            exact ((WellPlaced.stable rule).relayoutFull _ t
              (holds.floatTab active (permitted tab active zoomEq)) result).1

/-- Showing or hiding the ordinary floats. -/
theorem keeps_toggleFloats
    (rule : TabStable closable next)
    (holds : WellPlaced closable perTab s)
    (implies : ∀ tab, perTab tab → next tab)
    (permitted : ∀ tab, s.activeTab? = some tab → tab.zoomed = none →
      next (toggleTabFloats tab))
    (result : s.toggleFloats = some t) : WellPlaced closable next t := by
  have told : ∀ message, WellPlaced closable next (s.status message) :=
    fun message => (holds.weaken implies).core (sameCore_notify s _)
  unfold toggleFloats at result
  cases active : s.activeTab? with
  | none =>
      simp only [active, Option.any_none, Option.all_none, if_true,
        Bool.false_eq_true, if_false, Option.some.injEq] at result
      exact result ▸ told _
  | some tab =>
      simp only [active, Option.any_some, Option.all_some] at result
      split_ifs at result with zoom vacant
      · rw [Option.some.injEq] at result
        exact result ▸ told _
      · rw [Option.some.injEq] at result
        exact result ▸ told _
      · have zoomEq : tab.zoomed = none := by simpa using zoom
        have toggled := holds.rewriteFound implies active
          toggleTabFloats (samePanes_toggleTabFloats tab)
          (permitted tab active zoomEq)
        exact ((WellPlaced.stable rule).relayoutFull _ t toggled result).1

/-- Pinning or unpinning the focused float. -/
theorem keeps_togglePin
    (holds : WellPlaced closable perTab s)
    (implies : ∀ tab, perTab tab → next tab)
    (permitted : ∀ tab pinned, s.activeTab? = some tab → tab.zoomed = none →
      next { tab with
        floating := tab.floating.setPinned tab.focused pinned }) :
    WellPlaced closable next s.togglePin := by
  have told : ∀ message, WellPlaced closable next (s.status message) :=
    fun message => (holds.weaken implies).core (sameCore_notify s _)
  unfold togglePin
  cases active : s.activeTab? with
  | none => exact holds.weaken implies
  | some tab =>
      simp only
      split_ifs with zoom
      · exact told _
      · have zoomEq : tab.zoomed = none := by simpa using zoom
        cases found : tab.floating.get tab.focused with
        | none => exact told _
        | some float =>
            have pinned := holds.rewriteFound implies active
              (fun tab => { tab with
                floating := tab.floating.setPinned tab.focused !float.pinned })
              (samePanes_setPinned tab _ _)
              (permitted tab _ active zoomEq)
            exact pinned.core ⟨rfl, rfl, fun _ => Iff.rfl, rfl, .inr rfl, rfl, rfl,
              List.suffix_rfl, rfl⟩

/-- Zooming the focused pane or leaving the zoom. -/
theorem keeps_toggleZoom
    (rule : TabStable closable perTab)
    (holds : WellPlaced closable perTab s)
    (permitted : ∀ tab, s.activeTab? = some tab →
      perTab { tab with
        zoomed := if tab.zoomed.isSome then none else some tab.focused })
    (result : s.toggleZoom = some t) : WellPlaced closable perTab t := by
  unfold toggleZoom at result
  cases active : s.activeTab? with
  | none =>
      simp only [active, Option.some.injEq] at result
      exact result ▸ holds
  | some tab =>
      simp only [active] at result
      have zoomed := holds.rewriteFound (fun _ inside => inside) active
        (fun tab => { tab with
          zoomed := if tab.zoomed.isSome then none else some tab.focused })
        ⟨rfl, List.Perm.refl _, List.Perm.refl _⟩ (permitted tab active)
      exact ((WellPlaced.stable rule).relayoutFull _ t zoomed result).1

/-- The edit mode concerns no tab. -/
theorem WellPlaced.setModal
    (holds : WellPlaced closable perTab s)
    (modal : Option FloatModal)
    (nextFloatMode : Nat) :
    WellPlaced closable perTab
      { s with nextFloatMode, floatModal := modal } :=
  ⟨{ holds.placed with }, holds.refusals, holds.tabs⟩

theorem keeps_enterFloatMode
    (holds : WellPlaced closable perTab s)
    (kind : FloatingEditKind) :
    WellPlaced closable perTab (s.enterFloatMode kind) := by
  have told : ∀ message, WellPlaced closable perTab (s.status message) :=
    fun message => holds.core (sameCore_notify s _)
  unfold enterFloatMode
  cases active : s.activeTab? with
  | none => exact holds
  | some tab =>
      simp only
      by_cases zoom : tab.zoomed.isSome = true
      · rw [if_pos zoom]
        exact told _
      · rw [if_neg zoom]
        cases found : tab.floating.get tab.focused with
        | none => exact told _
        | some float =>
            simp only
            split_ifs
            · exact (holds.setModal _ _).core (sameCore_notify _ _)
            · exact told _

/-- Writing an edited layer with the same classes back into the active tab. -/
theorem keeps_editedFloats
    (rule : TabStable closable perTab)
    (holds : WellPlaced closable perTab s)
    (active : s.activeTab? = some tab)
    {edited : FloatingLayer × Bool}
    (kept : edited.1.classes = tab.floating.classes ∧
      edited.1.ordinaryVisible = tab.floating.ordinaryVisible)
    (result : (if edited.2 then
        (s.modifyActiveTab fun tab =>
          { tab with floating := edited.1 }).relayoutFull
      else some (s.modifyActiveTab fun tab =>
        { tab with floating := edited.1 })) = some t) :
    WellPlaced closable perTab t := by
  have editedHolds := holds.reshapeFound rule.similar active
    (fun tab => { tab with floating := edited.1 })
    (Tab.similar_floating tab kept)
  split_ifs at result
  · exact ((WellPlaced.stable rule).relayoutFull _ t editedHolds result).1
  · rw [Option.some.injEq] at result
    exact result ▸ editedHolds

/-- One command of an edit mode. -/
theorem keeps_floatEdit
    (rule : TabStable closable perTab)
    (holds : WellPlaced closable perTab s)
    {modeId : Nat}
    {command : FloatingEditCommand}
    (result : s.floatEdit modeId command = some t) :
    WellPlaced closable perTab t := by
  have stable := WellPlaced.stable rule
  unfold floatEdit at result
  cases mode : s.floatModal with
  | none =>
      simp only [mode, Option.some.injEq] at result
      exact result ▸ holds
  | some modal =>
      simp only [mode] at result
      split_ifs at result with stale
      · rw [Option.some.injEq] at result
        exact result ▸ holds
      · cases command with
        | commit | cancel => exact (stable.endFloatMode holds result).1
        | step direction cells =>
            simp only at result
            split_ifs at result with odd
            · exact (stable.endFloatMode holds result).1
            · cases active : s.activeTab? with
              | none =>
                  simp only [active, Option.some.injEq] at result
                  exact result ▸ holds
              | some tab =>
                  simp only [active] at result
                  cases kind : modal.kind with
                  | move | resize =>
                      simp only [kind] at result
                      exact keeps_editedFloats rule holds active
                        (tab.floating.classes_updateRect _ _ _) result

/-! ## Border drags -/

section

variable
    (similar : ∀ {before after}, Tab.Similar before after → perTab before → perTab after)
include similar

theorem keeps_resizeBoundary
    (holds : WellPlaced closable perTab s)
    {axis : Axis}
    {boundary : Nat}
    {positive moved : Bool}
    (result : s.resizeBoundary axis boundary positive = some (t, moved)) :
    WellPlaced closable perTab t := by
  unfold resizeBoundary at result
  cases active : s.activeTab? with
  | none =>
      simp only [active, Option.some.injEq, Prod.mk.injEq] at result
      exact result.1 ▸ holds
  | some tab =>
      cases treeEq : tab.tree with
      | none =>
          simp only [active, treeEq, Option.some.injEq, Prod.mk.injEq] at result
          exact result.1 ▸ holds
      | some tree =>
          simp only [active, treeEq, Option.bind_eq_bind,
            Option.bind_eq_some_iff] at result
          obtain ⟨geometry, placed, result⟩ := result
          split at result
          · simp only [Option.some.injEq, Prod.mk.injEq] at result
            exact result.1 ▸ holds
          · simp only [Option.bind_eq_some_iff, Option.pure_def,
              Option.some.injEq, Prod.mk.injEq] at result
            obtain ⟨⟨resized, changed⟩, resizedEq, rfl, _⟩ := result
            refine holds.reshapeFound similar active
              (fun tab => { tab with tree := some resized })
              (Tab.similar_tree tab ?_)
            rw [TiledNode.paneIds_resize resizedEq, Tab.leaves_eq_paneIds treeEq]

theorem keeps_followBoundary
    {axis : Axis}
    {positive : Bool}
    {distance boundary last newBoundary newLast : Nat}
    {moved : Bool}
    (holds : WellPlaced closable perTab s)
    (result : followBoundary axis positive distance s boundary last =
      some (t, newBoundary, newLast, moved)) :
    WellPlaced closable perTab t := by
  induction distance generalizing s boundary last newBoundary newLast moved with
  | zero =>
      simp only [followBoundary, Option.some.injEq, Prod.mk.injEq] at result
      exact result.1 ▸ holds
  | succ distance ih =>
      simp only [followBoundary, Option.bind_eq_bind,
        Option.bind_eq_some_iff] at result
      obtain ⟨⟨stepped, advanced⟩, step, result⟩ := result
      have steppedHolds := keeps_resizeBoundary similar holds step
      cases advanced with
      | false =>
          simp only [Bool.false_eq_true, if_false, Option.pure_def,
            Option.some.injEq, Prod.mk.injEq] at result
          exact result.1 ▸ steppedHolds
      | true =>
          simp only [if_true, Option.bind_eq_some_iff, Option.pure_def,
            Option.some.injEq, Prod.mk.injEq] at result
          obtain ⟨⟨rest, restBoundary, restLast, restMoved⟩, follow, rfl, _⟩ :=
            result
          exact ih steppedHolds follow

theorem keeps_dragBoundary
    (holds : WellPlaced closable perTab s)
    {axis : Axis}
    {boundary last current newBoundary newLast : Nat}
    {moved : Bool}
    (result : s.dragBoundary axis boundary last current =
      some (t, newBoundary, newLast, moved)) :
    WellPlaced closable perTab t := by
  simp only [dragBoundary, Option.bind_eq_bind, Option.bind_eq_some_iff,
    Option.pure_def, Option.some.injEq, Prod.mk.injEq] at result
  obtain ⟨⟨between, boundary, last, forward⟩, ahead, ⟨final, _, _, backward⟩,
    back, rfl, _⟩ := result
  exact keeps_followBoundary similar (keeps_followBoundary similar holds ahead)
    back

end

section

variable
    (rule : TabStable closable perTab)
    (holds : WellPlaced closable perTab s)
include rule holds

/-- A pointer move during a drag. -/
theorem keeps_updatePointerDrag
    (result : s.updatePointerDrag event = some t) :
    WellPlaced closable perTab t := by
  have stable := WellPlaced.stable rule
  unfold updatePointerDrag at result
  cases dragged : s.pointerDrag with
  | none =>
      simp only [dragged, Option.some.injEq] at result
      exact result ▸ holds
  | some drag =>
      cases active : s.activeTab? with
      | none =>
          simp only [dragged, active] at result
          exact (stable.cancelPointerDrag holds result).1
      | some tab =>
          simp only [dragged, active] at result
          split_ifs at result with elsewhere
          · exact (stable.cancelPointerDrag holds result).1
          · cases drag with
            | move tabId pane start original
            | resize tabId pane edges start original =>
                exact keeps_editedFloats rule holds active
                  (tab.floating.classes_updateRect _ _ _) result
            | tiledBoundary tabId axis boundary last original =>
                -- The dragged tab keeps the leaves of its press-time tree.
                have dropped : WellPlaced closable
                    (fun tab => perTab tab ∧
                      (tab.id = tabId → tab.leaves.Perm original.paneIds))
                    { s with pointerDrag := none } :=
                  ⟨holds.placed.dropDrag, holds.refusals, fun other present =>
                    ⟨holds.tabs other present,
                      holds.placed.drag _ _ _ _ _ dragged other present⟩⟩
                simp only [Option.bind_eq_bind, Option.bind_eq_some_iff] at result
                obtain ⟨⟨followed, newBoundary, newLast, changed⟩, follow,
                  result⟩ := result
                have followedHolds := keeps_dragBoundary
                  (fun same inner => ⟨rule.similar same inner.1, fun named =>
                    same.leaves.trans (inner.2 (same.id.symm.trans named))⟩)
                  dropped follow
                have redragged : WellPlaced closable perTab { followed with
                    pointerDrag := some (.tiledBoundary tabId axis newBoundary
                      newLast original) } := by
                  refine ⟨followedHolds.placed.startDrag ?_,
                    followedHolds.refusals,
                    fun other present => (followedHolds.tabs other present).1⟩
                  intro dragTab _ _ _ _ same other present named
                  injection same with sameTab _ _ _ sameTree
                  subst sameTab sameTree
                  exact (followedHolds.tabs other present).2 named
                simp only at result
                split_ifs at result
                · exact (stable.relayout _ t redragged result).1
                · rw [Option.some.injEq] at result
                  exact result ▸ redragged

/-! ## Input and presses -/

/-- A failed input closes its pane at most. -/
theorem keeps_reportInputFailure
    {failure : Option InputFailure}
    (permitted : ∀ failed, failure = some failed → failed.close = true →
      closable pane)
    (result : s.reportInputFailure pane failure = some t) :
    WellPlaced closable perTab t := by
  unfold reportInputFailure at result
  cases failure with
  | none =>
      simp only [Option.some.injEq] at result
      exact result ▸ holds
  | some failed =>
      simp only at result
      have warned : WellPlaced closable perTab (if failed.warn then
          s.status s!"pane {pane} input queue is unavailable" else s) := by
        split_ifs
        · exact holds.core (sameCore_notify s _)
        · exact holds
      by_cases close : failed.close = true
      · rw [if_pos close] at result
        exact ((WellPlaced.stable rule).closePane (permitted failed rfl close) _ t
          warned result).1
      · rw [if_neg close, Option.some.injEq] at result
        exact result ▸ warned

theorem keeps_mouseContent
    {rect : Rect}
    (permitted : ∀ failed, s.environment.reaction = .input (some failed) →
      failed.close = true → closable pane)
    (result : s.mouseContent pane rect event = some t) :
    WellPlaced closable perTab t := by
  have rendered := holds.core (sameCore_scheduleRender s)
  unfold mouseContent at result
  split_ifs at result with outside present
  · rw [Option.some.injEq] at result
    exact result ▸ rendered
  · cases reaction : s.environment.reaction with
    | ignored =>
        simp only [reaction, Option.some.injEq] at result
        exact result ▸ holds
    | copyView screenChanged mediaViewChanged =>
        simp only [reaction, Option.some.injEq] at result
        rw [← result]
        split_ifs
        · exact holds.core ⟨rfl, rfl, fun _ => Iff.rfl, rfl, .inr rfl, rfl, rfl,
            List.suffix_rfl, rfl⟩
        · exact rendered
    | input failure =>
        simp only [reaction] at result
        exact keeps_reportInputFailure rule holds
          (fun failed same => permitted failed (same ▸ reaction)) result
  · rw [Option.some.injEq] at result
    exact result ▸ holds

end

/-- A drag of a float may start at any time. -/
theorem WellPlaced.startFloatDrag
    (holds : WellPlaced closable perTab s)
    {drag : PointerDrag}
    (floats : drag.pane.isSome) :
    WellPlaced closable perTab
      { s with pointerDrag := some drag }.scheduleRender := by
  refine WellPlaced.core ⟨holds.placed.startDrag ?_, holds.refusals, holds.tabs⟩
    (sameCore_scheduleRender _)
  rintro tabId axis boundary last original rfl
  simp [PointerDrag.pane] at floats

variable {projection : PaneProjection}

/-- The end of a press, when the press-time copy of the tab still has the leaves
of the tab. -/
theorem keeps_pressFocused
    (rule : TabStable closable perTab)
    (holds : WellPlaced closable perTab s)
    (current : ∀ other ∈ s.tabs, other.id = tab.id →
      other.leaves.Perm tab.leaves)
    (permitted : ∀ failed, s.environment.reaction = .input (some failed) →
      failed.close = true → closable projection.paneId)
    (result : s.pressFocused tab projection event = some t) :
    WellPlaced closable perTab t := by
  unfold pressFocused at result
  simp only at result
  by_cases floats : projection.layer ≠ .tiled
  · rw [if_pos floats] at result
    split at result
    · rw [Option.some.injEq] at result
      exact result ▸ holds.startFloatDrag rfl
    · rw [Option.some.injEq] at result
      exact result ▸ holds.startFloatDrag rfl
    · exact keeps_mouseContent rule holds permitted result
  · rw [if_neg floats] at result
    split at result
    · cases treeEq : tab.tree with
      | none =>
          simp only [treeEq, Option.some.injEq] at result
          exact result ▸ holds
      | some original =>
          simp only [treeEq, Option.some.injEq] at result
          rw [← result]
          refine WellPlaced.core
            ⟨holds.placed.startDrag ?_, holds.refusals, holds.tabs⟩
            (sameCore_scheduleRender _)
          intro tabId _ _ _ tree same other present named
          injection same with sameTab _ _ _ sameTree
          subst sameTab sameTree
          rw [← Tab.leaves_eq_paneIds treeEq]
          exact current other present named
    · exact keeps_mouseContent rule holds permitted result

/-- The state in which a press moves the focus. -/
def afterPress
    (s : SessionActor)
    (tab : Tab)
    (projection : PaneProjection) : Option SessionActor :=
  if tab.focused != projection.paneId then s.endFloatMode true else some s

/-- What has to be known of a press on a projection of the active tab: the
press-time copy of the tab stays current, focusing is permitted, and a pane that
may be closed is closable. -/
structure PressPermitted
    (closable : PaneId → Prop)
    (perTab : Tab → Prop)
    (s : SessionActor)
    (tab : Tab)
    (projection : PaneProjection) : Prop where
  current : ∀ u, s.afterPress tab projection = some u →
    ∀ other ∈ u.tabs, other.id = tab.id → other.leaves.Perm tab.leaves
  focus : ∀ u other, s.afterPress tab projection = some u →
    u.activeTab? = some other → perTab (other.setFocus projection.paneId)
  closes : ∀ u failed, s.afterPress tab projection = some u →
    u.environment.reaction = .input (some failed) → failed.close = true →
      closable projection.paneId

theorem keeps_pressPane
    (rule : TabStable closable perTab)
    (holds : WellPlaced closable perTab s)
    (permitted : PressPermitted closable perTab s tab projection)
    (result : s.pressPane tab projection event = some t) :
    WellPlaced closable perTab t := by
  unfold pressPane at result
  simp only at result
  obtain ⟨u, pressed, result⟩ := Option.bind_eq_some_iff.mp result
  replace pressed : s.afterPress tab projection = some u := pressed
  have pressedHolds : WellPlaced closable perTab u := by
    unfold afterPress at pressed
    split_ifs at pressed
    · exact ((WellPlaced.stable rule).endFloatMode holds pressed).1
    · rw [Option.some.injEq] at pressed
      exact pressed ▸ holds
  have focused : WellPlaced closable perTab
      (u.modifyActiveTab fun tab => tab.setFocus projection.paneId) := by
    refine pressedHolds.rewrite (fun _ inside => inside) _ _ ?_
    intro other found
    exact ⟨Tab.samePanes_setFocus other _, permitted.focus u other pressed found⟩
  have marked : SameCore
      (u.modifyActiveTab fun tab => tab.setFocus projection.paneId)
      (u.focusPressed (tab.focused != projection.paneId) projection) := by
    unfold focusPressed
    simp only
    split_ifs
    · exact ⟨rfl, rfl, fun _ => Iff.rfl, rfl, .inr rfl, rfl, rfl,
        List.suffix_rfl, rfl⟩
    · exact SameCore.refl _
  refine keeps_pressFocused rule (focused.core marked) ?_ ?_ result
  · intro other present named
    rw [marked.tabs] at present
    rcases mem_modify_cases present with old | ⟨old, oldFound, rfl⟩
    · exact permitted.current u pressed other old named
    · have same := Tab.samePanes_setFocus old projection.paneId
      exact same.leaves.trans (permitted.current u pressed old
        (List.mem_of_getElem? oldFound) (same.id.symm.trans named))
  · intro failed reaction
    rw [marked.reaction] at reaction
    exact permitted.closes u failed pressed reaction

/-- The projection under the pointer in a tab. -/
def Hits
    (s : SessionActor)
    (tab : Tab)
    (event : MouseEvent)
    (projection : PaneProjection) : Prop :=
  ∃ projections, tab.visibleProjections s.contentArea = some projections ∧
    projections.reverse.find? (fun projection =>
      projection.outer.contains event.x event.y) = some projection

theorem keeps_mousePress
    (rule : TabStable closable perTab)
    (holds : WellPlaced closable perTab s)
    (permitted : event.kind ≠ .move → event.kind ≠ .release →
      ∀ tab projection, s.activeTab? = some tab → s.Hits tab event projection →
        PressPermitted closable perTab s tab projection)
    (result : s.mousePress event = some t) : WellPlaced closable perTab t := by
  unfold mousePress at result
  split_ifs at result with passive
  · rw [Option.some.injEq] at result
    exact result ▸ holds
  · rw [not_or] at passive
    cases active : s.activeTab? with
    | none =>
        simp only [active, Option.some.injEq] at result
        exact result ▸ holds
    | some tab =>
        simp only [active, Option.bind_eq_bind, Option.bind_eq_some_iff] at result
        obtain ⟨projections, projected, result⟩ := result
        split at result
        · rw [Option.some.injEq] at result
          exact result ▸ holds
        · rename_i projection hit
          exact keeps_pressPane rule holds (permitted passive.1 passive.2 tab
            projection active ⟨projections, projected, hit⟩) result

/-- A mouse event; a press during a drag first restores the drag. -/
theorem keeps_mouse
    (rule : TabStable closable perTab)
    (holds : WellPlaced closable perTab s)
    (permitted : event.kind ≠ .move → event.kind ≠ .release →
      ∀ u, s.cancelPointerDrag true = some u →
        ∀ tab projection, u.activeTab? = some tab → u.Hits tab event projection →
          PressPermitted closable perTab u tab projection)
    (result : s.mouse event = some t) : WellPlaced closable perTab t := by
  unfold mouse at result
  by_cases dragging : s.pointerDrag.isSome
  · rw [if_pos dragging] at result
    split_ifs at result with release move
    · rw [Option.some.injEq] at result
      exact result ▸ ⟨holds.placed.dropDrag, holds.refusals, holds.tabs⟩
    · exact keeps_updatePointerDrag rule holds result
    · simp only [Option.bind_eq_bind, Option.bind_eq_some_iff] at result
      obtain ⟨u, cancelled, result⟩ := result
      exact keeps_mousePress rule
        ((WellPlaced.stable rule).cancelPointerDrag holds cancelled).1
        (fun notMove notRelease => permitted notMove notRelease u cancelled) result
  · rw [if_neg dragging] at result
    rw [Option.not_isSome_iff_eq_none] at dragging
    have idle : s.cancelPointerDrag true = some s := by
      simp [cancelPointerDrag, cancelPointerDragWith, dragging]
    exact keeps_mousePress rule holds
      (fun notMove notRelease => permitted notMove notRelease s idle) result

end Rules

end SessionActor

end Session
end Vvmux
