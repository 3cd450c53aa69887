import Vvmux.Session.Granted
import Vvmux.Session.PaneBijection

/-!
# Closing a pane behind the user's back

The active tab is an index into the tab list. A close takes an emptied tab out
of the list and only keeps the index inside it, so a close in an earlier tab
moves the user one tab on, except when the user is on the last tab. A close
first puts the press-time tree of a border drag back, so whether it empties a
tab is a question about the tabs as they are then.
-/

namespace Vvmux
namespace Session

open Library
open Layout

namespace SessionActor

/-- A tab with the press-time tree of the border that is being dragged in
it. -/
def settledTab (s : SessionActor) (tab : Tab) : Tab :=
  match s.pointerDrag with
  | some (.tiledBoundary tabId _ _ _ original) =>
      if tab.id = tabId then { tab with tree := some original } else tab
  | _ => tab

/-- The session once its drag is taken back, up to the rectangle of a dragged
float. -/
def settled (s : SessionActor) : SessionActor :=
  { s with
    pointerDrag := none
    tabs := s.tabs.map s.settledTab }

@[simp] theorem settledTab_id (s : SessionActor) (tab : Tab) :
    (s.settledTab tab).id = tab.id := by
  unfold settledTab
  split
  · split <;> rfl
  · rfl

@[simp] theorem settledTab_focused (s : SessionActor) (tab : Tab) :
    (s.settledTab tab).focused = tab.focused := by
  unfold settledTab
  split
  · split <;> rfl
  · rfl

@[simp] theorem settledTab_zoomed (s : SessionActor) (tab : Tab) :
    (s.settledTab tab).zoomed = tab.zoomed := by
  unfold settledTab
  split
  · split <;> rfl
  · rfl

variable {s t : SessionActor} {pane : PaneId}

/-- Without a border drag every tab is settled. -/
theorem settledTab_eq
    {tab : Tab}
    (undragged : ∀ tabId axis boundary last original,
      s.pointerDrag = some (.tiledBoundary tabId axis boundary last original) →
        tab.id = tabId → tab.tree = some original) :
    s.settledTab tab = tab := by
  unfold settledTab
  split
  · rename_i tabId axis boundary last original dragged
    split
    · rename_i named
      rw [← undragged tabId axis boundary last original dragged named]
    · rfl
  · rfl

theorem settled_tabs_eq
    (undragged : ∀ tab ∈ s.tabs, s.settledTab tab = tab) :
    s.settled = { s with pointerDrag := none } := by
  unfold settled
  rw [List.map_congr_left undragged, List.map_id']

/-- Distinct tab IDs tell positions apart. -/
theorem index_unique
    {tabs : List Tab}
    (distinct : (tabs.map Tab.id).Nodup)
    {first second : Nat}
    {left right : Tab}
    (leftFound : tabs[first]? = some left)
    (rightFound : tabs[second]? = some right)
    (sameId : left.id = right.id) : first = second := by
  have within : first < (tabs.map Tab.id).length := by
    rw [List.length_map]
    exact (List.getElem?_eq_some_iff.mp leftFound).1
  refine (List.getElem?_inj within distinct).mp ?_
  rw [List.getElem?_map, List.getElem?_map, leftFound, rightFound,
    Option.map_some, Option.map_some, sameId]

/-- Taking a drag back settles the session. -/
theorem reshaped_settled
    (distinct : (s.tabs.map Tab.id).Nodup)
    {drag : PointerDrag}
    (dragged : s.pointerDrag = some drag) :
    Reshaped s.settled
      (({ s with pointerDrag := none }).restoreDrag drag).1 := by
  cases drag with
  | tiledBoundary tabId axis boundary last original =>
      suffices same : (({ s with pointerDrag := none }).restoreDrag
          (.tiledBoundary tabId axis boundary last original)).1 = s.settled by
        rw [same]
        exact (SameCore.refl s.settled).reshaped
      have others : ∀ tab : Tab, tab.id ≠ tabId → s.settledTab tab = tab := by
        intro tab other
        apply settledTab_eq
        intro id _ _ _ _ same named
        rw [dragged] at same
        injection same with same
        injection same with same
        exact absurd (named.trans same.symm) other
      have settledOf : ∀ tab : Tab, tab.id = tabId →
          s.settledTab tab = { tab with tree := some original } := by
        intro tab named
        unfold settledTab
        rw [dragged]
        exact if_pos named
      unfold restoreDrag
      simp only [PointerDrag.tabId]
      cases position : s.tabs.findIdx? fun tab => tab.id == tabId with
      | none =>
          refine (settled_tabs_eq fun tab present => others tab ?_).symm
          simpa using List.findIdx?_eq_none_iff.mp position tab present
      | some index =>
          obtain ⟨within, holds, _⟩ :=
            List.findIdx?_eq_some_iff_getElem.mp position
          have found := List.getElem?_eq_getElem within
          have named : s.tabs[index].id = tabId := by simpa using holds
          simp only [found]
          split_ifs with current
          · refine (settled_tabs_eq fun tab present => ?_).symm
            by_cases same : tab.id = tabId
            · have one : tab = s.tabs[index] :=
                List.inj_on_of_nodup_map distinct present
                  (List.getElem_mem within) (same.trans named.symm)
              rw [settledOf tab same, one, ← current]
            · exact others tab same
          · have rewritten : (s.tabs.modify index fun tab =>
                { tab with tree := some original }) =
                  s.tabs.map s.settledTab := by
              apply List.ext_getElem?
              intro i
              rw [List.getElem?_modify, List.getElem?_map]
              cases tabFound : s.tabs[i]? with
              | none => rfl
              | some tab =>
                  by_cases here : index = i
                  · subst here
                    rw [found, Option.some.injEq] at tabFound
                    simp only [Option.map_eq_map, Option.map_some, if_true,
                      ← tabFound, settledOf _ named]
                  · have other : tab.id ≠ tabId := fun same =>
                      here (index_unique distinct found tabFound
                        (named.trans same.symm))
                    simp only [Option.map_eq_map, Option.map_some, if_neg here,
                      others tab other]
            rw [modifyTab, settled, rewritten]
  | move tabId pane start original | resize tabId pane edges start original =>
      have settledEq : s.settled = { s with pointerDrag := none } :=
        settled_tabs_eq fun tab _ => settledTab_eq fun _ _ _ _ _ same _ => by
          rw [dragged] at same
          cases same
      rw [settledEq]
      exact reshaped_restoreDrag fun _ _ _ _ _ same => by cases same

/-- Before it removes the pane, a close settles the session. -/
theorem reshaped_beforeRemoval
    {s t u : SessionActor}
    (granted : s.Granted)
    (distinct : (s.tabs.map Tab.id).Nodup)
    (cancelled : cancelDragForClose resizeAll pane s = some t)
    (ended : endModeForClose resizeAll pane t = some u) :
    Reshaped s.settled u ∧ u.Granted := by
  have settled : Reshaped s.settled t := by
    unfold cancelDragForClose at cancelled
    cases dragged : s.pointerDrag with
    | none =>
        simp only [dragged, Option.some.injEq] at cancelled
        have same : s.settled = { s with pointerDrag := none } :=
          settled_tabs_eq fun tab _ => settledTab_eq fun _ _ _ _ _ drag _ => by
            rw [dragged] at drag
            cases drag
        rw [same, ← cancelled, ← dragged]
        exact (SameCore.refl s).reshaped
    | some drag =>
        have taken := reshaped_settled distinct dragged
        simp only [dragged, cancelPointerDragWith] at cancelled
        split_ifs at cancelled with kept changed
        · -- Only the drag of the closing float is dropped as it is.
          have own : drag.pane = some pane := by simpa using kept
          have same : s.settled = { s with pointerDrag := none } :=
            settled_tabs_eq fun tab _ => settledTab_eq fun _ _ _ _ _ tiled _ => by
              rw [dragged, Option.some.injEq] at tiled
              rw [tiled] at own
              cases own
          rw [Option.some.injEq] at cancelled
          rw [same, ← cancelled]
          exact (SameCore.refl _).reshaped
        · have start : Granted s.settled := granted
          exact taken.trans
            (Granted.relayoutFull (start.reshaped taken) cancelled).reshaped
        · rw [Option.some.injEq] at cancelled
          exact cancelled ▸ taken
  have start : Granted s.settled := granted
  have settledGranted := start.reshaped settled
  have quiet : Reshaped t u := by
    unfold endModeForClose endFloatModeWith at ended
    cases mode : t.floatModal with
    | none =>
        simp only [mode, Option.some.injEq] at ended
        exact ended ▸ (SameCore.refl t).reshaped
    | some modal =>
        have closed := (sameCore_endModal t).reshaped
        have restored := closed.trans
          (reshaped_restoreModal { t with floatModal := none } modal)
        simp only [mode] at ended
        obtain ⟨before, beforeEq, rfl⟩ := Option.map_eq_some_iff.mp ended
        refine Reshaped.trans ?_ (sameCore_notify before _).reshaped
        split_ifs at beforeEq with kept changed
        · rw [Option.some.injEq] at beforeEq
          exact beforeEq ▸ closed
        · exact restored.trans (Granted.relayoutFull
            (settledGranted.reshaped restored) beforeEq).reshaped
        · rw [Option.some.injEq] at beforeEq
          exact beforeEq ▸ restored
  exact ⟨settled.trans quiet, settledGranted.reshaped quiet⟩

/-- What removing a pane of the tab at an index does to the tab list and to the
active index. -/
theorem removePane_spec
    (granted : s.Granted)
    {index : Nat}
    {tab : Tab}
    (found : s.tabs[index]? = some tab)
    (present : pane ∈ tab.paneIds)
    (alone : ∀ other otherTab, s.tabs[other]? = some otherTab →
      pane ∈ otherTab.paneIds → other = index)
    (removed : removePaneWith resizeAll s pane = some t) :
    t.tabs = tabsWithout s.tabs index tab pane ∧
      t.activeTab =
        if t.tabs.length ≤ s.activeTab then t.tabs.length - 1
        else s.activeTab := by
  have position :
      s.tabs.findIdx? (fun tab => tab.contains pane) = some index := by
    rw [List.findIdx?_eq_some_iff_getElem]
    have within := (List.getElem?_eq_some_iff.mp found).1
    have here := (List.getElem?_eq_some_iff.mp found).2
    refine ⟨within, ?_, fun other earlier => ?_⟩
    · rw [here]
      exact (Tab.contains_iff tab pane).mpr present
    · intro holds
      have otherFound := List.getElem?_eq_getElem (earlier.trans within)
      have same := alone other _ otherFound
        ((Tab.contains_iff _ pane).mp holds)
      omega
  have shape : ({ s with panes := s.panes.erase pane }).removeFromTab index
      pane = { s with
        panes := s.panes.erase pane
        tabs := tabsWithout s.tabs index tab pane } := by
    unfold removeFromTab tabsWithout
    simp only [found, Tab.isEmpty_iff]
    split_ifs <;> rfl
  simp only [removePaneWith, position, shape] at removed
  have start : Granted (clampActiveTab { s with
      panes := s.panes.erase pane
      tabs := tabsWithout s.tabs index tab pane }) := by
    unfold clampActiveTab
    split_ifs <;> exact granted
  have core := Granted.relayoutFull start removed
  rw [core.tabs, core.activeTab]
  unfold clampActiveTab
  split_ifs with outside
  · exact ⟨rfl, rfl⟩
  · exact ⟨rfl, rfl⟩

/-- No tab holds the pane: removing it leaves the tabs alone. -/
theorem removePane_absent
    (absent : ∀ tab ∈ s.tabs, pane ∉ tab.paneIds)
    (removed : removePaneWith resizeAll s pane = some t) :
    t.tabs = s.tabs ∧ t.activeTab = s.activeTab := by
  have position : s.tabs.findIdx? (fun tab => tab.contains pane) = none := by
    rw [List.findIdx?_eq_none_iff]
    intro tab present
    rw [Bool.eq_false_iff]
    exact fun holds => absent tab present ((Tab.contains_iff tab pane).mp holds)
  simp only [removePaneWith, position, Option.some.injEq] at removed
  exact removed ▸ ⟨rfl, rfl⟩

/-! ## The active index in the shortened list -/

section Positions

variable {tabs : List Tab} {index active : Nat}

/-- The clamped index after the tab at another index has gone. -/
theorem clamped_eq
    (within : index < tabs.length)
    (activeWithin : active < tabs.length) :
    (if (tabs.eraseIdx index).length ≤ active then
        (tabs.eraseIdx index).length - 1
      else active) =
      if active + 1 = tabs.length then active - 1 else active := by
  rw [List.length_eraseIdx_of_lt within]
  split_ifs <;> omega

/-- A later tab went, or the user is on the last tab: the index is right. -/
theorem getElem?_clamped
    (within : index < tabs.length)
    (activeWithin : active < tabs.length)
    (apart : index ≠ active)
    (spared : ¬(index < active ∧ active + 1 < tabs.length)) :
    (tabs.eraseIdx index)[if (tabs.eraseIdx index).length ≤ active then
        (tabs.eraseIdx index).length - 1
      else active]? = tabs[active]? := by
  rw [clamped_eq within activeWithin, List.getElem?_eraseIdx]
  split_ifs with last earlier earlier
  · -- The last index falls back by one; the gap was before it.
    have gap : index < active := by omega
    omega
  · have back : active - 1 + 1 = active := by omega
    rw [back]
  · rfl
  · omega

/-- An earlier tab went and the user is not on the last one: the index names the
next tab. -/
theorem getElem?_shifted
    (earlier : index < active)
    (notLast : active + 1 < tabs.length) :
    (tabs.eraseIdx index)[if (tabs.eraseIdx index).length ≤ active then
        (tabs.eraseIdx index).length - 1
      else active]? = tabs[active + 1]? := by
  rw [clamped_eq (by omega) (by omega), if_neg (by omega),
    List.getElem?_eraseIdx_of_ge earlier.le]

end Positions

/-! ## Closing events -/

/-- An event that closes the pane: its child exits, or an automation client
closes it. -/
inductive Closing (s : SessionActor) (pane : PaneId) : ActorEvent → Prop
  | exit : Closing s pane (.ptyExit pane)
  | automation
      (id : Nat)
      (requested : Option PaneId)
      (allowFocused : Bool)
      (resolved : s.resolveAutomationPane requested allowFocused = .ok pane) :
      Closing s pane (.client id (.automation requested allowFocused .closePane))

theorem Closing.handleEvent
    {event : ActorEvent}
    (closing : Closing s pane event) :
    s.handleEvent event = s.closePane pane := by
  cases closing with
  | exit => rfl
  | automation id requested allowFocused resolved =>
      simp only [SessionActor.handleEvent, handleClient,
        SessionActor.automation, resolved]

/-- The pane belongs to the tab at the index: once, and to no other tab, also
when the drag is taken back. -/
structure Owns
    (s : SessionActor)
    (index : Nat)
    (tab : Tab)
    (pane : PaneId) : Prop where
  found : s.tabs[index]? = some tab
  present : pane ∈ tab.paneIds
  once : (s.settledTab tab).paneIds.Nodup
  alone : ∀ other otherTab, s.tabs[other]? = some otherTab →
    pane ∈ (s.settledTab otherTab).paneIds → other = index

/-- The user, who was on the given tab, is kept there when a pane of the tab at
the index closes. -/
structure KeepsUser
    (s t : SessionActor)
    (index : Nat)
    (current : Tab) : Prop where
  background : index ≠ s.activeTab → ∃ after, t.activeTab? = some after ∧
    after.id = current.id ∧ after.focused = current.focused ∧
      after.zoomed = current.zoomed
  foreground : index = s.activeTab → (∃ tab ∈ t.tabs, tab.id = current.id) →
    ∃ after, t.activeTab? = some after ∧ after.id = current.id

/-- Taking the pane out of a list without repetition empties it exactly when the
pane was alone. -/
theorem filter_ne_eq_nil_iff
    {ids : List PaneId}
    (distinct : ids.Nodup)
    (present : pane ∈ ids) :
    (ids.filter fun id => id ≠ pane) = [] ↔ ids = [pane] := by
  constructor
  · intro nothing
    refine List.perm_singleton.mp ?_
    rw [List.perm_ext_iff_of_nodup distinct (List.nodup_singleton pane)]
    intro id
    rw [List.mem_singleton]
    refine ⟨fun inside => ?_, fun same => same ▸ present⟩
    simpa using List.filter_eq_nil_iff.mp nothing id inside
  · rintro rfl
    simp

/-- Three tabs of one pane each, with the user on the second one. -/
def threeTabs : SessionActor :=
  { plainStart with
    panes := ((OrderedMap.empty.insert 1 ⟨21, 78⟩).insert 2 ⟨21, 78⟩).insert 3
      ⟨21, 78⟩
    tabs := [freshTab 1 1, freshTab 2 2, freshTab 3 3]
    activeTab := 1
    nextPaneId := 4
    nextTabId := 4 }

/-- A client opens two more tabs and goes back to the second one; then the
child of the first tab exits. -/
def exitBehind : List (Environment × ActorEvent) :=
  [({}, .client 1 (.attach false ⟨80, 24, 0, 0⟩ false)),
    ({}, .client 1 (.action .newTab)),
    ({}, .client 1 (.action .newTab)),
    ({}, .client 1 (.action .previousTab))]

end SessionActor

end Session
end Vvmux
