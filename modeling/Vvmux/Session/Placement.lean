import Vvmux.Library.Sections
import Vvmux.Session.Relayout

/-!
# Panes and their places

The panes of the session are exactly the panes of its layout, each in one
place. The invariant also says what keeps it alive: fresh identifiers, an active
index inside the tab list, and a press-time tree of a border drag that still
has the leaves of its tab. It is combined with a predicate of single tabs, so
that facts about focus and zoom are carried by the same rule.
-/

namespace Vvmux
namespace Session

open Library
open Layout

namespace SessionActor

/-- Every pane of the layout, tab by tab. -/
def layout (s : SessionActor) : List PaneId := s.tabs.flatMap Tab.paneIds

/-- The press-time tree of an active border drag has the leaves of its tab. -/
def DragCurrent (s : SessionActor) : Prop :=
  ∀ tabId axis boundary last original,
    s.pointerDrag = some (.tiledBoundary tabId axis boundary last original) →
      ∀ tab ∈ s.tabs, tab.id = tabId → tab.leaves.Perm original.paneIds

/-- Every pane has exactly one place in the layout. -/
structure Placed (s : SessionActor) : Prop where
  distinct : s.layout.Nodup
  placed : ∀ pane, pane ∈ s.layout ↔ pane ∈ s.panes
  fresh : ∀ pane ∈ s.panes, pane < s.nextPaneId
  tabIds : (s.tabs.map Tab.id).Nodup
  freshTab : ∀ tab ∈ s.tabs, tab.id < s.nextTabId
  active : s.tabs ≠ [] → s.activeTab < s.tabs.length
  drag : s.DragCurrent

/-- The second state differs from the first in bookkeeping and in the weights,
rectangles and orders inside its tabs only. -/
structure Reshaped (s t : SessionActor) : Prop where
  tabs : List.Forall₂ Tab.Similar s.tabs t.tabs
  activeTab : t.activeTab = s.activeTab
  panes : ∀ pane, pane ∈ t.panes ↔ pane ∈ s.panes
  pointerDrag : t.pointerDrag = s.pointerDrag
  nextPaneId : t.nextPaneId = s.nextPaneId
  nextTabId : t.nextTabId = s.nextTabId
  refusals : t.environment.resizeRefusals <:+ s.environment.resizeRefusals

theorem SameCore.reshaped
    {s t : SessionActor}
    (core : SameCore s t) : Reshaped s t where
  tabs := by
    rw [core.tabs]
    exact List.forall₂_same.mpr fun tab _ => Tab.Similar.refl tab
  activeTab := core.activeTab
  panes := core.panes
  pointerDrag := core.pointerDrag
  nextPaneId := core.nextPaneId
  nextTabId := core.nextTabId
  refusals := core.refusals

theorem reshaped_modifyTab
    (s : SessionActor)
    (index : Nat)
    (change : Tab → Tab)
    (similar : ∀ tab, s.tabs[index]? = some tab →
      Tab.Similar tab (change tab)) :
    Reshaped s (s.modifyTab index change) :=
  ⟨forall₂_modify (fun _ tab _ _ => Tab.Similar.refl tab) similar, rfl,
    fun _ => Iff.rfl, rfl, rfl, rfl, List.suffix_rfl⟩

variable {s : SessionActor} {tab : Tab}

variable {drag : PointerDrag}

/-- Restoring a current drag reshapes the session. -/
theorem reshaped_restoreDrag
    (current : ∀ tabId axis boundary last original,
      drag = .tiledBoundary tabId axis boundary last original →
        ∀ tab ∈ s.tabs, tab.id = tabId → tab.leaves.Perm original.paneIds) :
    Reshaped s (s.restoreDrag drag).1 := by
  have unchanged := (SameCore.refl s).reshaped
  unfold restoreDrag
  cases position : s.tabs.findIdx? fun tab => tab.id == drag.tabId with
  | none => exact unchanged
  | some index =>
      cases found : s.tabs[index]? with
      | none => simpa [found] using unchanged
      | some tab =>
          have named : tab.id = drag.tabId := by
            obtain ⟨within, holds, _⟩ :=
              List.findIdx?_eq_some_iff_getElem.mp position
            rw [List.getElem?_eq_getElem within, Option.some.injEq] at found
            simpa [found] using holds
          simp only [found]
          cases drag with
          | tiledBoundary tabId axis boundary last original =>
              simp only
              split_ifs
              · exact unchanged
              · apply reshaped_modifyTab
                intro same sameFound
                rw [found, Option.some.injEq] at sameFound
                subst sameFound
                exact Tab.similar_tree tab (current _ _ _ _ _ rfl tab
                  (List.mem_of_getElem? found) named).symm
          | move tabId pane start original
          | resize tabId pane edges start original =>
              apply reshaped_modifyTab
              intro same sameFound
              rw [found, Option.some.injEq] at sameFound
              subst sameFound
              exact Tab.similar_floating tab
                (tab.floating.classes_updateRect pane _ _)

/-- Restoring an edit mode reshapes the session. -/
theorem reshaped_restoreModal (s : SessionActor) (modal : FloatModal) :
    Reshaped s (s.restoreModal modal).1 := by
  have unchanged := (SameCore.refl s).reshaped
  unfold restoreModal
  cases position : s.tabs.findIdx? fun tab =>
      tab.floating.contains modal.pane with
  | none => exact unchanged
  | some index =>
      cases found : s.tabs[index]? with
      | none => simpa [found] using unchanged
      | some tab =>
          simp only [found]
          apply reshaped_modifyTab
          intro same sameFound
          rw [found, Option.some.injEq] at sameFound
          subst sameFound
          exact Tab.similar_floating tab
            (tab.floating.classes_updateRect modal.pane _ _)

/-- The tabs once a pane of the tab at an index is gone. -/
def tabsWithout (tabs : List Tab) (index : Nat) (tab : Tab) (pane : PaneId) :
    List Tab :=
  if (tab.removePane pane).paneIds = [] then tabs.eraseIdx index
  else tabs.modify index fun _ => (tab.removePane pane).refocus pane

/-- The second state has lost one pane of the tab at an index. -/
structure Removed
    (s t : SessionActor)
    (index : Nat)
    (tab : Tab)
    (pane : PaneId) : Prop where
  tabs : t.tabs = tabsWithout s.tabs index tab pane
  active : t.tabs ≠ [] → t.activeTab < t.tabs.length
  panes : ∀ id, id ∈ t.panes ↔ id ∈ s.panes ∧ id ≠ pane
  pointerDrag : t.pointerDrag = s.pointerDrag
  floatModal : t.floatModal = s.floatModal
  nextPaneId : t.nextPaneId = s.nextPaneId
  nextTabId : t.nextTabId = s.nextTabId
  environment : t.environment = s.environment

theorem removed_removeFromTab
    {index : Nat}
    (found : s.tabs[index]? = some tab)
    (pane : PaneId) :
    Removed s (({ s with panes := s.panes.erase pane }).removeFromTab index
      pane).clampActiveTab index tab pane := by
  have shape : ({ s with panes := s.panes.erase pane }).removeFromTab index
      pane = { s with
        panes := s.panes.erase pane
        tabs := tabsWithout s.tabs index tab pane } := by
    unfold removeFromTab tabsWithout
    simp only [found, Tab.isEmpty_iff]
    split_ifs <;> rfl
  rw [shape]
  unfold clampActiveTab
  split_ifs with outside
  · refine ⟨rfl, fun someTab => ?_, fun id => s.panes.mem_erase pane id, rfl,
      rfl, rfl, rfl, rfl⟩
    have positive := List.length_pos_iff.mpr someTab
    simp only at positive ⊢
    omega
  · exact ⟨rfl, fun _ => not_le.mp outside,
      fun id => s.panes.mem_erase pane id, rfl, rfl, rfl, rfl, rfl⟩

theorem nodup_tab
    (distinct : s.layout.Nodup)
    (present : tab ∈ s.tabs) : tab.paneIds.Nodup :=
  (List.nodup_flatMap.mp distinct).1 tab present

variable {pane : PaneId}

/-- A removed pane leaves the layout, and nothing else does. -/
theorem Removed.perm_layout
    {s t : SessionActor}
    {index : Nat}
    (removed : Removed s t index tab pane)
    (distinct : s.layout.Nodup)
    (found : s.tabs[index]? = some tab)
    (owned : pane ∈ tab.paneIds) :
    t.layout.Perm (s.layout.filter fun id => id ≠ pane) := by
  have removedIds := tab.paneIds_removePane pane
    (nodup_tab distinct (List.mem_of_getElem? found))
  have rewritten : ∀ next : Tab, next.paneIds.Perm (tab.removePane pane).paneIds →
      ((s.tabs.modify index fun _ => next).flatMap Tab.paneIds).Perm
        (s.layout.filter fun id => id ≠ pane) := by
    intro next same
    rw [layout, List.filter_flatMap]
    apply perm_flatMap_of_forall₂
    apply forall₂_modify
    · intro other element different otherFound
      have absent := not_mem_of_other_section distinct found otherFound
        different owned
      rw [List.filter_eq_self.mpr]
      intro id present
      simpa using fun equal : id = pane => absent (equal ▸ present)
    · intro element elementFound
      rw [found, Option.some.injEq] at elementFound
      subst elementFound
      rw [← removedIds]
      exact same
  rw [layout, removed.tabs, tabsWithout]
  split_ifs with empty
  · -- An emptied tab is dropped.
    have erased : (s.tabs.modify index fun _ =>
        tab.removePane pane).eraseIdx index = s.tabs.eraseIdx index :=
      List.eraseIdx_modify_of_eq ..
    have dropped : ((s.tabs.modify index fun _ =>
        tab.removePane pane).eraseIdx index).flatMap Tab.paneIds =
          (s.tabs.modify index fun _ => tab.removePane pane).flatMap
            Tab.paneIds := by
      apply flatMap_eraseIdx_of_nil
      intro element elementFound
      simp only [List.getElem?_modify_eq, found, Option.map_eq_map,
        Option.map_some, Option.some.injEq] at elementFound
      rw [← elementFound]
      exact empty
    rw [erased] at dropped
    rw [dropped]
    exact rewritten _ (List.Perm.refl _)
  · exact rewritten _ (Tab.samePanes_refocus _ pane).perm

namespace Placed

variable {s t : SessionActor} {index : Nat} {tab : Tab}

/-- Rewrites inside the tabs keep every pane in its place. -/
theorem rewriteTabs
    (placed : Placed s)
    (tabs : List.Forall₂ Tab.SamePanes s.tabs t.tabs)
    (panes : ∀ pane, pane ∈ t.panes ↔ pane ∈ s.panes)
    (nextPaneId : t.nextPaneId = s.nextPaneId)
    (nextTabId : t.nextTabId = s.nextTabId)
    (active : t.tabs ≠ [] → t.activeTab < t.tabs.length)
    (drag : t.DragCurrent) : Placed t := by
  have layouts : t.layout.Perm s.layout :=
    perm_flatMap_of_forall₂ (tabs.imp fun _ _ same => same.perm)
  have ids : t.tabs.map Tab.id = s.tabs.map Tab.id :=
    map_eq_of_forall₂ tabs fun same => same.id
  refine ⟨layouts.nodup_iff.mpr placed.distinct, ?_, ?_, ?_, ?_, active, drag⟩
  · intro pane
    rw [layouts.mem_iff, placed.placed, panes]
  · intro pane present
    rw [nextPaneId]
    exact placed.fresh pane ((panes pane).mp present)
  · rw [ids]
    exact placed.tabIds
  · intro tab present
    obtain ⟨old, member, same⟩ := exists_related_of_mem tabs present
    rw [nextTabId, same.id]
    exact placed.freshTab old member

theorem reshape (placed : Placed s) (reshaped : Reshaped s t) : Placed t := by
  have length := reshaped.tabs.length_eq
  refine placed.rewriteTabs (reshaped.tabs.imp fun _ _ same => same.samePanes)
    reshaped.panes reshaped.nextPaneId reshaped.nextTabId ?_ ?_
  · intro someTab
    rw [reshaped.activeTab, ← length]
    apply placed.active
    rintro none
    rw [none] at length
    exact someTab (List.length_eq_zero_iff.mp length.symm)
  · intro tabId axis boundary last original dragged tab present named
    rw [reshaped.pointerDrag] at dragged
    obtain ⟨old, member, same⟩ := exists_related_of_mem reshaped.tabs present
    rw [same.id] at named
    exact same.leaves.trans
      (placed.drag tabId axis boundary last original dragged old member named)

theorem dropDrag (placed : Placed s) : Placed { s with pointerDrag := none } :=
  { placed with drag := fun _ _ _ _ _ dragged => nomatch dragged }

section

variable (placed : Placed s)
include placed

theorem restoreDrag
    (dragged : s.pointerDrag = some drag) :
    Reshaped { s with pointerDrag := none }
      (SessionActor.restoreDrag { s with pointerDrag := none } drag).1 := by
  apply reshaped_restoreDrag
  rintro tabId axis boundary last original rfl
  exact placed.drag tabId axis boundary last original dragged

/-- A pane in two tabs is in one tab. -/
theorem tab_unique
    {first second : Tab}
    (firstIn : first ∈ s.tabs)
    (secondIn : second ∈ s.tabs)
    (sameId : first.id = second.id) : first = second :=
  List.inj_on_of_nodup_map placed.tabIds firstIn secondIn sameId

/-- Closing a pane takes it out of the session and out of its place. -/
theorem remove
    (removed : Removed s t index tab pane)
    (found : s.tabs[index]? = some tab)
    (owned : pane ∈ tab.paneIds)
    (idle : s.pointerDrag = none) : Placed t := by
  have layouts := removed.perm_layout placed.distinct found owned
  have rewritten : List.Forall₂ (fun old new : Tab => new.id = old.id) s.tabs
      (s.tabs.modify index fun _ => (tab.removePane pane).refocus pane) := by
    refine forall₂_modify (fun _ _ _ _ => rfl) fun element elementFound => ?_
    rw [found, Option.some.injEq] at elementFound
    subst elementFound
    exact (Tab.samePanes_refocus (tab.removePane pane) pane).id
  refine ⟨layouts.nodup_iff.mpr (placed.distinct.filter _), ?_, ?_, ?_, ?_,
    removed.active, ?_⟩
  · intro id
    rw [layouts.mem_iff, List.mem_filter, placed.placed, removed.panes]
    simp
  · intro id present
    rw [removed.nextPaneId]
    exact placed.fresh id ((removed.panes id).mp present).1
  · rw [removed.tabs, tabsWithout]
    split_ifs
    · exact placed.tabIds.sublist ((List.eraseIdx_sublist ..).map Tab.id)
    · rw [map_eq_of_forall₂ rewritten fun same => same]
      exact placed.tabIds
  · intro other present
    rw [removed.nextTabId]
    rw [removed.tabs, tabsWithout] at present
    split_ifs at present
    · exact placed.freshTab other (List.mem_of_mem_eraseIdx present)
    · obtain ⟨old, member, same⟩ := exists_related_of_mem rewritten present
      rw [same]
      exact placed.freshTab old member
  · intro tabId axis boundary last original dragged
    rw [removed.pointerDrag, idle] at dragged
    exact nomatch dragged

/-- A new pane in the tab at an index gets a place of its own. -/
theorem grow
    {change : Tab → Tab}
    (found : s.tabs[index]? = some tab)
    (tabs : t.tabs = s.tabs.modify index change)
    (sameId : (change tab).id = tab.id)
    (gained : (change tab).paneIds.Perm (s.nextPaneId :: tab.paneIds))
    (panes : ∀ id, id ∈ t.panes ↔ id = s.nextPaneId ∨ id ∈ s.panes)
    (nextPaneId : t.nextPaneId = s.nextPaneId + 1)
    (nextTabId : t.nextTabId = s.nextTabId)
    (activeTab : t.activeTab = s.activeTab)
    (drag : t.DragCurrent) : Placed t := by
  have layouts : t.layout.Perm (s.nextPaneId :: s.layout) := by
    rw [layout, tabs]
    exact perm_flatMap_modify_cons found gained
  have absent : s.nextPaneId ∉ s.layout := by
    rw [placed.placed]
    intro present
    exact Nat.lt_irrefl _ (placed.fresh _ present)
  have rewritten : List.Forall₂ (fun old new : Tab => new.id = old.id) s.tabs
      t.tabs := by
    rw [tabs]
    refine forall₂_modify (fun _ _ _ _ => rfl) fun element elementFound => ?_
    rw [found, Option.some.injEq] at elementFound
    subst elementFound
    exact sameId
  refine ⟨layouts.nodup_iff.mpr (List.nodup_cons.mpr ⟨absent, placed.distinct⟩),
    ?_, ?_, ?_, ?_, ?_, drag⟩
  · intro id
    rw [layouts.mem_iff, List.mem_cons, placed.placed, panes]
  · intro id present
    rw [nextPaneId]
    rcases (panes id).mp present with rfl | old
    · exact Nat.lt_succ_self _
    · exact Nat.lt_succ_of_lt (placed.fresh id old)
  · rw [map_eq_of_forall₂ rewritten fun same => same]
    exact placed.tabIds
  · intro other present
    obtain ⟨old, member, same⟩ := exists_related_of_mem rewritten present
    rw [nextTabId, same]
    exact placed.freshTab old member
  · intro _
    rw [activeTab, ← rewritten.length_eq]
    apply placed.active
    rintro none
    simp [none] at found

/-- A new tab with one new pane gives that pane its place. -/
theorem addTab
    (tabs : t.tabs = s.tabs ++ [tab])
    (tabId : tab.id = s.nextTabId)
    (only : tab.paneIds = [s.nextPaneId])
    (panes : ∀ id, id ∈ t.panes ↔ id = s.nextPaneId ∨ id ∈ s.panes)
    (nextPaneId : t.nextPaneId = s.nextPaneId + 1)
    (nextTabId : t.nextTabId = s.nextTabId + 1)
    (active : t.activeTab < t.tabs.length)
    (idle : t.pointerDrag = none) : Placed t := by
  have layouts : t.layout = s.layout ++ [s.nextPaneId] := by
    rw [layout, tabs, List.flatMap_append, List.flatMap_singleton, only]
    rfl
  have absent : s.nextPaneId ∉ s.layout := by
    rw [placed.placed]
    intro present
    exact Nat.lt_irrefl _ (placed.fresh _ present)
  refine ⟨?_, ?_, ?_, ?_, ?_, fun _ => active, ?_⟩
  · rw [layouts]
    exact (List.perm_append_singleton ..).nodup_iff.mpr
      (List.nodup_cons.mpr ⟨absent, placed.distinct⟩)
  · intro id
    rw [layouts, List.mem_append, List.mem_singleton, placed.placed, panes,
      or_comm]
  · intro id present
    rw [nextPaneId]
    rcases (panes id).mp present with rfl | old
    · exact Nat.lt_succ_self _
    · exact Nat.lt_succ_of_lt (placed.fresh id old)
  · rw [tabs, List.map_append]
    refine (List.perm_append_singleton ..).nodup_iff.mpr
      (List.nodup_cons.mpr ⟨?_, placed.tabIds⟩)
    intro present
    obtain ⟨old, member, same⟩ := List.mem_map.mp present
    have := placed.freshTab old member
    omega
  · intro other present
    rw [nextTabId]
    rw [tabs] at present
    rcases List.mem_append.mp present with old | new
    · exact Nat.lt_succ_of_lt (placed.freshTab other old)
    · rw [List.mem_singleton] at new
      rw [new, tabId]
      exact Nat.lt_succ_self _
  · intro tabId axis boundary last original dragged
    rw [idle] at dragged
    exact nomatch dragged

theorem select
    (inside : index < s.tabs.length) : Placed { s with activeTab := index } :=
  { placed with active := fun _ => inside }

/-- A drag may start when its press-time tree has the leaves of its tab. -/
theorem startDrag
    (current : ∀ tabId axis boundary last original,
      drag = .tiledBoundary tabId axis boundary last original →
        ∀ tab ∈ s.tabs, tab.id = tabId → tab.leaves.Perm original.paneIds) :
    Placed { s with pointerDrag := some drag } :=
  { placed with
    drag := fun tabId axis boundary last original dragged =>
      current tabId axis boundary last original (Option.some.inj dragged) }

end

end Placed

/-! ## Predicates of single tabs -/

/-- A predicate of tabs that survives reshaping, and removals of closable panes
that leave the tab some pane. -/
structure TabStable
    (closable : PaneId → Prop)
    (perTab : Tab → Prop) : Prop where
  similar : ∀ {before after}, Tab.Similar before after →
    perTab before → perTab after
  remove : ∀ {tab pane}, perTab tab → tab.paneIds.Nodup → closable pane →
    pane ∈ tab.paneIds → (tab.removePane pane).paneIds ≠ [] →
    perTab ((tab.removePane pane).refocus pane)

theorem TabStable.and
    {closable : PaneId → Prop}
    {first second : Tab → Prop}
    (firstRule : TabStable closable first)
    (secondRule : TabStable closable second) :
    TabStable closable fun tab => first tab ∧ second tab where
  similar same both :=
    ⟨firstRule.similar same both.1, secondRule.similar same both.2⟩
  remove both distinct closes present remaining :=
    ⟨firstRule.remove both.1 distinct closes present remaining,
      secondRule.remove both.2 distinct closes present remaining⟩

/-- Every pane is placed, refused resizes name closable panes only, and every
tab satisfies a predicate. -/
structure WellPlaced
    (closable : PaneId → Prop)
    (perTab : Tab → Prop)
    (s : SessionActor) : Prop where
  placed : Placed s
  refusals : ∀ answer ∈ s.environment.resizeRefusals,
    ∀ pane ∈ answer, closable pane
  tabs : ∀ tab ∈ s.tabs, perTab tab

namespace WellPlaced

variable {closable : PaneId → Prop}
variable {perTab : Tab → Prop}

variable {s t : SessionActor} {index : Nat} {tab : Tab}

theorem reshape
    (holds : WellPlaced closable perTab s)
    (similar : ∀ {before after}, Tab.Similar before after →
      perTab before → perTab after)
    (reshaped : Reshaped s t) : WellPlaced closable perTab t := by
  refine ⟨holds.placed.reshape reshaped, ?_, ?_⟩
  · intro answer remaining
    exact holds.refusals answer (reshaped.refusals.mem remaining)
  · intro tab present
    obtain ⟨old, member, same⟩ := exists_related_of_mem reshaped.tabs present
    exact similar same (holds.tabs old member)

theorem remove
    (rule : TabStable closable perTab)
    (holds : WellPlaced closable perTab s)
    (removed : Removed s t index tab pane)
    (found : s.tabs[index]? = some tab)
    (owned : pane ∈ tab.paneIds)
    (allowed : closable pane)
    (idle : s.pointerDrag = none) : WellPlaced closable perTab t := by
  refine ⟨holds.placed.remove removed found owned idle, ?_, ?_⟩
  · rw [removed.environment]
    exact holds.refusals
  · intro other present
    rw [removed.tabs, tabsWithout] at present
    split_ifs at present with vacant
    · exact holds.tabs other (List.mem_of_mem_eraseIdx present)
    · rcases mem_modify_cases present with old | ⟨_, _, rfl⟩
      · exact holds.tabs other old
      · have member := List.mem_of_getElem? found
        exact rule.remove (holds.tabs tab member)
          (nodup_tab holds.placed.distinct member) allowed owned vacant

section

variable (holds : WellPlaced closable perTab s)
include holds

/-- Bookkeeping concerns no tab. -/
theorem core (same : SameCore s t) : WellPlaced closable perTab t := by
  refine ⟨holds.placed.reshape same.reshaped, ?_, ?_⟩
  · intro answer remaining
    exact holds.refusals answer (same.refusals.mem remaining)
  · rw [same.tabs]
    exact holds.tabs

variable {next : Tab → Prop}

/-- Rewriting one tab that keeps its panes. -/
theorem rewrite
    (implies : ∀ tab, perTab tab → next tab)
    (index : Nat)
    (change : Tab → Tab)
    (changed : ∀ tab, s.tabs[index]? = some tab →
      Tab.SamePanes tab (change tab) ∧ next (change tab)) :
    WellPlaced closable next (s.modifyTab index change) := by
  have samePanes : List.Forall₂ Tab.SamePanes s.tabs
      (s.modifyTab index change).tabs :=
    forall₂_modify (fun _ tab _ _ => Tab.SamePanes.refl tab)
      fun tab found => (changed tab found).1
  refine ⟨holds.placed.rewriteTabs samePanes (fun _ => Iff.rfl) rfl rfl ?_ ?_,
    holds.refusals, ?_⟩
  · intro someTab
    have length := samePanes.length_eq
    have position : (s.modifyTab index change).activeTab = s.activeTab := rfl
    rw [position, ← length]
    apply holds.placed.active
    rintro none
    rw [none] at length
    exact someTab (List.length_eq_zero_iff.mp length.symm)
  · intro tabId axis boundary last original dragged tab present named
    obtain ⟨old, member, same⟩ := exists_related_of_mem samePanes present
    rw [same.id] at named
    exact same.leaves.trans (holds.placed.drag tabId axis boundary last original
      dragged old member named)
  · intro tab present
    rcases mem_modify_cases present with old | ⟨old, found, rfl⟩
    · exact implies tab (holds.tabs tab old)
    · exact (changed old found).2

theorem weaken
    (implies : ∀ tab, perTab tab → next tab) : WellPlaced closable next s :=
  ⟨holds.placed, holds.refusals,
    fun tab present => implies tab (holds.tabs tab present)⟩

/-- Rewriting a known tab that keeps its panes. -/
theorem rewriteFound
    (implies : ∀ tab, perTab tab → next tab)
    (found : s.tabs[index]? = some tab)
    (change : Tab → Tab)
    (same : Tab.SamePanes tab (change tab))
    (permitted : next (change tab)) :
    WellPlaced closable next (s.modifyTab index change) := by
  refine holds.rewrite implies index change fun other otherFound => ?_
  rw [found, Option.some.injEq] at otherFound
  subst otherFound
  exact ⟨same, permitted⟩

/-- Reshaping a known tab. -/
theorem reshapeFound
    (similar : ∀ {before after}, Tab.Similar before after →
      perTab before → perTab after)
    (found : s.tabs[index]? = some tab)
    (change : Tab → Tab)
    (reshaped : Tab.Similar tab (change tab)) :
    WellPlaced closable perTab (s.modifyTab index change) :=
  holds.rewriteFound (fun _ inside => inside) found change reshaped.samePanes
    (similar reshaped (holds.tabs tab (List.mem_of_getElem? found)))

end

/-- The rule for single tabs gives the rule for sessions. -/
theorem stable (rule : TabStable closable perTab) :
    Stable closable (WellPlaced closable perTab) where
  sameCore core holds := holds.reshape rule.similar core.reshaped
  refusals holds := holds.refusals
  dropDrag holds := ⟨holds.placed.dropDrag, holds.refusals, holds.tabs⟩
  restoreDrag {s drag} holds dragged :=
    reshape (s := { s with pointerDrag := none })
      ⟨holds.placed.dropDrag, holds.refusals, holds.tabs⟩ rule.similar
      (holds.placed.restoreDrag dragged)
  restoreModal {s} modal holds :=
    holds.reshape rule.similar (reshaped_restoreModal s modal)
  erase {s pane} holds _ _ _ orphan := by
    have absent : pane ∉ s.panes := by
      rw [← holds.placed.placed]
      intro present
      obtain ⟨tab, member, owned⟩ := List.mem_flatMap.mp present
      have none := List.findIdx?_eq_none_iff.mp orphan tab member
      rw [← Bool.not_eq_true, Tab.contains_iff] at none
      exact none owned
    refine holds.reshape rule.similar ?_
    have same := (SameCore.refl s).reshaped
    refine { same with panes := fun id => ?_ }
    rw [OrderedMap.mem_erase]
    exact ⟨fun both => both.1, fun present =>
      ⟨present, fun equal => absent (equal ▸ present)⟩⟩
  remove {s pane index} holds allowed idle _ owner := by
    obtain ⟨within, owns, _⟩ := List.findIdx?_eq_some_iff_getElem.mp owner
    have found := List.getElem?_eq_getElem within
    exact holds.remove rule (removed_removeFromTab found pane) found
      ((Tab.contains_iff _ pane).mp owns) allowed idle

end WellPlaced

end SessionActor

end Session
end Vvmux
