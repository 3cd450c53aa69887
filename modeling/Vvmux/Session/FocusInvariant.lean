import Vvmux.Session.Granted
import Vvmux.Session.PaneBijection

/-!
# The focus stays inside its tab

A close moves a lost focus to the fallback, and there is none when every
remaining pane of the tab is a hidden ordinary float. A tab is safe from a set
of panes that may close when this cannot happen, whichever of them do close.
-/

namespace Vvmux
namespace Session

open Library
open Layout

namespace SessionActor

/-- Focus and zoom name panes of the tab. -/
structure Anchored (tab : Tab) : Prop where
  focused : tab.focused ∈ tab.paneIds
  zoomed : ∀ pane, tab.zoomed = some pane → pane ∈ tab.paneIds

/-- Closing some of the closable panes leaves a fallback, wherever the focus is:
none of them is in the tab, or every pane is shown, or some shown pane stays. -/
def Safe (closable : PaneId → Prop) (tab : Tab) : Prop :=
  (∀ pane ∈ tab.paneIds, ¬closable pane) ∨
    (∀ pane ∈ tab.paneIds, tab.Shown pane) ∨
    ∃ pane, tab.Shown pane ∧ ¬closable pane

/-- Closing some of the closable panes does not move the focus: the focused pane
stays, or it is the only one and its tab goes with it. -/
def Steady (closable : PaneId → Prop) (tab : Tab) : Prop :=
  ¬closable tab.focused ∨ tab.paneIds.length = 1

/-- Focus and zoom name panes of the tab, and closing some of the closable panes
keeps it so. -/
structure Kept (closable : PaneId → Prop) (tab : Tab) : Prop where
  anchored : Anchored tab
  spared : Safe closable tab ∨ Steady closable tab

variable {before after : Tab}

theorem Anchored.similar
    (anchored : Anchored before)
    (similar : Tab.Similar before after) : Anchored after := by
  have same := similar.samePanes
  refine ⟨?_, fun pane zoom => ?_⟩
  · rw [similar.focused, same.mem_iff]
    exact anchored.focused
  · rw [same.mem_iff]
    exact anchored.zoomed pane (similar.zoomed.symm.trans zoom)

theorem Anchored.setFocus
    {tab : Tab}
    (anchored : Anchored tab)
    {pane : PaneId}
    (present : pane ∈ tab.paneIds) : Anchored (tab.setFocus pane) := by
  have same := Tab.samePanes_setFocus tab pane
  refine ⟨?_, fun zoomed zoom => ?_⟩
  · rw [Tab.setFocus_focused, same.mem_iff]
    exact present
  · rw [same.mem_iff]
    rw [Tab.setFocus_zoomed] at zoom
    exact anchored.zoomed zoomed zoom

/-- A tab that gains a pane and focuses it. -/
theorem Anchored.grow
    {pane : PaneId}
    (anchored : Anchored before)
    (grown : after.paneIds.Perm (pane :: before.paneIds))
    (focused : after.focused = pane)
    (zoomed : after.zoomed = before.zoomed) : Anchored after := by
  refine ⟨?_, fun zoomedPane zoom => ?_⟩
  · rw [grown.mem_iff, focused]
    exact List.mem_cons_self ..
  · rw [grown.mem_iff]
    rw [zoomed] at zoom
    exact List.mem_cons_of_mem _ (anchored.zoomed zoomedPane zoom)

section Spared

variable {closable : PaneId → Prop}

theorem Safe.similar
    (safe : Safe closable before)
    (similar : Tab.Similar before after) : Safe closable after := by
  have same := similar.samePanes
  rcases safe with untouched | allShown | ⟨pane, shown, stays⟩
  · exact .inl fun pane present => untouched pane ((same.mem_iff pane).mp present)
  · refine .inr (.inl fun pane present => ?_)
    exact (similar.shown_iff pane).mpr
      (allShown pane ((same.mem_iff pane).mp present))
  · exact .inr (.inr ⟨pane, (similar.shown_iff pane).mpr shown, stays⟩)

variable {tab : Tab} {pane : PaneId}

theorem Safe.setFocus
    (safe : Safe closable tab)
    (pane : PaneId) : Safe closable (tab.setFocus pane) := by
  have same := Tab.samePanes_setFocus tab pane
  rcases safe with untouched | allShown | ⟨other, shown, stays⟩
  · exact .inl fun other present =>
      untouched other ((same.mem_iff other).mp present)
  · refine .inr (.inl fun other present => ?_)
    exact (Tab.shown_setFocus_iff tab pane other).mpr
      (allShown other ((same.mem_iff other).mp present))
  · exact .inr (.inr
      ⟨other, (Tab.shown_setFocus_iff tab pane other).mpr shown, stays⟩)

/-- A safe tab that keeps some pane shows one of them after a removal. -/
theorem Safe.exists_shown
    (safe : Safe closable tab)
    (distinct : tab.paneIds.Nodup)
    (closes : closable pane)
    (present : pane ∈ tab.paneIds)
    (remaining : (tab.removePane pane).paneIds ≠ []) :
    ∃ other, (tab.removePane pane).Shown other := by
  rcases safe with untouched | allShown | ⟨other, shown, stays⟩
  · exact absurd closes (untouched pane present)
  · obtain ⟨other, inside⟩ := List.exists_mem_of_ne_nil _ remaining
    rw [tab.paneIds_removePane pane distinct, List.mem_filter] at inside
    have different : other ≠ pane := by simpa using inside.2
    exact ⟨other, Tab.shown_removePane different (allShown other inside.1)⟩
  · have different : other ≠ pane := fun same => stays (same ▸ closes)
    exact ⟨other, Tab.shown_removePane different shown⟩

/-- A removal leaves a safe tab safe. -/
theorem Safe.removePane
    (safe : Safe closable tab)
    (distinct : tab.paneIds.Nodup)
    (closes : closable pane)
    (present : pane ∈ tab.paneIds) : Safe closable (tab.removePane pane) := by
  rcases safe with untouched | allShown | ⟨other, shown, stays⟩
  · exact absurd closes (untouched pane present)
  · refine .inr (.inl fun other inside => ?_)
    rw [tab.paneIds_removePane pane distinct, List.mem_filter] at inside
    have different : other ≠ pane := by simpa using inside.2
    exact Tab.shown_removePane different (allShown other inside.1)
  · have different : other ≠ pane := fun same => stays (same ▸ closes)
    exact .inr (.inr ⟨other, Tab.shown_removePane different shown, stays⟩)

/-- Closing closable panes keeps focus and zoom inside the tab. -/
theorem Kept.stable : TabStable closable (Kept closable) where
  similar {before after} same kept := by
    refine ⟨kept.anchored.similar same, ?_⟩
    rcases kept.spared with safe | stays | single
    · exact .inl (safe.similar same)
    · exact .inr (.inl (same.focused.symm ▸ stays))
    · exact .inr (.inr (same.samePanes.perm.length_eq.trans single))
  remove {tab pane} kept distinct closes present remaining := by
    have anchoredZoom : ∀ zoomed, (tab.removePane pane).zoomed = some zoomed →
        zoomed ∈ (tab.removePane pane).paneIds := by
      intro zoomed zoom
      obtain ⟨old, different⟩ := Option.filter_eq_some_iff.mp zoom
      exact tab.mem_removePane (by simpa using different)
        (kept.anchored.zoomed zoomed old)
    by_cases lost : tab.focused = pane
    · -- The focus moves: the tab is safe.
      have safe : Safe closable tab := by
        rcases kept.spared with safe | stays | single
        · exact safe
        · exact absurd (lost ▸ closes) stays
        · exact absurd (Tab.removePane_single distinct single present) remaining
      obtain ⟨other, shown⟩ :=
        safe.exists_shown distinct closes present remaining
      obtain ⟨next, fallback⟩ := Tab.exists_fallbackFocus shown
      have refocused : (tab.removePane pane).refocus pane =
          (tab.removePane pane).setFocus next := by
        unfold Tab.refocus
        rw [if_pos (show (tab.removePane pane).focused = pane from lost),
          fallback]
      rw [refocused]
      have inside := Tab.fallbackFocus_mem fallback
      refine ⟨⟨?_, ?_⟩, .inl ((safe.removePane distinct closes
        present).setFocus next)⟩
      · rw [Tab.setFocus_focused, (Tab.samePanes_setFocus _ next).mem_iff]
        exact inside
      · intro zoomed zoom
        rw [Tab.setFocus_zoomed] at zoom
        rw [(Tab.samePanes_setFocus _ next).mem_iff]
        exact anchoredZoom zoomed zoom
    · have steady : (tab.removePane pane).refocus pane = tab.removePane pane := by
        unfold Tab.refocus
        exact if_neg lost
      rw [steady]
      refine ⟨⟨tab.mem_removePane lost kept.anchored.focused, anchoredZoom⟩, ?_⟩
      rcases kept.spared with safe | stays | single
      · exact .inl (safe.removePane distinct closes present)
      · exact .inr (.inl stays)
      · obtain ⟨only, alone⟩ := List.length_eq_one_iff.mp single
        have focused := kept.anchored.focused
        rw [alone, List.mem_singleton] at present focused
        exact absurd (focused.trans present.symm) lost

/-- Being safe, or having one pane only, survives the closes. -/
theorem tabStable_safe :
    TabStable closable fun tab =>
      Safe closable tab ∨ tab.paneIds.length = 1 where
  similar same spared := by
    rcases spared with safe | single
    · exact .inl (safe.similar same)
    · exact .inr (same.samePanes.perm.length_eq.trans single)
  remove {tab pane} spared distinct closes present remaining := by
    rcases spared with safe | single
    · left
      have removed := safe.removePane distinct closes present
      unfold Tab.refocus
      split_ifs
      · split
        · exact removed.setFocus _
        · exact removed
      · exact removed
    · exact absurd (Tab.removePane_single distinct single present) remaining

/-! ## Tabs rewritten by the operations -/

variable {s : SessionActor}

/-- A split of a leaf leaves the tab safe, unless only the focus protected it
and the new pane may close. -/
theorem Kept.split
    {axis : Axis}
    {candidate : TiledNode}
    (kept : Kept closable tab)
    (accepts : s.AcceptsSplit tab pane axis candidate)
    (covered : tab.focused = pane ∨ Safe closable tab ∨
      tab.paneIds.length = 1 ∨ ¬closable s.nextPaneId) :
    Kept closable (splitTab candidate s.nextPaneId tab) := by
  have grown := perm_paneIds_splitTab accepts
  obtain ⟨tree, treeEq, accepted⟩ := accepts
  have leaf : pane ∈ tab.leaves := by
    rw [Tab.leaves_eq_paneIds treeEq]
    exact (TiledNode.splitPane_eq_ok accepted).1
  have newLeaves : candidate.paneIds.Perm (s.nextPaneId :: tab.leaves) := by
    rw [Tab.leaves_eq_paneIds treeEq]
    exact TiledNode.perm_paneIds_splitPane accepted
  have shownNew : ∀ other, other = s.nextPaneId ∨ tab.Shown other →
      (splitTab candidate s.nextPaneId tab).Shown other := by
    intro other shown
    refine (Tab.shown_setFocus_iff _ s.nextPaneId other).mpr ?_
    have inTree : other ∈ candidate.paneIds ↔
        other = s.nextPaneId ∨ other ∈ tab.leaves := by
      rw [newLeaves.mem_iff, List.mem_cons]
    rcases shown with new | leafShown | floatShown
    · exact .inl (inTree.mpr (.inl new))
    · exact .inl (inTree.mpr (.inr leafShown))
    · exact .inr floatShown
  refine ⟨kept.anchored.grow grown (splitTab_focused ..) (splitTab_zoomed ..),
    .inl ?_⟩
  have allShown : (∀ other ∈ tab.paneIds, tab.Shown other) →
      Safe closable (splitTab candidate s.nextPaneId tab) := by
    intro shown
    refine .inr (.inl fun other present => shownNew other ?_)
    rw [grown.mem_iff, List.mem_cons] at present
    exact present.imp_right (shown other)
  have alone : tab.paneIds.length = 1 →
      Safe closable (splitTab candidate s.nextPaneId tab) := by
    intro single
    apply allShown
    obtain ⟨only, paneIds⟩ := List.length_eq_one_iff.mp single
    have inside : pane ∈ tab.paneIds := List.mem_append_left _ leaf
    intro other present
    rw [paneIds, List.mem_singleton] at inside present
    rw [present, ← inside]
    exact .inl leaf
  have someShown : ∀ other, tab.Shown other → ¬closable other →
      Safe closable (splitTab candidate s.nextPaneId tab) :=
    fun other shown stays => .inr (.inr ⟨other, shownNew other (.inr shown), stays⟩)
  have safe : Safe closable tab →
      Safe closable (splitTab candidate s.nextPaneId tab) := by
    rintro (untouched | shown | ⟨other, shown, stays⟩)
    · exact someShown pane (.inl leaf)
        (untouched pane (List.mem_append_left _ leaf))
    · exact allShown shown
    · exact someShown other shown stays
  rcases kept.spared with isSafe | stays | single
  · exact safe isSafe
  · rcases covered with same | isSafe | single | newStays
    · exact someShown pane (.inl leaf) (same ▸ stays)
    · exact safe isSafe
    · exact alone single
    · exact .inr (.inr ⟨s.nextPaneId, shownNew _ (.inl rfl), newStays⟩)
  · exact alone single

theorem kept_freshTab (tabId : Nat) (pane : PaneId) :
    Kept closable (freshTab tabId pane) := by
  refine ⟨⟨?_, fun zoomed zoom => nomatch zoom⟩, .inl (.inr (.inl ?_))⟩
  · exact List.mem_singleton_self pane
  · intro other present
    exact .inl present

/-- A new float shows its class. -/
theorem Kept.float
    (kept : Kept closable tab)
    (pane : PaneId) : Kept closable (s.floatTab pane tab) := by
  have grown := s.perm_paneIds_floatTab pane tab
  refine ⟨kept.anchored.grow grown (floatTab_focused ..) (floatTab_zoomed ..),
    .inl (.inr (.inl fun other present => ?_))⟩
  · have same := Tab.samePanes_setFocus { tab with
      floating := tab.floating.insert pane s.contentArea
        s.config.defaultWidthPercent s.config.defaultHeightPercent } pane
    refine (Tab.shown_setFocus_iff _ pane other).mpr ?_
    rcases List.mem_append.mp ((same.mem_iff other).mp present) with leaf | float
    · exact .inl leaf
    · rw [FloatingLayer.paneIds_eq_classes] at float
      obtain ⟨entry, member, rfl⟩ := List.mem_map.mp float
      exact .inr ⟨entry.2, member, .inr rfl⟩

theorem Kept.toggleZoom
    (kept : Kept closable tab) :
    Kept closable { tab with
      zoomed := if tab.zoomed.isSome then none else some tab.focused } := by
  refine ⟨⟨kept.anchored.focused, fun zoomed zoom => ?_⟩, kept.spared⟩
  simp only at zoom
  split_ifs at zoom
  rw [Option.some.injEq] at zoom
  exact zoom ▸ kept.anchored.focused

/-- The tab with the visibility of its ordinary floats flipped. -/
def flipped (tab : Tab) : Tab :=
  { tab with floating := { tab.floating with
      ordinaryVisible := !tab.floating.ordinaryVisible } }

theorem flipped_setFocus (tab : Tab) (pane : PaneId) :
    flipped (tab.setFocus pane) = (flipped tab).setFocus pane := by
  have raised : ({ tab.floating with
      ordinaryVisible := !tab.floating.ordinaryVisible } :
        FloatingLayer).raise pane =
      { tab.floating.raise pane with
        ordinaryVisible := !(tab.floating.raise pane).ordinaryVisible } := by
    unfold FloatingLayer.raise FloatingLayer.lift
    simp only
    split
    · rfl
    · split <;> rfl
  by_cases leaf : tab.treeContains pane = true
  · have flippedLeaf : (flipped tab).treeContains pane = true := leaf
    unfold Tab.setFocus
    rw [if_pos leaf, if_pos flippedLeaf]
    rfl
  · have flippedLeaf : ¬(flipped tab).treeContains pane = true := leaf
    unfold Tab.setFocus
    rw [if_neg leaf, if_neg flippedLeaf]
    simp only [flipped, raised]

/-- A toggle keeps a tab whose flipped copy is safe. -/
theorem Kept.toggleTabFloats
    (kept : Kept closable tab)
    (safe : Safe closable (flipped tab) ∨ tab.paneIds.length = 1) :
    Kept closable (toggleTabFloats tab) := by
  have anchored : Anchored (flipped tab) :=
    ⟨kept.anchored.focused, kept.anchored.zoomed⟩
  have unmoved : Kept closable (flipped tab) :=
    ⟨anchored, safe.imp_right .inr⟩
  unfold SessionActor.toggleTabFloats
  simp only
  split_ifs with hidden
  · split
    · rename_i next fallback
      have inside : next ∈ (flipped tab).paneIds := Tab.fallbackFocus_mem fallback
      refine ⟨anchored.setFocus inside, ?_⟩
      rcases safe with isSafe | single
      · exact .inl (isSafe.setFocus next)
      · exact .inr (.inr ((Tab.samePanes_setFocus _ next).perm.length_eq.trans
          single))
    · exact unmoved
  · exact unmoved

/-- Being safe after a toggle survives the closes. -/
theorem tabStable_flipped :
    TabStable closable fun tab =>
      Safe closable (flipped tab) ∨ tab.paneIds.length = 1 where
  similar {before after} same spared := by
    have flippedSame : Tab.Similar (flipped before) (flipped after) :=
      ⟨same.id, same.leaves, same.classes, by
        show (!after.floating.ordinaryVisible) = !before.floating.ordinaryVisible
        rw [same.visible], same.focused, same.zoomed⟩
    rcases spared with safe | single
    · exact .inl (safe.similar flippedSame)
    · exact .inr (same.samePanes.perm.length_eq.trans single)
  remove {tab pane} spared distinct closes present remaining := by
    rcases spared with safe | single
    · left
      have removed : Safe closable (flipped (tab.removePane pane)) :=
        Safe.removePane safe distinct closes present
      unfold Tab.refocus
      split_ifs
      · split
        · rw [flipped_setFocus]
          exact removed.setFocus _
        · exact removed
      · exact removed
    · exact absurd (Tab.removePane_single distinct single present) remaining

end Spared

end SessionActor

end Session
end Vvmux
