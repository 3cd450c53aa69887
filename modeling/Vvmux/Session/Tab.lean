import Vvmux.Layout.Tiled
import Vvmux.Layout.Floating

/-!
# Tabs

A tab owns an optional tiled tree, a floating layer, the focused pane, the last
focused tiled pane and the zoomed pane. Its projections are the bottom-to-top
paint list that composition, hit testing, PTY sizing and focus share.
-/

namespace Vvmux
namespace Session

open Library
open Layout

structure Tab where
  id : Nat
  /-- `none` when the last tiled pane closed and only floats remain. -/
  tree : Option TiledNode
  floating : FloatingLayer
  focused : PaneId
  lastFocusedTiled : Option PaneId
  zoomed : Option PaneId
  deriving DecidableEq, Repr

namespace Tab

def treeContains (tab : Tab) (pane : PaneId) : Bool :=
  tab.tree.any fun tree => tree.contains pane

def contains (tab : Tab) (pane : PaneId) : Bool :=
  tab.treeContains pane || tab.floating.contains pane

def isEmpty (tab : Tab) : Bool := tab.tree.isNone && tab.floating.isEmpty

/-- Topmost visible pinned float, topmost visible ordinary float, last focused
tiled pane, first tiled leaf. -/
def fallbackFocus (tab : Tab) : Option PaneId :=
  tab.floating.focusCandidate
    |>.or (tab.lastFocusedTiled.filter fun pane => tab.treeContains pane)
    |>.or (tab.tree.bind fun tree => tree.paneIds.head?)

def setFocus (tab : Tab) (pane : PaneId) : Tab :=
  if tab.treeContains pane then
    { tab with focused := pane, lastFocusedTiled := some pane }
  else { tab with focused := pane, floating := tab.floating.raise pane }

/-- Projections of the tiled class, in ascending pane order. -/
def tiledProjections (tab : Tab) (area : Rect) : Option (List PaneProjection) :=
  match tab.tree with
  | some tree =>
      (tree.geometry area).map fun geometry =>
        geometry.entries.map fun (paneId, outer) =>
          ⟨paneId, outer, outer.content, .tiled, tab.focused == paneId⟩
  | none => some []

/-- Projections of the visible floats. -/
def floatProjections (tab : Tab) : List PaneProjection :=
  tab.floating.visible.map fun float =>
    ⟨float.paneId, float.rect, float.rect.content,
      if float.pinned then .pinned else .floating,
      tab.focused == float.paneId⟩

/-- Bottom-to-top paint list; a zoomed tab projects its zoomed pane only. -/
def visibleProjections (tab : Tab) (area : Rect) : Option (List PaneProjection) :=
  match tab.zoomed with
  | some zoomed =>
      let layer := match tab.floating.get zoomed with
        | some float => if float.pinned then .pinned else .floating
        | none => PaneLayer.tiled
      some [⟨zoomed, area, area.content, layer, tab.focused == zoomed⟩]
  | none =>
      (tab.tiledProjections area).map fun tiled => tiled ++ tab.floatProjections

/-- Drop a pane from its class and forget it as zoomed or last focused. -/
def removePane (tab : Tab) (pane : PaneId) : Tab :=
  let removed := tab.floating.remove pane
  { tab with
    tree := if removed.2 then tab.tree
      else tab.tree.bind fun tree => tree.close pane
    floating := removed.1
    zoomed := tab.zoomed.filter fun zoomed => zoomed ≠ pane
    lastFocusedTiled := tab.lastFocusedTiled.filter fun last => last ≠ pane }

/-- Focus the fallback of a tab whose focused pane has gone, if there is one. -/
def refocus (tab : Tab) (gone : PaneId) : Tab :=
  if tab.focused = gone then
    match tab.fallbackFocus with
    | some next => tab.setFocus next
    | none => tab
  else tab

/-- Leaves of the tree, if there is one. -/
def leaves (tab : Tab) : List PaneId :=
  (tab.tree.map TiledNode.paneIds).getD []

/-- Every pane of the tab: leaves of the tree, then floats. -/
def paneIds (tab : Tab) : List PaneId := tab.leaves ++ tab.floating.paneIds

variable {tab before after : Tab} {pane : PaneId}

variable {tree : TiledNode}

theorem leaves_eq_paneIds
    (treeEq : tab.tree = some tree) : tab.leaves = tree.paneIds := by
  simp [leaves, treeEq]

theorem leaves_eq_nil_iff (tab : Tab) : tab.leaves = [] ↔ tab.tree = none := by
  unfold leaves
  cases tab.tree with
  | none => simp
  | some tree => simp [tree.paneIds_ne_nil]

@[simp] theorem treeContains_iff (tab : Tab) (pane : PaneId) :
    tab.treeContains pane = true ↔ pane ∈ tab.leaves := by
  unfold treeContains leaves
  cases tab.tree with
  | none => simp
  | some tree => simp

@[simp] theorem contains_iff (tab : Tab) (pane : PaneId) :
    tab.contains pane = true ↔ pane ∈ tab.paneIds := by
  simp only [contains, Bool.or_eq_true, treeContains_iff,
    FloatingLayer.contains_iff, paneIds, List.mem_append]

theorem isEmpty_iff (tab : Tab) : tab.isEmpty = true ↔ tab.paneIds = [] := by
  simp only [isEmpty, Bool.and_eq_true, Option.isNone_iff_eq_none,
    FloatingLayer.isEmpty_iff, paneIds, List.append_eq_nil_iff,
    leaves_eq_nil_iff]

/-- The fallback is always a pane of the tab. -/
theorem fallbackFocus_mem
    {next : PaneId}
    (found : tab.fallbackFocus = some next) : next ∈ tab.paneIds := by
  simp only [fallbackFocus, Option.or_eq_some_iff] at found
  simp only [paneIds, List.mem_append]
  rcases found with (candidate | ⟨_, last⟩) | ⟨_, first⟩
  · exact .inr (FloatingLayer.focusCandidate_mem candidate)
  · obtain ⟨_, inTree⟩ := Option.filter_eq_some_iff.mp last
    exact .inl ((treeContains_iff tab next).mp inTree)
  · left
    cases treeEq : tab.tree with
    | none => simp [treeEq] at first
    | some tree =>
        simp only [treeEq, Option.bind_some] at first
        rw [leaves_eq_paneIds treeEq]
        exact List.mem_of_head? first

/-- There is no fallback exactly when the tab has no tree and no visible
float. -/
theorem fallbackFocus_eq_none_iff (tab : Tab) :
    tab.fallbackFocus = none ↔ tab.tree = none ∧ tab.floating.visible = [] := by
  simp only [fallbackFocus, Option.or_eq_none_iff,
    FloatingLayer.focusCandidate_eq_none_iff]
  cases treeEq : tab.tree with
  | none => simp [treeContains, treeEq]
  | some tree =>
      simp [List.head?_eq_none_iff, tree.paneIds_ne_nil]

/-! ## Which operations keep the panes of a tab -/

/-- Two tabs with the same leaves and the same floats up to order. -/
structure SamePanes (before after : Tab) : Prop where
  id : after.id = before.id
  leaves : after.leaves.Perm before.leaves
  floats : after.floating.paneIds.Perm before.floating.paneIds

theorem SamePanes.refl (tab : Tab) : SamePanes tab tab :=
  ⟨rfl, List.Perm.refl _, List.Perm.refl _⟩

theorem SamePanes.trans
    {before between after : Tab}
    (first : SamePanes before between)
    (second : SamePanes between after) : SamePanes before after :=
  ⟨second.id.trans first.id, second.leaves.trans first.leaves,
    second.floats.trans first.floats⟩

theorem SamePanes.perm
    (same : SamePanes before after) : after.paneIds.Perm before.paneIds :=
  same.leaves.append same.floats

theorem SamePanes.mem_iff
    (same : SamePanes before after)
    (pane : PaneId) : pane ∈ after.paneIds ↔ pane ∈ before.paneIds :=
  same.perm.mem_iff

/-- Two tabs that differ in weights, rectangles and orders only: the same panes
in the same classes, the same visibility, focus and zoom. -/
structure Similar (before after : Tab) : Prop where
  id : after.id = before.id
  leaves : after.leaves.Perm before.leaves
  classes : after.floating.classes.Perm before.floating.classes
  visible : after.floating.ordinaryVisible = before.floating.ordinaryVisible
  focused : after.focused = before.focused
  zoomed : after.zoomed = before.zoomed

theorem Similar.refl (tab : Tab) : Similar tab tab :=
  ⟨rfl, List.Perm.refl _, List.Perm.refl _, rfl, rfl, rfl⟩

theorem Similar.trans
    {before between after : Tab}
    (first : Similar before between)
    (second : Similar between after) : Similar before after :=
  ⟨second.id.trans first.id, second.leaves.trans first.leaves,
    second.classes.trans first.classes, second.visible.trans first.visible,
    second.focused.trans first.focused, second.zoomed.trans first.zoomed⟩

theorem perm_of_classes
    {before after : FloatingLayer}
    (classes : after.classes.Perm before.classes) :
    after.paneIds.Perm before.paneIds := by
  rw [FloatingLayer.paneIds_eq_classes, FloatingLayer.paneIds_eq_classes]
  exact classes.map Prod.fst

theorem Similar.samePanes
    (similar : Similar before after) : SamePanes before after :=
  ⟨similar.id, similar.leaves, perm_of_classes similar.classes⟩

/-- Another tree with the same leaves makes a similar tab. -/
theorem similar_tree
    (tab : Tab)
    (leaves : tree.paneIds.Perm tab.leaves) :
    Similar tab { tab with tree := some tree } :=
  ⟨rfl, leaves, List.Perm.refl _, rfl, rfl, rfl⟩

/-- Another layer with the same classes makes a similar tab. -/
theorem similar_floating
    (tab : Tab)
    {floating : FloatingLayer}
    (kept : floating.classes = tab.floating.classes ∧
      floating.ordinaryVisible = tab.floating.ordinaryVisible) :
    Similar tab { tab with floating } :=
  ⟨rfl, List.Perm.refl _, List.Perm.of_eq kept.1, kept.2, rfl, rfl⟩

theorem samePanes_setFocus (tab : Tab) (pane : PaneId) :
    SamePanes tab (tab.setFocus pane) := by
  unfold setFocus
  split
  · exact ⟨rfl, List.Perm.refl _, List.Perm.refl _⟩
  · exact ⟨rfl, List.Perm.refl _,
      perm_of_classes (tab.floating.perm_classes_raise pane).1⟩

@[simp] theorem setFocus_focused (tab : Tab) (pane : PaneId) :
    (tab.setFocus pane).focused = pane := by
  unfold setFocus
  split <;> rfl

@[simp] theorem setFocus_zoomed (tab : Tab) (pane : PaneId) :
    (tab.setFocus pane).zoomed = tab.zoomed := by
  unfold setFocus
  split <;> rfl

@[simp] theorem setFocus_leaves (tab : Tab) (pane : PaneId) :
    (tab.setFocus pane).leaves = tab.leaves := by
  unfold setFocus
  split <;> rfl

/-- Focusing reorders floats inside their classes at most. -/
theorem setFocus_floating (tab : Tab) (pane : PaneId) :
    (tab.setFocus pane).floating.classes.Perm tab.floating.classes ∧
      (tab.setFocus pane).floating.ordinaryVisible =
        tab.floating.ordinaryVisible := by
  unfold setFocus
  split
  · exact ⟨List.Perm.refl _, rfl⟩
  · exact tab.floating.perm_classes_raise pane

theorem samePanes_refocus (tab : Tab) (gone : PaneId) :
    SamePanes tab (tab.refocus gone) := by
  unfold refocus
  split
  · split
    · exact samePanes_setFocus tab _
    · exact SamePanes.refl tab
  · exact SamePanes.refl tab

/-- Removing a pane that is a float leaves the tree alone; any other removal
filters the leaves. -/
theorem leaves_removePane (tab : Tab) (pane : PaneId) :
    (tab.removePane pane).leaves =
      if pane ∈ tab.floating.paneIds then tab.leaves
      else tab.leaves.filter fun id => id ≠ pane := by
  simp only [removePane, leaves, FloatingLayer.remove_reports]
  split_ifs with floats
  · rfl
  · cases treeEq : tab.tree with
    | none => simp
    | some tree => simpa using tree.paneIds_close pane

/-- Removing a pane that the tab holds once removes exactly that pane. -/
theorem paneIds_removePane
    (tab : Tab)
    (pane : PaneId)
    (distinct : tab.paneIds.Nodup) :
    (tab.removePane pane).paneIds =
      tab.paneIds.filter fun id => id ≠ pane := by
  have floats : (tab.removePane pane).floating.paneIds =
      tab.floating.paneIds.filter fun id => id ≠ pane :=
    tab.floating.paneIds_remove pane
  rw [paneIds, paneIds, leaves_removePane, floats, List.filter_append]
  congr 1
  split_ifs with isFloat
  · -- A pane is a float or a leaf, never both.
    refine (List.filter_eq_self.mpr fun id leaf => ?_).symm
    have apart := (List.nodup_append.mp distinct).2.2
    simpa using apart id leaf pane isFloat
  · rfl

/-- Removing the only pane empties the tab. -/
theorem removePane_single
    (distinct : tab.paneIds.Nodup)
    (single : tab.paneIds.length = 1)
    (present : pane ∈ tab.paneIds) : (tab.removePane pane).paneIds = [] := by
  obtain ⟨only, alone⟩ := List.length_eq_one_iff.mp single
  rw [tab.paneIds_removePane pane distinct, alone]
  rw [alone, List.mem_singleton] at present
  simp [present]

/-- A pane other than the removed one stays, in any case. -/
theorem mem_removePane
    (tab : Tab)
    {pane other : PaneId}
    (different : other ≠ pane)
    (present : other ∈ tab.paneIds) :
    other ∈ (tab.removePane pane).paneIds := by
  have floats : (tab.removePane pane).floating.paneIds =
      tab.floating.paneIds.filter fun id => id ≠ pane :=
    tab.floating.paneIds_remove pane
  simp only [paneIds, List.mem_append, leaves_removePane, floats] at present ⊢
  rcases present with leaf | float
  · left
    split_ifs
    · exact leaf
    · exact List.mem_filter.mpr ⟨leaf, by simpa using different⟩
  · exact .inr (List.mem_filter.mpr ⟨float, by simpa using different⟩)

/-! ## Shown panes -/

/-- A leaf, a pinned float, or an ordinary float while its class is shown. -/
def Shown (tab : Tab) (pane : PaneId) : Prop :=
  pane ∈ tab.leaves ∨
    ∃ pinned, (pane, pinned) ∈ tab.floating.classes ∧
      (pinned = true ∨ tab.floating.ordinaryVisible = true)

theorem mem_of_shown (shown : tab.Shown pane) : pane ∈ tab.paneIds := by
  rw [paneIds, List.mem_append]
  rcases shown with leaf | ⟨pinned, present, _⟩
  · exact .inl leaf
  · right
    rw [FloatingLayer.paneIds_eq_classes]
    exact List.mem_map_of_mem present

/-- A tab that shows some pane has a fallback. -/
theorem exists_fallbackFocus
    (shown : tab.Shown pane) : ∃ next, tab.fallbackFocus = some next := by
  rw [← Option.ne_none_iff_exists']
  intro none
  obtain ⟨noTree, noVisible⟩ := (fallbackFocus_eq_none_iff tab).mp none
  rcases shown with leaf | ⟨pinned, present, visible⟩
  · rw [(leaves_eq_nil_iff tab).mpr noTree] at leaf
    exact nomatch leaf
  · exact (FloatingLayer.visible_eq_nil_iff tab.floating).mp noVisible _ present
      visible

theorem Similar.shown_iff
    (similar : Similar before after)
    (pane : PaneId) : after.Shown pane ↔ before.Shown pane := by
  unfold Shown
  rw [similar.leaves.mem_iff, similar.visible]
  simp only [similar.classes.mem_iff]

theorem shown_setFocus_iff (tab : Tab) (focused pane : PaneId) :
    (tab.setFocus focused).Shown pane ↔ tab.Shown pane := by
  obtain ⟨classes, visible⟩ := setFocus_floating tab focused
  unfold Shown
  rw [setFocus_leaves, visible]
  simp only [classes.mem_iff]

/-- A removal shows no less of the other panes. -/
theorem shown_removePane
    {pane other : PaneId}
    (different : other ≠ pane)
    (shown : tab.Shown other) : (tab.removePane pane).Shown other := by
  unfold Shown
  rw [leaves_removePane]
  rcases shown with leaf | ⟨pinned, present, visible⟩
  · left
    split_ifs
    · exact leaf
    · exact List.mem_filter.mpr ⟨leaf, by simpa using different⟩
  · refine .inr ⟨pinned, ?_, visible⟩
    have classes : (tab.removePane pane).floating.classes =
        tab.floating.classes.filter fun entry => entry.1 ≠ pane :=
      tab.floating.classes_remove pane
    rw [classes]
    exact List.mem_filter.mpr ⟨present, by simpa using different⟩

variable {projections : List PaneProjection} {projection : PaneProjection}

/-- What an unzoomed tab projects, it shows. -/
theorem shown_of_visibleProjections
    {area : Rect}
    (result : tab.visibleProjections area = some projections)
    (unzoomed : tab.zoomed = none)
    (present : projection ∈ projections) : tab.Shown projection.paneId := by
  unfold visibleProjections at result
  simp only [unzoomed] at result
  obtain ⟨tiled, tiledEq, rfl⟩ := Option.map_eq_some_iff.mp result
  rcases List.mem_append.mp present with inTree | inFloats
  · left
    unfold tiledProjections at tiledEq
    cases treeEq : tab.tree with
    | none =>
        simp only [treeEq, Option.some.injEq] at tiledEq
        simp [← tiledEq] at inTree
    | some tree =>
        simp only [treeEq] at tiledEq
        obtain ⟨geometry, placed, rfl⟩ := Option.map_eq_some_iff.mp tiledEq
        obtain ⟨entry, member, rfl⟩ := List.mem_map.mp inTree
        rw [leaves_eq_paneIds treeEq]
        exact (TiledNode.mem_geometry placed entry.1).mp
          (List.mem_map_of_mem member)
  · right
    obtain ⟨float, shown, rfl⟩ := List.mem_map.mp inFloats
    obtain ⟨stored, visible⟩ :=
      (FloatingLayer.mem_visible_iff tab.floating float).mp shown
    exact ⟨float.pinned, List.mem_map.mpr ⟨float, stored, rfl⟩, visible⟩

/-- Every projected pane belongs to the tab, when the zoomed one does. -/
theorem mem_visibleProjections
    {area : Rect}
    (result : tab.visibleProjections area = some projections)
    (zoomedInside : ∀ zoomed, tab.zoomed = some zoomed → zoomed ∈ tab.paneIds)
    (present : projection ∈ projections) : projection.paneId ∈ tab.paneIds := by
  have projected := result
  unfold visibleProjections at result
  cases zoom : tab.zoomed with
  | some zoomed =>
      simp only [zoom, Option.some.injEq] at result
      subst result
      rw [List.mem_singleton] at present
      subst present
      exact zoomedInside zoomed zoom
  | none => exact mem_of_shown (shown_of_visibleProjections projected zoom present)

end Tab

end Session
end Vvmux
