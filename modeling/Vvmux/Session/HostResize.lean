import Vvmux.Library.Machine
import Vvmux.Layout.Extents
import Vvmux.Session.Display

/-!
# Layout under host resizes

A tiled tree grows by accepted splits and shrinks by closes, each in the content
area of its own moment, while the host may change size in between. The layout
functions return normally in a later area exactly when the tree fits it; a host
that shrinks below the extents of a deep tree aborts them.
-/

namespace Vvmux
namespace Session

open Library
open Layout

/-- Operations that rewrite a tiled tree. -/
inductive TreeOperation
  | split (focused newPane : PaneId) (axis : Axis)
  | close (pane : PaneId)
  | resize (focused : PaneId) (direction : Direction)
  deriving DecidableEq, Repr

/-- One operation in a content area, when it returns normally and is accepted. -/
def treeStep
    (before : TiledNode)
    (event : Rect × TreeOperation)
    (after : TiledNode) : Prop :=
  HostArea event.1 ∧
    match event.2 with
    | .split focused newPane axis =>
        before.splitPane focused newPane axis event.1 = some (.ok after)
    | .close pane => before.close pane = some after
    | .resize focused direction =>
        ∃ changed,
          before.resize focused direction event.1 = some (after, changed)

/-- Trees grown from one leaf while the host changes size. -/
def treeMachine : Machine TiledNode (Rect × TreeOperation) where
  initial tree := ∃ pane, tree = .leaf pane
  step := treeStep

/-- Trees of runs without any restriction. -/
abbrev ReachableTree (tree : TiledNode) : Prop :=
  treeMachine.Reachable (fun _ _ => True) tree

variable {area : Rect}

theorem HostArea.areaAdmitted
    (admitted : HostArea area) : TiledNode.AreaAdmitted area := by
  have bounds := admitted.bounds
  simp only [TiledNode.AreaAdmitted, u16Max]
  omega

theorem HostArea.edgesAdmitted
    (admitted : HostArea area) : TiledNode.EdgesAdmitted area := by
  have bounds := admitted.bounds
  simp only [TiledNode.EdgesAdmitted, u16Max]
  omega

variable {before after : TiledNode}

/-- Every tree step keeps the weights admitted. -/
theorem weighted_of_treeStep
    {event : Rect × TreeOperation}
    (weighted : before.Weighted)
    (stepped : treeStep before event after) : after.Weighted := by
  obtain ⟨admitted, result⟩ := stepped
  obtain ⟨area, operation⟩ := event
  cases operation with
  | split focused newPane axis => exact weighted.splitPane result
  | close pane => exact weighted.close result
  | resize focused direction =>
      obtain ⟨changed, resized⟩ := result
      exact weighted.resize admitted.edgesAdmitted resized

theorem ReachableTree.weighted
    {tree : TiledNode}
    (reachable : ReachableTree tree) : tree.Weighted := by
  refine reachable.invariant ?_ ?_
  · rintro _ ⟨pane, rfl⟩
    trivial
  · intro before event after weighted _ stepped
    exact weighted_of_treeStep weighted stepped

/-- An accepted split extends a run. -/
theorem ReachableTree.split
    (reachable : ReachableTree before)
    (admitted : HostArea area)
    (focused newPane : PaneId)
    (axis : Axis)
    (accepted :
      before.splitPane focused newPane axis area = some (.ok after)) :
    ReachableTree after :=
  @Machine.Reachable.step _ _ treeMachine _ before after
    (area, .split focused newPane axis) reachable trivial ⟨admitted, accepted⟩

/-- In every admitted area, geometry, split and resize of a reachable tree
return normally exactly when the tree, the split candidate or the descended
path, respectively, fits the area. -/
theorem layout_returns_iff_fits
    {tree : TiledNode}
    {area : Rect}
    (reachable : ReachableTree tree)
    (admitted : HostArea area) :
    ((tree.geometry area).isSome ↔ tree.Fits area) ∧
      (∀ focused newPane axis,
        (tree.splitPane focused newPane axis area).isSome ↔
          (focused ∈ tree.paneIds →
            (tree.splitCandidate focused newPane axis).1.Fits area)) ∧
      ∀ focused direction,
        (tree.resize focused direction area).isSome ↔
          (tree.alongPath focused).Fits area :=
  ⟨TiledNode.geometry_isSome_iff reachable.weighted admitted.areaAdmitted,
    fun focused newPane axis => TiledNode.splitPane_isSome_iff
      reachable.weighted admitted.areaAdmitted focused newPane axis,
    fun focused direction => TiledNode.resize_isSome_iff
      reachable.weighted admitted.areaAdmitted admitted.edgesAdmitted
      focused direction⟩

/-- A wide host. -/
def wideArea : Rect := ⟨0, 0, 200, 23⟩

/-- The smallest admitted host. -/
def narrowArea : Rect := ⟨0, 0, 10, 4⟩

/-- Four nested vertical splits of the leftmost pane. -/
def nestedTree : TiledNode :=
  .split .vertical
    (.split .vertical
      (.split .vertical
        (.split .vertical (.leaf 1) (.leaf 5) 1 1)
        (.leaf 4) 1 1)
      (.leaf 3) 1 1)
    (.leaf 2) 1 1

theorem hostArea_wideArea : HostArea wideArea :=
  ⟨⟨200, 24, 0, 0⟩, true, by decide⟩

theorem hostArea_narrowArea : HostArea narrowArea :=
  ⟨⟨10, 4, 0, 0⟩, true, by decide⟩

theorem reachableTree_nestedTree : ReachableTree nestedTree := by
  have one : ReachableTree (.leaf 1) := .initial ⟨1, rfl⟩
  have two : ReachableTree (.split .vertical (.leaf 1) (.leaf 2) 1 1) :=
    one.split hostArea_wideArea 1 2 .vertical rfl
  have three : ReachableTree (.split .vertical
      (.split .vertical (.leaf 1) (.leaf 3) 1 1) (.leaf 2) 1 1) :=
    two.split hostArea_wideArea 1 3 .vertical rfl
  have four : ReachableTree (.split .vertical
      (.split .vertical (.split .vertical (.leaf 1) (.leaf 4) 1 1)
        (.leaf 3) 1 1) (.leaf 2) 1 1) :=
    three.split hostArea_wideArea 1 4 .vertical rfl
  exact four.split hostArea_wideArea 1 5 .vertical rfl

theorem layout_returns_iff_fits_nestedTree :
    ((nestedTree.geometry narrowArea).isSome ↔ nestedTree.Fits narrowArea) ∧
      (∀ focused newPane axis,
        (nestedTree.splitPane focused newPane axis narrowArea).isSome ↔
          (focused ∈ nestedTree.paneIds →
            (nestedTree.splitCandidate focused newPane axis).1.Fits
              narrowArea)) ∧
      ∀ focused direction,
        (nestedTree.resize focused direction narrowArea).isSome ↔
          (nestedTree.alongPath focused).Fits narrowArea :=
  layout_returns_iff_fits reachableTree_nestedTree hostArea_narrowArea

/-- After four splits on a wide host, the geometry of the narrowest admitted
host aborts, and so does a resize of the deepest pane. -/
theorem geometry_aborts_after_shrink :
    ReachableTree nestedTree ∧ HostArea narrowArea ∧
      nestedTree.geometry narrowArea = none ∧
      nestedTree.resize 1 .right narrowArea = none :=
  ⟨reachableTree_nestedTree, hostArea_narrowArea, by decide, by decide⟩

end Session
end Vvmux
