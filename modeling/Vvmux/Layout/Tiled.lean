import Vvmux.Layout.Rect
import Mathlib.Tactic.Ring

/-!
# The tiled tree

A tiled tree is a binary tree of splits over pane leaves. Each split divides
one axis of its area by a pair of weights. Functions that can abort the session
server (a clamp with crossed bounds, an overflowing product or sum) return
`none` there.
-/

namespace Vvmux
namespace Layout

open Library

inductive TiledNode
  | leaf (pane : PaneId)
  | split
      (axis : Axis)
      (first second : TiledNode)
      (firstWeight secondWeight : Nat)
  deriving DecidableEq, Repr

/-- Extent given to the first child of a split, never all of the parent's and
never nothing. The clamp aborts when the parent's extent is below two. -/
def firstExtent (extent firstWeight secondWeight : Nat) : Option Nat := do
  let totalWeight := max (saturatingAdd u32Max firstWeight secondWeight) 1
  let weighted ← checkedMul u32Max extent firstWeight
  clamp? (weighted / totalWeight) 1 (extent - 1)

/-- Areas of both children and the extent that was divided. -/
def splitAreas
    (area : Rect)
    (axis : Axis)
    (firstWeight secondWeight : Nat) : Option (Rect × Rect × Nat) :=
  match axis with
  | .vertical => do
      let firstSize ← firstExtent area.width firstWeight secondWeight
      let secondX ← checkedAdd u16Max area.x firstSize
      let secondWidth ← checkedSub area.width firstSize
      return ({ area with width := firstSize },
        { area with x := secondX, width := secondWidth }, area.width)
  | .horizontal => do
      let firstSize ← firstExtent area.height firstWeight secondWeight
      let secondY ← checkedAdd u16Max area.y firstSize
      let secondHeight ← checkedSub area.height firstSize
      return ({ area with height := firstSize },
        { area with y := secondY, height := secondHeight }, area.height)

namespace TiledNode

/-- Panes of the leaves from first to second child. -/
def paneIds : TiledNode → List PaneId
  | .leaf pane => [pane]
  | .split _ first second _ _ => first.paneIds ++ second.paneIds

def contains (pane : PaneId) : TiledNode → Bool
  | .leaf id => id == pane
  | .split _ first second _ _ => first.contains pane || second.contains pane

/-- Assign a rectangle to every leaf, top down. -/
def place :
    TiledNode → Rect → OrderedMap PaneId Rect → Option (OrderedMap PaneId Rect)
  | .leaf pane, area, output => some (output.insert pane area)
  | .split .vertical first second firstWeight secondWeight, area, output => do
      let firstWidth ← firstExtent area.width firstWeight secondWeight
      let output ← first.place { area with width := firstWidth } output
      second.place
        { area with
          x := saturatingAdd u16Max area.x firstWidth
          width := area.width - firstWidth } output
  | .split .horizontal first second firstWeight secondWeight, area, output => do
      let firstHeight ← firstExtent area.height firstWeight secondWeight
      let output ← first.place { area with height := firstHeight } output
      second.place
        { area with
          y := saturatingAdd u16Max area.y firstHeight
          height := area.height - firstHeight } output

def geometry (tree : TiledNode) (area : Rect) :
    Option (OrderedMap PaneId Rect) :=
  tree.place area OrderedMap.empty

/-- Replace the target leaf, reporting whether it was found. -/
def replaceLeaf (target : PaneId) (replacement : PaneId → TiledNode) :
    TiledNode → TiledNode × Bool
  | .leaf pane =>
      if pane = target then (replacement pane, true) else (.leaf pane, false)
  | .split axis first second firstWeight secondWeight =>
      if first.contains target then
        let replaced := first.replaceLeaf target replacement
        (.split axis replaced.1 second firstWeight secondWeight, replaced.2)
      else
        let replaced := second.replaceLeaf target replacement
        (.split axis first replaced.1 firstWeight secondWeight, replaced.2)

/-- The tree that splitting a leaf in two equal halves produces. -/
def splitCandidate
    (tree : TiledNode)
    (focused newPane : PaneId)
    (axis : Axis) : TiledNode × Bool :=
  tree.replaceLeaf focused fun pane =>
    .split axis (.leaf pane) (.leaf newPane) 1 1

/-- Smaller than the minimum content size. -/
def tooSmall (rect : Rect) : Bool :=
  rect.content.width < minContentColumns ||
    rect.content.height < minContentRows

/-- Split a leaf in two equal halves, if every pane of the resulting layout
keeps the minimum content size in the given area. -/
def splitPane
    (tree : TiledNode)
    (focused newPane : PaneId)
    (axis : Axis)
    (area : Rect) : Option (Except String TiledNode) :=
  let candidate := tree.splitCandidate focused newPane axis
  if !candidate.2 then
    some (.error "focused pane is not in layout")
  else do
    let geometry ← candidate.1.geometry area
    if geometry.entries.any fun entry => tooSmall entry.2 then
      return .error
        "split would make a pane smaller than the minimum content size"
    else
      return .ok candidate.1

/-- Remove a pane; its sibling takes the place of the split. -/
def close (pane : PaneId) : TiledNode → Option TiledNode
  | .leaf id => if id ≠ pane then some (.leaf id) else none
  | .split axis first second firstWeight secondWeight =>
      match first.close pane, second.close pane with
      | some first, some second =>
          some (.split axis first second firstWeight secondWeight)
      | some survivor, none => some survivor
      | none, some survivor => some survivor
      | none, none => none

/-- Axis along which a direction moves a boundary. -/
def compatible : Axis → Direction → Bool
  | .vertical, .left | .vertical, .right => true
  | .horizontal, .up | .horizontal, .down => true
  | _, _ => false

/-- Minimum frame-inclusive extent of a pane along an axis. -/
def minimumExtent : Axis → Nat
  | .vertical => minContentColumns + frameColumns
  | .horizontal => minContentRows + frameRows

/-- Boundary motion for a pane on the given side of a split. -/
def resizeDelta : Axis → Bool → Direction → Int
  | .vertical, true, .right | .horizontal, true, .down => 1
  | .vertical, false, .left | .horizontal, false, .up => -1
  | _, _, _ => 0

/-- Extent of a rectangle along an axis. -/
def extentAlong : Axis → Rect → Nat
  | .vertical, rect => rect.width
  | .horizontal, rect => rect.height

/-- Weights that move a boundary by one cell, when the direction fits the axis
and the side and both children keep the minimum extent. -/
def movedWeights
    (axis : Axis)
    (inFirst : Bool)
    (direction : Direction)
    (firstSize total : Nat) : Option (Nat × Nat) :=
  let delta := resizeDelta axis inFirst direction
  let next : Int := firstSize + delta
  if compatible axis direction ∧ delta ≠ 0 ∧
      (minimumExtent axis : Int) ≤ next ∧
      next ≤ ((total - minimumExtent axis : Nat) : Int) then
    some (next.toNat, total - next.toNat)
  else none

/-- Result of the recursive resize: the tree, whether a boundary has moved and
whether the subtree contains the focused pane. -/
structure ResizeResult where
  tree : TiledNode
  changed : Bool
  contains : Bool
  deriving DecidableEq, Repr

/-- Finish one split on the way up: it moves its own boundary unless a split
below it has already moved. -/
def settle
    (rebuild : TiledNode → Nat → Nat → TiledNode)
    (weights : Nat × Nat)
    (moved : Option (Nat × Nat))
    (inner : ResizeResult) : ResizeResult :=
  if inner.contains && !inner.changed then
    match moved with
    | some (firstWeight, secondWeight) =>
        ⟨rebuild inner.tree firstWeight secondWeight, true, true⟩
    | none => ⟨rebuild inner.tree weights.1 weights.2, false, true⟩
  else
    ⟨rebuild inner.tree weights.1 weights.2, inner.changed, inner.contains⟩

def resizeInner (focused : PaneId) (direction : Direction) :
    TiledNode → Rect → Bool → Option ResizeResult
  | .leaf pane, _, changed => some ⟨.leaf pane, changed, pane == focused⟩
  | .split axis first second firstWeight secondWeight, area, changed =>
      (splitAreas area axis firstWeight secondWeight).bind
        fun (firstArea, secondArea, total) =>
          let firstSize := extentAlong axis firstArea
          if first.contains focused then
            (first.resizeInner focused direction firstArea changed).map
              (settle (fun tree => .split axis tree second)
                (firstWeight, secondWeight)
                (movedWeights axis true direction firstSize total))
          else
            (second.resizeInner focused direction secondArea changed).map
              (settle (fun tree => .split axis first tree)
                (firstWeight, secondWeight)
                (movedWeights axis false direction firstSize total))

/-- Move one boundary by one cell; reports whether one moved. -/
def resize
    (tree : TiledNode)
    (focused : PaneId)
    (direction : Direction)
    (area : Rect) : Option (TiledNode × Bool) := do
  let result ← tree.resizeInner focused direction area false
  return (result.tree, result.changed)

@[simp] theorem paneIds_leaf (pane : PaneId) :
    (leaf pane).paneIds = [pane] := rfl

@[simp] theorem paneIds_split
    (axis : Axis)
    (first second : TiledNode)
    (firstWeight secondWeight : Nat) :
    (split axis first second firstWeight secondWeight).paneIds =
      first.paneIds ++ second.paneIds := rfl

@[simp] theorem contains_iff (tree : TiledNode) (pane : PaneId) :
    tree.contains pane = true ↔ pane ∈ tree.paneIds := by
  induction tree with
  | leaf id =>
      simp only [contains, beq_iff_eq, paneIds_leaf, List.mem_singleton]
      exact eq_comm
  | split axis first second firstWeight secondWeight ihFirst ihSecond =>
      simp [contains, ihFirst, ihSecond]

theorem contains_eq_false_iff (tree : TiledNode) (pane : PaneId) :
    tree.contains pane = false ↔ pane ∉ tree.paneIds := by
  rw [← contains_iff, Bool.not_eq_true]

theorem paneIds_ne_nil (tree : TiledNode) : tree.paneIds ≠ [] := by
  induction tree with
  | leaf pane => simp
  | split axis first second firstWeight secondWeight ihFirst _ =>
      simp [ihFirst]

variable (tree : TiledNode) {area : Rect} {focused : PaneId}

/-- Every pane with a rectangle is a pane of the tree or had one before. -/
theorem mem_of_place
    {output placed : OrderedMap PaneId Rect}
    (result : tree.place area output = some placed)
    (pane : PaneId) : pane ∈ placed ↔ pane ∈ tree.paneIds ∨ pane ∈ output := by
  induction tree generalizing area output placed with
  | leaf id =>
      simp only [place, Option.some.injEq] at result
      subst result
      simp
  | split axis first second firstWeight secondWeight ihFirst ihSecond =>
      cases axis <;>
        simp only [place, Option.bind_eq_bind, Option.bind_eq_some_iff] at result
      all_goals
        obtain ⟨extent, _, middle, firstPlaced, secondPlaced⟩ := result
        rw [ihSecond secondPlaced, ihFirst firstPlaced]
        simp only [paneIds_split, List.mem_append]
        tauto

/-- Geometry assigns a rectangle to exactly the panes of the tree. -/
theorem mem_geometry
    {tree : TiledNode}
    {geometry : OrderedMap PaneId Rect}
    (result : tree.geometry area = some geometry)
    (pane : PaneId) : pane ∈ geometry ↔ pane ∈ tree.paneIds := by
  simpa using mem_of_place tree result pane

/-- Replacing a leaf succeeds exactly on the panes of the tree. -/
theorem replaceLeaf_found
    (target : PaneId)
    (replacement : PaneId → TiledNode) :
    (tree.replaceLeaf target replacement).2 = tree.contains target := by
  induction tree with
  | leaf pane =>
      by_cases same : pane = target
      · simp [replaceLeaf, contains, same]
      · simp [replaceLeaf, contains, same]
  | split axis first second firstWeight secondWeight ihFirst ihSecond =>
      cases inFirst : first.contains target with
      | true =>
          simp only [replaceLeaf, contains, inFirst, if_true, ihFirst,
            Bool.true_or]
      | false =>
          simp only [replaceLeaf, contains, inFirst, Bool.false_eq_true,
            if_false, ihSecond, Bool.false_or]

/-- Splitting one leaf inserts the new pane somewhere in the pane list. -/
theorem perm_paneIds_splitCandidate
    {target : PaneId}
    (newPane : PaneId)
    (axis : Axis)
    (present : target ∈ tree.paneIds) :
    (tree.splitCandidate target newPane axis).1.paneIds.Perm
      (newPane :: tree.paneIds) := by
  unfold splitCandidate
  induction tree with
  | leaf pane =>
      have same : pane = target := by simpa [eq_comm] using present
      subst same
      simp only [replaceLeaf, if_true, paneIds_split, paneIds_leaf]
      exact List.Perm.swap newPane pane []
  | split nodeAxis first second firstWeight secondWeight ihFirst ihSecond =>
      by_cases inFirst : target ∈ first.paneIds
      · have found := (contains_iff first target).mpr inFirst
        simp only [replaceLeaf, found, if_true, paneIds_split]
        exact (ihFirst inFirst).append_right second.paneIds
      · have notFound := (contains_eq_false_iff first target).mpr inFirst
        have inSecond : target ∈ second.paneIds := by
          simpa [inFirst] using present
        simp only [replaceLeaf, notFound, Bool.false_eq_true, if_false,
          paneIds_split]
        have moved := (ihSecond inSecond).append_left first.paneIds
        exact moved.trans List.perm_middle

section

variable
    {tree candidate : TiledNode}
    {focused newPane : PaneId}
    {axis : Axis}
    (accepted : tree.splitPane focused newPane axis area = some (.ok candidate))
include accepted

/-- An accepted split installs its candidate, on a pane of the tree. -/
theorem splitPane_eq_ok :
    focused ∈ tree.paneIds ∧
      candidate = (tree.splitCandidate focused newPane axis).1 := by
  simp only [splitPane, splitCandidate, replaceLeaf_found] at accepted ⊢
  cases present : tree.contains focused with
  | false => simp [present] at accepted
  | true =>
      simp only [present, Bool.not_true, Bool.false_eq_true, if_false,
        Option.bind_eq_bind, Option.bind_eq_some_iff] at accepted
      obtain ⟨geometry, _, chosen⟩ := accepted
      split_ifs at chosen
      · simp at chosen
      · simp only [Option.pure_def, Option.some.injEq, Except.ok.injEq] at chosen
        exact ⟨(contains_iff tree focused).mp present, chosen.symm⟩

/-- An accepted split keeps every pane and adds the new one. -/
theorem perm_paneIds_splitPane :
    candidate.paneIds.Perm (newPane :: tree.paneIds) := by
  obtain ⟨present, rfl⟩ := splitPane_eq_ok accepted
  exact tree.perm_paneIds_splitCandidate newPane axis present

end

/-- The panes left after closing one. -/
theorem paneIds_close
    (pane : PaneId) :
    ((tree.close pane).map paneIds).getD [] =
      tree.paneIds.filter fun id => id ≠ pane := by
  induction tree with
  | leaf id =>
      by_cases same : id = pane <;> simp [close, same]
  | split axis first second firstWeight secondWeight ihFirst ihSecond =>
      rw [paneIds_split, List.filter_append, ← ihFirst,
        ← ihSecond, close]
      cases first.close pane <;> cases second.close pane <;> simp

/-- Closing removes the whole tree exactly when no other pane is left. -/
theorem close_eq_none_iff
    (pane : PaneId) :
    tree.close pane = none ↔ ∀ id ∈ tree.paneIds, id = pane := by
  have remaining := paneIds_close tree pane
  cases closed : tree.close pane with
  | none =>
      rw [closed] at remaining
      simpa using remaining.symm
  | some survivor =>
      rw [closed] at remaining
      simp only [Option.map_some, Option.getD_some] at remaining
      simp only [reduceCtorEq, false_iff, not_forall]
      obtain ⟨id, present⟩ := List.exists_mem_of_ne_nil _ survivor.paneIds_ne_nil
      rw [remaining, List.mem_filter] at present
      exact ⟨id, present.1, by simpa using present.2⟩

theorem paneIds_of_close_eq_some
    {tree survivor : TiledNode}
    {pane : PaneId}
    (closed : tree.close pane = some survivor) :
    survivor.paneIds = tree.paneIds.filter fun id => id ≠ pane := by
  simpa [closed] using paneIds_close tree pane

/-- Closing a pane outside the tree leaves the tree as it is. -/
theorem close_eq_self
    {pane : PaneId}
    (absent : pane ∉ tree.paneIds) : tree.close pane = some tree := by
  induction tree with
  | leaf id =>
      have different : id ≠ pane := fun same => absent (by simp [same])
      simp [close, different]
  | split axis first second firstWeight secondWeight ihFirst ihSecond =>
      simp only [paneIds_split, List.mem_append, not_or] at absent
      simp [close, ihFirst absent.1, ihSecond absent.2]

/-- Settling rebuilds the split around the inner tree with some weights. -/
theorem settle_tree
    (rebuild : TiledNode → Nat → Nat → TiledNode)
    (weights : Nat × Nat)
    (moved : Option (Nat × Nat))
    (inner : ResizeResult) :
    ∃ firstWeight secondWeight,
      (settle rebuild weights moved inner).tree =
        rebuild inner.tree firstWeight secondWeight := by
  unfold settle
  split
  · cases moved with
    | none => exact ⟨_, _, rfl⟩
    | some pair => exact ⟨pair.1, pair.2, rfl⟩
  · exact ⟨_, _, rfl⟩

variable {direction : Direction}

/-- Moving a boundary keeps the order of the panes. -/
theorem paneIds_resizeInner
    {changed : Bool}
    {result : ResizeResult}
    (resized : tree.resizeInner focused direction area changed = some result) :
    result.tree.paneIds = tree.paneIds := by
  induction tree generalizing area changed result with
  | leaf pane =>
      simp only [resizeInner, Option.some.injEq] at resized
      simp [← resized]
  | split axis first second firstWeight secondWeight ihFirst ihSecond =>
      simp only [resizeInner, Option.bind_eq_some_iff] at resized
      obtain ⟨⟨firstArea, secondArea, total⟩, _, chosen⟩ := resized
      split_ifs at chosen with inFirst
      · obtain ⟨inner, innerResized, rfl⟩ := Option.map_eq_some_iff.mp chosen
        obtain ⟨rebuildFirst, rebuildSecond, settled⟩ :=
          settle_tree (fun tree => .split axis tree second) _ _ inner
        rw [settled, paneIds_split, ihFirst innerResized, paneIds_split]
      · obtain ⟨inner, innerResized, rfl⟩ := Option.map_eq_some_iff.mp chosen
        obtain ⟨rebuildFirst, rebuildSecond, settled⟩ :=
          settle_tree (fun tree => .split axis first tree) _ _ inner
        rw [settled, paneIds_split, ihSecond innerResized,
          paneIds_split]

theorem paneIds_resize
    {tree resized : TiledNode}
    {changed : Bool}
    (result : tree.resize focused direction area = some (resized, changed)) :
    resized.paneIds = tree.paneIds := by
  simp only [resize, Option.bind_eq_bind, Option.bind_eq_some_iff,
    Option.pure_def, Option.some.injEq, Prod.mk.injEq] at result
  obtain ⟨inner, innerResized, rfl, _⟩ := result
  exact paneIds_resizeInner tree innerResized

end TiledNode

end Layout
end Vvmux
