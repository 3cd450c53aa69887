import Vvmux.Layout.Growing

/-!
# Splitting and closing

A split puts a new pane right after the one it divides, and closing the new
pane undoes it. A close puts the sibling of the closed pane in the place of
their split: the sibling gets that split's area and every other pane keeps its
rectangle.
-/

namespace Vvmux
namespace Layout

open Library

/-- The other child. -/
def Side.other : Side → Side
  | .first => .second
  | .second => .first

/-- The child of a split on a side. -/
def PlacedSplit.child (node : PlacedSplit) : Side → TiledNode
  | .first => node.first
  | .second => node.second

namespace TiledNode

/-- The subtree at a position. -/
def subtreeAt? : TiledNode → Position → Option TiledNode
  | tree, [] => some tree
  | .leaf _, _ :: _ => none
  | .split _ first _ _ _, .first :: rest => first.subtreeAt? rest
  | .split _ _ second _ _, .second :: rest => second.subtreeAt? rest

@[simp] theorem subtreeAt?_nil (tree : TiledNode) :
    tree.subtreeAt? [] = some tree := by
  cases tree <;> rfl

variable {area : Rect} {position : Position} {side : Side}
  {tree survivor sibling : TiledNode} {focused pane : PaneId}

variable {rects : List (PaneId × Rect)}

/-- Where the leaves have rectangles, the split above a subtree has an area. -/
theorem exists_splitAt?
    {tree child : TiledNode}
    (tiled : tree.tile area = some rects)
    (below : tree.subtreeAt? (position ++ [side]) = some child) :
    ∃ node, tree.splitAt? area position = some node ∧
      ∀ other, tree.subtreeAt? (position ++ [other]) =
        some (node.child other) := by
  induction tree generalizing area position rects with
  | leaf pane =>
      cases position <;> cases below
  | split axis first second firstWeight secondWeight ihFirst ihSecond =>
      obtain ⟨share, before, behind, divided, firstTiled, secondTiled, rfl⟩ :=
        tile_split_eq_some_iff.mp tiled
      match position, below with
      | [], _ =>
          refine ⟨_, splitAt?_nil divided, fun other => ?_⟩
          cases other
          · exact subtreeAt?_nil first
          · exact subtreeAt?_nil second
      | .first :: rest, below =>
          rw [(splitAt?_cons divided rest).1]
          exact ihFirst firstTiled below
      | .second :: rest, below =>
          rw [(splitAt?_cons divided rest).2]
          exact ihSecond secondTiled below

/-- The split operation on a tree that it replaces where it succeeds. -/
def splitInPlace
    (tree : TiledNode)
    (focused newPane : PaneId)
    (axis : Axis)
    (area : Rect) : Option (TiledNode × Except String Unit) :=
  let candidate := tree.splitCandidate focused newPane axis
  if !candidate.2 then
    some (tree, .error "focused pane is not in layout")
  else do
    let geometry ← candidate.1.geometry area
    if geometry.entries.any fun entry => tooSmall entry.2 then
      return (tree, .error
        "split would make a pane smaller than the minimum content size")
    else
      return (candidate.1, .ok ())

/-! ## Splitting -/

/-- The new pane stands right after the divided one. -/
theorem paneIds_splitCandidate
    (newPane : PaneId)
    (axis : Axis)
    (present : focused ∈ tree.paneIds) :
    ∃ before behind, tree.paneIds = before ++ focused :: behind ∧
      (tree.splitCandidate focused newPane axis).1.paneIds =
        before ++ focused :: newPane :: behind := by
  unfold splitCandidate
  induction tree with
  | leaf pane =>
      have same : focused = pane := by simpa using present
      subst same
      exact ⟨[], [], rfl, by rw [replaceLeaf, if_pos rfl]; rfl⟩
  | split nodeAxis first second firstWeight secondWeight ihFirst ihSecond =>
      by_cases inFirst : focused ∈ first.paneIds
      · obtain ⟨before, behind, old, new⟩ := ihFirst inFirst
        refine ⟨before, behind ++ second.paneIds, ?_, ?_⟩
        · rw [paneIds_split, old, List.append_assoc, List.cons_append]
        · rw [replaceLeaf, if_pos ((contains_iff first focused).mpr inFirst)]
          rw [paneIds_split, new, List.append_assoc]
          rfl
      · have inSecond : focused ∈ second.paneIds := by
          rw [paneIds_split, List.mem_append] at present
          exact present.resolve_left inFirst
        obtain ⟨before, behind, old, new⟩ := ihSecond inSecond
        refine ⟨first.paneIds ++ before, behind, ?_, ?_⟩
        · rw [paneIds_split, old, List.append_assoc]
        · rw [replaceLeaf, if_neg
            (fun found => inFirst ((contains_iff first focused).mp found))]
          rw [paneIds_split, new, List.append_assoc]

/-- Closing the new pane gives back the tree, with its shape and weights. -/
theorem close_splitCandidate
    {focused newPane : PaneId}
    (axis : Axis)
    (present : focused ∈ tree.paneIds)
    (fresh : newPane ∉ tree.paneIds) :
    (tree.splitCandidate focused newPane axis).1.close newPane =
      some tree := by
  unfold splitCandidate
  induction tree with
  | leaf pane =>
      have same : focused = pane := by simpa using present
      subst same
      have different : focused ≠ newPane := fun same =>
        fresh (by simp [same])
      simp only [replaceLeaf, if_pos, close, if_pos different, ne_eq,
        not_true_eq_false, if_false]
  | split nodeAxis first second firstWeight secondWeight ihFirst ihSecond =>
      rw [paneIds_split, List.mem_append, not_or] at fresh
      by_cases inFirst : focused ∈ first.paneIds
      · rw [replaceLeaf, if_pos ((contains_iff first focused).mpr inFirst)]
        simp only [close, ihFirst inFirst fresh.1,
          close_eq_self second fresh.2]
      · have inSecond : focused ∈ second.paneIds := by
          rw [paneIds_split, List.mem_append] at present
          exact present.resolve_left inFirst
        rw [replaceLeaf, if_neg
          (fun found => inFirst ((contains_iff first focused).mp found))]
        simp only [close, ihSecond inSecond fresh.2,
          close_eq_self first fresh.1]

/-- What a split that succeeds has done. -/
structure SplitsAfter
    (tree after : TiledNode)
    (focused newPane : PaneId)
    (area : Rect) : Prop where
  order : ∃ before behind, tree.paneIds = before ++ focused :: behind ∧
    after.paneIds = before ++ focused :: newPane :: behind
  ample : after.Ample area
  undone : after.close newPane = some tree

/-- A split either succeeds or leaves the tree. -/
theorem splitsAfter_of_splitInPlace
    {tree after : TiledNode}
    {focused newPane : PaneId}
    {axis : Axis}
    {outcome : Except String Unit}
    (present : focused ∈ tree.paneIds)
    (fresh : newPane ∉ tree.paneIds)
    (split : tree.splitInPlace focused newPane axis area =
      some (after, outcome)) :
    (outcome = .ok () ∧ tree.SplitsAfter after focused newPane area) ∨
      (∃ message, outcome = .error message) ∧ after = tree := by
  have found : (tree.splitCandidate focused newPane axis).2 = true := by
    rw [splitCandidate, replaceLeaf_found]
    exact (contains_iff tree focused).mpr present
  simp only [splitInPlace, found, Bool.not_true, Bool.false_eq_true, if_false,
    Option.bind_eq_bind, Option.bind_eq_some_iff] at split
  obtain ⟨geometry, placed, chosen⟩ := split
  split_ifs at chosen with small
  · cases chosen
    exact .inr ⟨⟨_, rfl⟩, rfl⟩
  · cases chosen
    refine .inl ⟨rfl, paneIds_splitCandidate newPane axis present,
      ⟨geometry, placed, ?_⟩, close_splitCandidate axis present fresh⟩
    intro pane rect entered
    have listed := OrderedMap.find?_eq_some_iff.mp entered
    rw [Bool.not_eq_true, List.any_eq_false] at small
    exact Bool.eq_false_iff.mpr (small (pane, rect) listed)

/-! ## Closing -/

/-- A tree whose only pane is closed is its leaf. -/
theorem eq_leaf_of_close_eq_none
    (distinct : tree.paneIds.Nodup)
    (closed : tree.close pane = none) : tree = leaf pane := by
  have only := (close_eq_none_iff tree pane).mp closed
  cases tree with
  | leaf id => rw [only id (List.mem_singleton_self id)]
  | split axis first second firstWeight secondWeight =>
      rw [paneIds_split] at distinct only
      obtain ⟨left, inFirst⟩ := List.exists_mem_of_ne_nil _ first.paneIds_ne_nil
      obtain ⟨right, inSecond⟩ :=
        List.exists_mem_of_ne_nil _ second.paneIds_ne_nil
      have leftIs := only left (List.mem_append_left _ inFirst)
      have rightIs := only right (List.mem_append_right _ inSecond)
      exact absurd (leftIs.trans rightIs.symm)
        (List.nodup_append.mp distinct |>.2.2 left inFirst right inSecond)

/-- The sibling of a pane takes the place of their split. -/
structure Collapses
    (tree : TiledNode)
    (pane : PaneId)
    (position : Position)
    (side : Side)
    (sibling survivor : TiledNode) : Prop where
  leafAt : tree.subtreeAt? (position ++ [side]) = some (leaf pane)
  siblingAt : tree.subtreeAt? (position ++ [side.other]) = some sibling
  replaced : survivor = tree.replaceAt sibling position

theorem collapses_of_close
    (distinct : tree.paneIds.Nodup)
    (present : pane ∈ tree.paneIds)
    (closed : tree.close pane = some survivor) :
    ∃ position side sibling,
      tree.Collapses pane position side sibling survivor := by
  induction tree generalizing survivor with
  | leaf id =>
      rw [paneIds_leaf, List.mem_singleton] at present
      rw [close, if_neg (by simp [present])] at closed
      cases closed
  | split axis first second firstWeight secondWeight ihFirst ihSecond =>
      rw [paneIds_split, List.nodup_append'] at distinct
      obtain ⟨firstDistinct, secondDistinct, apart⟩ := distinct
      rw [paneIds_split, List.mem_append] at present
      rw [close] at closed
      rcases present with inFirst | inSecond
      · rw [close_eq_self second (apart inFirst)] at closed
        cases firstClosed : first.close pane with
        | none =>
            rw [firstClosed] at closed
            cases closed
            have alone := eq_leaf_of_close_eq_none firstDistinct firstClosed
            exact ⟨[], .first, second,
              by rw [alone]; rfl, by simp [Side.other, subtreeAt?], by simp⟩
        | some inner =>
            rw [firstClosed] at closed
            cases closed
            obtain ⟨position, side, sibling, leafAt, siblingAt, replaced⟩ :=
              ihFirst firstDistinct inFirst firstClosed
            exact ⟨.first :: position, side, sibling, leafAt, siblingAt,
              by rw [replaceAt, replaced]⟩
      · rw [close_eq_self first (fun inFirst => apart inFirst inSecond)]
          at closed
        cases secondClosed : second.close pane with
        | none =>
            rw [secondClosed] at closed
            cases closed
            have alone := eq_leaf_of_close_eq_none secondDistinct secondClosed
            exact ⟨[], .second, first,
              by rw [alone]; rfl, by simp [Side.other, subtreeAt?], by simp⟩
        | some inner =>
            rw [secondClosed] at closed
            cases closed
            obtain ⟨position, side, sibling, leafAt, siblingAt, replaced⟩ :=
              ihSecond secondDistinct inSecond secondClosed
            exact ⟨.second :: position, side, sibling, leafAt, siblingAt,
              by rw [replaceAt, replaced]⟩

/-- The pane and the sibling are all that their split has. -/
theorem Collapses.exists_node
    (collapses : tree.Collapses pane position side sibling survivor)
    (tiled : tree.tile area = some rects) :
    ∃ node, tree.splitAt? area position = some node ∧
      ((node.first = leaf pane ∧ node.second = sibling) ∨
        (node.first = sibling ∧ node.second = leaf pane)) := by
  obtain ⟨node, found, children⟩ := exists_splitAt? tiled collapses.leafAt
  have leafIs : node.child side = leaf pane :=
    Option.some.inj ((children side).symm.trans collapses.leafAt)
  have siblingIs : node.child side.other = sibling :=
    Option.some.inj ((children side.other).symm.trans collapses.siblingAt)
  refine ⟨node, found, ?_⟩
  cases side with
  | first => exact .inl ⟨leafIs, siblingIs⟩
  | second => exact .inr ⟨siblingIs, leafIs⟩

/-- What a close does to a tree that has other panes. -/
structure ClosesOnly
    (tree : TiledNode)
    (pane : PaneId)
    (position : Position)
    (side : Side)
    (sibling survivor : TiledNode) : Prop where
  order : survivor.paneIds = tree.paneIds.erase pane
  collapses : tree.Collapses pane position side sibling survivor
  kept : ∀ area before after, tree.geometry area = some before →
    survivor.geometry area = some after → ∀ other, other ≠ pane →
      other ∉ sibling.paneIds → after.find? other = before.find? other
  defined : ∀ area : Rect, tree.Weighted → area.width ≤ u16Max →
    area.height ≤ u16Max → (tree.geometry area).isSome →
      (survivor.geometry area).isSome

theorem Collapses.kept
    {before after : OrderedMap PaneId Rect}
    (collapses : tree.Collapses pane position side sibling survivor)
    (distinct : tree.paneIds.Nodup)
    (survivorDistinct : survivor.paneIds.Nodup)
    (placed : tree.geometry area = some before)
    (survivorPlaced : survivor.geometry area = some after)
    {other : PaneId}
    (different : other ≠ pane)
    (outside : other ∉ sibling.paneIds) :
    after.find? other = before.find? other := by
  obtain ⟨rects, tiled, rfl⟩ := geometry_eq_some_iff.mp placed
  obtain ⟨others, otherTiled, rfl⟩ := geometry_eq_some_iff.mp survivorPlaced
  obtain ⟨node, found, children⟩ := collapses.exists_node tiled
  obtain ⟨_, _, rfl⟩ := collapses
  apply find?_replaceAt distinct survivorDistinct found tiled otherTiled _
    outside
  rw [PlacedSplit.paneIds_tree, List.mem_append]
  rcases children with ⟨first, second⟩ | ⟨first, second⟩
  · rw [first, second, paneIds_leaf, List.mem_singleton]
    tauto
  · rw [first, second, paneIds_leaf, List.mem_singleton]
    tauto

/-- The sibling can be placed in the whole area of the split. -/
theorem Collapses.defined
    (collapses : tree.Collapses pane position side sibling survivor)
    (weighted : tree.Weighted)
    (wide : area.width ≤ u16Max)
    (high : area.height ≤ u16Max)
    (placed : (tree.geometry area).isSome) :
    (survivor.geometry area).isSome := by
  have whole := isSome_geometry_iff.mp placed
  obtain ⟨rects, tiled, _⟩ := id whole
  obtain ⟨node, found, children⟩ := collapses.exists_node tiled
  obtain ⟨width, height⟩ := noLarger_of_splitAt? found
  obtain ⟨inner, replaced⟩ := placedWith_replaceAt_iff found whole sibling
  rw [collapses.replaced, isSome_geometry_iff, replaced]
  have divided := divided_of_splitAt? found
  obtain ⟨firstPlaced, secondPlaced⟩ := (placedWith_split_iff divided).mp inner
  have below := (firstExtent_bounds divided).2
  obtain ⟨_, firstWeighted, secondWeighted⟩ :=
    weighted_of_splitAt? weighted found
  rcases children with ⟨_, rfl⟩ | ⟨rfl, _⟩
  · apply secondPlaced.mono (fun _ _ _ _ => trivial) secondWeighted.words
    · cases node.axis <;> simp [parts, Rect.NoLarger]
    · exact secondWeighted.productsFit (width.trans wide) (height.trans high)
  · apply firstPlaced.mono (fun _ _ _ _ => trivial) firstWeighted.words
    · rw [PlacedSplit.total] at below
      cases axisIs : node.axis <;>
        simp only [axisIs, extentAlong] at below <;>
        simp only [parts, Rect.NoLarger] <;>
        omega
    · exact firstWeighted.productsFit (width.trans wide) (height.trans high)

theorem closesOnly_of_close
    (distinct : tree.paneIds.Nodup)
    (present : pane ∈ tree.paneIds)
    (closed : tree.close pane = some survivor) :
    ∃ position side sibling,
      tree.ClosesOnly pane position side sibling survivor := by
  obtain ⟨position, side, sibling, collapses⟩ :=
    collapses_of_close distinct present closed
  have order : survivor.paneIds = tree.paneIds.erase pane := by
    rw [paneIds_of_close_eq_some closed, distinct.erase_eq_filter]
    apply List.filter_congr
    intro id _
    by_cases same : id = pane <;> simp [same]
  have survivorDistinct : survivor.paneIds.Nodup := order ▸ distinct.erase pane
  exact ⟨position, side, sibling,
    { order := order
      collapses := collapses
      kept := fun _ _ _ placed survivorPlaced _ different outside =>
        collapses.kept distinct survivorDistinct placed survivorPlaced
          different outside
      defined := fun _ weighted wide high placed =>
        collapses.defined weighted wide high placed }⟩

/-- Splitting and closing. A split that succeeds puts the new pane right after
the divided one, leaves every pane the minimum content size and is undone by
closing the new pane, and one that fails leaves the tree. Closing removes its
pane, all of the tree only with the last one, and moves no pane but those of
the sibling. -/
theorem split_close_laws
    {tree : TiledNode}
    (distinct : tree.paneIds.Nodup) :
    (∀ focused newPane axis area after outcome, focused ∈ tree.paneIds →
      newPane ∉ tree.paneIds →
      tree.splitInPlace focused newPane axis area = some (after, outcome) →
        (outcome = .ok () ∧ tree.SplitsAfter after focused newPane area) ∨
          (∃ message, outcome = .error message) ∧ after = tree) ∧
      ∀ pane ∈ tree.paneIds,
        (tree.close pane = none ↔ tree.paneIds = [pane]) ∧
          ∀ survivor, tree.close pane = some survivor →
            ∃ position side sibling,
              tree.ClosesOnly pane position side sibling survivor := by
  constructor
  · intro focused newPane axis area after outcome present fresh split
    exact splitsAfter_of_splitInPlace present fresh split
  · intro pane present
    refine ⟨⟨fun closed => ?_, fun only => ?_⟩,
      fun survivor => closesOnly_of_close distinct present⟩
    · rw [eq_leaf_of_close_eq_none distinct closed, paneIds_leaf]
    · rw [close_eq_none_iff, only]
      simp

theorem split_close_laws_sideBySide :
    (∀ focused newPane axis area after outcome, focused ∈ sideBySide.paneIds →
      newPane ∉ sideBySide.paneIds →
      sideBySide.splitInPlace focused newPane axis area =
          some (after, outcome) →
        (outcome = .ok () ∧
            sideBySide.SplitsAfter after focused newPane area) ∨
          (∃ message, outcome = .error message) ∧ after = sideBySide) ∧
      ∀ pane ∈ sideBySide.paneIds,
        (sideBySide.close pane = none ↔ sideBySide.paneIds = [pane]) ∧
          ∀ survivor, sideBySide.close pane = some survivor →
            ∃ position side sibling,
              sideBySide.ClosesOnly pane position side sibling survivor :=
  split_close_laws (by decide)

end TiledNode

end Layout
end Vvmux
