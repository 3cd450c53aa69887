import Vvmux.Layout.Growing

/-!
# Resizing

A resize moves the boundary of the deepest split on the way to the pane that
the direction can move. What one cell does below that split is another matter:
the two children are divided again, and the one that loses the cell may be a
whole subtree.
-/

namespace Vvmux
namespace Layout

open Library

namespace TiledNode

/-! ## The split that moves -/

/-- The split at a position on the way to a pane can move its boundary for the
pane in a direction, and would get these weights. -/
structure Movable
    (tree : TiledNode)
    (area : Rect)
    (pane : PaneId)
    (direction : Direction)
    (position : Position)
    (node : PlacedSplit)
    (weights : Nat × Nat) : Prop where
  onWay : position <+: tree.wayTo pane
  found : tree.splitAt? area position = some node
  moves : movedWeights node.axis (node.first.contains pane) direction
    node.share node.total = some weights

/-- No split further down the way can move. -/
def Deepest
    (tree : TiledNode)
    (area : Rect)
    (pane : PaneId)
    (direction : Direction)
    (position : Position) : Prop :=
  ∀ other node weights,
    tree.Movable area pane direction other node weights →
      other.length ≤ position.length

section Split

variable {axis : Axis}
variable {first second : TiledNode}
variable {firstWeight secondWeight share : Nat}
variable {area : Rect}
variable {pane : PaneId}
variable {direction : Direction}
variable {position : Position}
variable {node : PlacedSplit}
variable {weights : Nat × Nat}

section

variable
    (divided : firstExtent (extentAlong axis area) firstWeight secondWeight = some share)
include divided

/-- The split at the root can move on its own account. -/
theorem movable_nil_iff :
    (split axis first second firstWeight secondWeight).Movable area pane
        direction [] node weights ↔
      node = ⟨axis, first, second, firstWeight, secondWeight, area, share⟩ ∧
        movedWeights axis (first.contains pane) direction share
          (extentAlong axis area) = some weights := by
  constructor
  · rintro ⟨_, found, moves⟩
    rw [splitAt?_nil divided, Option.some.injEq] at found
    subst found
    exact ⟨rfl, moves⟩
  · rintro ⟨rfl, moves⟩
    exact ⟨List.nil_prefix, splitAt?_nil divided, moves⟩

/-- Below the root the way goes into the child that holds the pane. -/
theorem movable_first_iff :
    (split axis first second firstWeight secondWeight).Movable area pane
        direction (.first :: position) node weights ↔
      first.contains pane = true ∧
        first.Movable (parts axis area share).1 pane direction position node
          weights := by
  have way : .first :: position <+:
      (split axis first second firstWeight secondWeight).wayTo pane ↔
        first.contains pane = true ∧ position <+: first.wayTo pane := by
    rw [wayTo]
    split_ifs with inFirst <;> simp [inFirst]
  constructor
  · rintro ⟨onWay, found, moves⟩
    rw [(splitAt?_cons divided position).1] at found
    exact ⟨(way.mp onWay).1, (way.mp onWay).2, found, moves⟩
  · rintro ⟨inFirst, onWay, found, moves⟩
    refine ⟨way.mpr ⟨inFirst, onWay⟩, ?_, moves⟩
    rw [(splitAt?_cons divided position).1]
    exact found

theorem movable_second_iff :
    (split axis first second firstWeight secondWeight).Movable area pane
        direction (.second :: position) node weights ↔
      first.contains pane = false ∧
        second.Movable (parts axis area share).2 pane direction position node
          weights := by
  have way : .second :: position <+:
      (split axis first second firstWeight secondWeight).wayTo pane ↔
        first.contains pane = false ∧ position <+: second.wayTo pane := by
    rw [wayTo]
    split_ifs with inFirst <;> simp [inFirst]
  constructor
  · rintro ⟨onWay, found, moves⟩
    rw [(splitAt?_cons divided position).2] at found
    exact ⟨(way.mp onWay).1, (way.mp onWay).2, found, moves⟩
  · rintro ⟨inSecond, onWay, found, moves⟩
    refine ⟨way.mpr ⟨inSecond, onWay⟩, ?_, moves⟩
    rw [(splitAt?_cons divided position).2]
    exact found

end

end Split

theorem not_movable_leaf
    {id : PaneId}
    {area : Rect}
    {pane : PaneId}
    {direction : Direction}
    {position : Position}
    {node : PlacedSplit}
    {weights : Nat × Nat} :
    ¬ (leaf id).Movable area pane direction position node weights :=
  fun movable => nomatch movable.found

/-! ## What a resize does -/

/-- The second copy of the placement arithmetic agrees with the first. -/
theorem splitAreas_eq_some_iff
    {area firstArea secondArea : Rect}
    {axis : Axis}
    {firstWeight secondWeight total : Nat}
    (edges : EdgesAdmitted area) :
    splitAreas area axis firstWeight secondWeight =
        some (firstArea, secondArea, total) ↔
      ∃ share, firstExtent (extentAlong axis area) firstWeight secondWeight =
          some share ∧
        parts axis area share = (firstArea, secondArea) ∧
        total = extentAlong axis area ∧ extentAlong axis firstArea = share := by
  have agree : ∀ share, firstExtent (extentAlong axis area) firstWeight
      secondWeight = some share →
        splitAreas area axis firstWeight secondWeight =
          some ((parts axis area share).1, (parts axis area share).2,
            extentAlong axis area) := by
    intro share divided
    have below := (firstExtent_bounds divided).2
    obtain ⟨rightEdge, bottomEdge⟩ := edges
    cases axis with
    | vertical =>
        simp only [extentAlong] at divided below ⊢
        have room : area.x + share ≤ u16Max := by omega
        simp only [splitAreas, divided, checkedAdd_eq_some room,
          checkedSub_eq_some below.le, parts, saturatingAdd_eq_add room,
          Option.bind_eq_bind, Option.bind_some, Option.pure_def]
    | horizontal =>
        simp only [extentAlong] at divided below ⊢
        have room : area.y + share ≤ u16Max := by omega
        simp only [splitAreas, divided, checkedAdd_eq_some room,
          checkedSub_eq_some below.le, parts, saturatingAdd_eq_add room,
          Option.bind_eq_bind, Option.bind_some, Option.pure_def]
  constructor
  · intro result
    cases divided : firstExtent (extentAlong axis area) firstWeight
        secondWeight with
    | none =>
        cases axis <;>
          simp only [extentAlong] at divided <;>
          simp [splitAreas, divided] at result
    | some share =>
        rw [agree share divided, Option.some.injEq, Prod.mk.injEq,
          Prod.mk.injEq] at result
        obtain ⟨rfl, rfl, rfl⟩ := result
        refine ⟨share, rfl, rfl, rfl, ?_⟩
        cases axis <;> rfl
  · rintro ⟨share, divided, same, rfl, _⟩
    rw [agree share divided, same]

/-- What a resize of a pane does to a tree: nothing where no split can move,
and else new weights for the deepest split that can. -/
def Resized
    (tree : TiledNode)
    (area : Rect)
    (pane : PaneId)
    (direction : Direction)
    (after : TiledNode)
    (changed : Bool) : Prop :=
  (changed = false ∧ after = tree ∧ ∀ position node weights,
      ¬ tree.Movable area pane direction position node weights) ∨
    (changed = true ∧ ∃ position node weights,
      tree.Movable area pane direction position node weights ∧
        tree.Deepest area pane direction position ∧
        after = tree.replaceAt (node.reweighed weights) position)

/-- On the way up a split moves its own boundary, if nothing below moved. -/
theorem resized_settle
    {tree child : TiledNode}
    {area childArea : Rect}
    {pane : PaneId}
    {direction : Direction}
    {node : PlacedSplit}
    {side : Side}
    {rebuild : TiledNode → Nat → Nat → TiledNode}
    {moved : Option (Nat × Nat)}
    {inner : ResizeResult}
    (here : ∀ other weights, tree.Movable area pane direction [] other weights ↔
      other = node ∧ moved = some weights)
    (below : ∀ position other weights,
      tree.Movable area pane direction (side :: position) other weights ↔
        child.Movable childArea pane direction position other weights)
    (aside : ∀ otherSide position other weights, otherSide ≠ side →
      ¬ tree.Movable area pane direction (otherSide :: position) other weights)
    (reweighs : ∀ weights,
      rebuild child weights.1 weights.2 = node.reweighed weights)
    (replaces : ∀ other position,
      rebuild (child.replaceAt other position) node.firstWeight
        node.secondWeight = tree.replaceAt other (side :: position))
    (whole : tree = node.tree)
    (contains : inner.contains = true)
    (resized : child.Resized childArea pane direction inner.tree
      inner.changed) :
    let result := settle rebuild (node.firstWeight, node.secondWeight) moved
      inner
    result.contains = true ∧
      tree.Resized area pane direction result.tree result.changed := by
  intro result
  have unfolded : result = settle rebuild
      (node.firstWeight, node.secondWeight) moved inner := rfl
  unfold settle at unfolded
  rcases resized with ⟨unchanged, treeEq, none⟩ |
    ⟨changed, position, other, weights, movable, deepest, treeEq⟩
  · rw [contains, unchanged, treeEq] at unfolded
    cases own : moved with
    | none =>
        rw [own] at unfolded
        rw [unfolded]
        refine ⟨rfl, .inl ⟨rfl, ?_, fun position other weights movable => ?_⟩⟩
        · rw [whole]
          exact reweighs (node.firstWeight, node.secondWeight)
        · rcases position with _ | ⟨otherSide, rest⟩
          · rw [here, own] at movable
            cases movable.2
          · by_cases same : otherSide = side
            · subst same
              exact none rest other weights
                ((below rest other weights).mp movable)
            · exact aside otherSide rest other weights same movable
    | some weights =>
        rw [own] at unfolded
        rw [unfolded]
        refine ⟨rfl, .inr ⟨rfl, [], node, weights, (here _ _).mpr ⟨rfl, own⟩,
          ?_, ?_⟩⟩
        · intro position other otherWeights movable
          rcases position with _ | ⟨otherSide, rest⟩
          · exact le_refl _
          · by_cases same : otherSide = side
            · subst same
              exact absurd ((below rest other otherWeights).mp movable)
                (none rest other otherWeights)
            · exact absurd movable
                (aside otherSide rest other otherWeights same)
        · rw [replaceAt_nil]
          exact reweighs weights
  · rw [contains, changed, treeEq] at unfolded
    rw [unfolded]
    refine ⟨rfl, .inr ⟨rfl, side :: position, other, weights,
      (below _ _ _).mpr movable, ?_, replaces _ _⟩⟩
    intro otherPosition otherNode otherWeights otherMovable
    rcases otherPosition with _ | ⟨otherSide, rest⟩
    · exact Nat.zero_le _
    · by_cases same : otherSide = side
      · subst same
        exact Nat.succ_le_succ (deepest rest otherNode otherWeights
          ((below _ _ _).mp otherMovable))
      · exact absurd otherMovable (aside _ _ _ _ same)

variable {tree : TiledNode}

/-- A resize moves the deepest split that can move. -/
theorem resized_of_resizeInner
    {area : Rect}
    {pane : PaneId}
    {direction : Direction}
    {result : ResizeResult}
    (present : pane ∈ tree.paneIds)
    (edges : EdgesAdmitted area)
    (resized : tree.resizeInner pane direction area false = some result) :
    result.contains = true ∧
      tree.Resized area pane direction result.tree result.changed := by
  induction tree generalizing area result with
  | leaf id =>
      simp only [resizeInner, Option.some.injEq] at resized
      rw [paneIds_leaf, List.mem_singleton] at present
      subst resized
      exact ⟨by simp [present], .inl ⟨rfl, rfl, fun _ _ _ =>
        not_movable_leaf⟩⟩
  | split axis first second firstWeight secondWeight ihFirst ihSecond =>
      simp only [resizeInner, Option.bind_eq_some_iff] at resized
      obtain ⟨⟨firstArea, secondArea, total⟩, divides, chosen⟩ := resized
      obtain ⟨share, divided, areas, rfl, shareEq⟩ :=
        (splitAreas_eq_some_iff edges).mp divides
      obtain ⟨same, firstEdges, secondEdges⟩ :=
        parts_of_firstExtent edges divided
      rw [← same, areas] at firstEdges secondEdges
      rw [shareEq] at chosen
      by_cases inFirst : first.contains pane = true
      · rw [if_pos inFirst, Option.map_eq_some_iff] at chosen
        obtain ⟨inner, innerResized, rfl⟩ := chosen
        obtain ⟨contains, moved⟩ := ihFirst
          ((contains_iff first pane).mp inFirst) firstEdges innerResized
        refine @resized_settle _ first area firstArea pane direction
          ⟨axis, first, second, firstWeight, secondWeight, area, share⟩ .first
          _ _ inner ?_ ?_ ?_ (fun _ => rfl) (fun _ _ => rfl) rfl contains moved
        · intro other weights
          rw [movable_nil_iff divided, inFirst]
        · intro position other weights
          rw [movable_first_iff divided, areas, inFirst]
          exact and_iff_right rfl
        · intro otherSide position other weights different movable
          cases otherSide with
          | first => exact different rfl
          | second =>
              rw [movable_second_iff divided, inFirst] at movable
              cases movable.1
      · have inSecond : pane ∈ second.paneIds := by
          rw [paneIds_split, List.mem_append] at present
          exact present.resolve_left fun member =>
            inFirst ((contains_iff first pane).mpr member)
        rw [if_neg inFirst, Option.map_eq_some_iff] at chosen
        rw [Bool.not_eq_true] at inFirst
        obtain ⟨inner, innerResized, rfl⟩ := chosen
        obtain ⟨contains, moved⟩ :=
          ihSecond inSecond secondEdges innerResized
        refine @resized_settle _ second area secondArea pane direction
          ⟨axis, first, second, firstWeight, secondWeight, area, share⟩ .second
          _ _ inner ?_ ?_ ?_ (fun _ => rfl) (fun _ _ => rfl) rfl contains moved
        · intro other weights
          rw [movable_nil_iff divided, inFirst]
        · intro position other weights
          rw [movable_second_iff divided, areas, inFirst]
          exact and_iff_right rfl
        · intro otherSide position other weights different movable
          cases otherSide with
          | first =>
              rw [movable_first_iff divided, inFirst] at movable
              cases movable.1
          | second => exact different rfl

theorem resized_of_resize
    {tree after : TiledNode}
    {area : Rect}
    {pane : PaneId}
    {direction : Direction}
    {changed : Bool}
    (present : pane ∈ tree.paneIds)
    (edges : EdgesAdmitted area)
    (resized : tree.resize pane direction area = some (after, changed)) :
    tree.Resized area pane direction after changed := by
  simp only [resize, Option.bind_eq_bind, Option.bind_eq_some_iff,
    Option.pure_def, Option.some.injEq, Prod.mk.injEq] at resized
  obtain ⟨inner, innerResized, rfl, rfl⟩ := resized
  exact (resized_of_resizeInner present edges innerResized).2

variable {rects : List (PaneId × Rect)}

/-- A resize returns wherever the leaves have rectangles. -/
theorem exists_resizeInner
    {area : Rect}
    (edges : EdgesAdmitted area)
    (tiled : tree.tile area = some rects)
    (pane : PaneId)
    (direction : Direction)
    (changed : Bool) :
    ∃ result, tree.resizeInner pane direction area changed = some result := by
  induction tree generalizing area rects with
  | leaf id => exact ⟨_, rfl⟩
  | split axis first second firstWeight secondWeight ihFirst ihSecond =>
      obtain ⟨share, before, behind, divided, firstTiled, secondTiled, rfl⟩ :=
        tile_split_eq_some_iff.mp tiled
      obtain ⟨same, firstEdges, secondEdges⟩ :=
        parts_of_firstExtent edges divided
      rw [← same] at firstEdges secondEdges
      have divides : splitAreas area axis firstWeight secondWeight =
          some ((parts axis area share).1, (parts axis area share).2,
            extentAlong axis area) :=
        (splitAreas_eq_some_iff edges).mpr
          ⟨share, divided, rfl, rfl, by cases axis <;> rfl⟩
      simp only [resizeInner, divides, Option.bind_some]
      split_ifs
      · obtain ⟨inner, resized⟩ := ihFirst firstEdges firstTiled
        exact ⟨_, by rw [resized]; rfl⟩
      · obtain ⟨inner, resized⟩ := ihSecond secondEdges secondTiled
        exact ⟨_, by rw [resized]; rfl⟩

theorem exists_resize
    {area : Rect}
    (edges : EdgesAdmitted area)
    (tiled : tree.tile area = some rects)
    (pane : PaneId)
    (direction : Direction) :
    ∃ after changed,
      tree.resize pane direction area = some (after, changed) := by
  obtain ⟨result, resized⟩ :=
    exists_resizeInner edges tiled pane direction false
  exact ⟨result.tree, result.changed, by
    simp only [resize, resized, Option.bind_eq_bind, Option.bind_some,
      Option.pure_def]⟩

end TiledNode

/-! ## The two sides of the boundary -/

namespace PlacedSplit

/-- The child that gives a cell when the boundary moves to a share, and the
area it is left. -/
def losing (node : PlacedSplit) (share : Nat) : TiledNode × Rect :=
  let areas := parts node.axis node.area share
  if node.share < share then (node.second, areas.2) else (node.first, areas.1)

/-- The child that gets the cell, and its new area. -/
def gaining (node : PlacedSplit) (share : Nat) : TiledNode × Rect :=
  let areas := parts node.axis node.area share
  if node.share < share then (node.first, areas.1) else (node.second, areas.2)

/-- The split after its boundary has moved. -/
def moved (node : PlacedSplit) (weights : Nat × Nat) : PlacedSplit :=
  { node with
    firstWeight := weights.1
    secondWeight := weights.2
    share := weights.1 }

end PlacedSplit

namespace TiledNode

/-- Which way a direction moves a boundary. -/
def towards : Direction → Int
  | .right | .down => 1
  | .left | .up => -1

/-- A boundary moves by one cell and leaves both sides the minimum. -/
theorem movedWeights_eq_some
    {axis : Axis}
    {inFirst : Bool}
    {direction : Direction}
    {share total : Nat}
    {weights : Nat × Nat}
    (moved : movedWeights axis inFirst direction share total = some weights) :
    compatible axis direction = true ∧
      (weights.1 : Int) = share + towards direction ∧
      weights.1 + weights.2 = total ∧
      minimumExtent axis ≤ weights.1 ∧ minimumExtent axis ≤ weights.2 := by
  simp only [movedWeights, Option.ite_none_right_eq_some,
    Option.some.injEq] at moved
  obtain ⟨⟨fits, moves, lower, upper⟩, rfl⟩ := moved
  have positive : 0 < minimumExtent axis := by cases axis <;> decide
  have step : resizeDelta axis inFirst direction = towards direction := by
    cases axis <;> cases inFirst <;> cases direction <;>
      first
        | rfl
        | exact absurd rfl moves
  rw [step] at lower upper ⊢
  refine ⟨fits, ?_, ?_, ?_, ?_⟩ <;> dsimp only <;> omega

/-- Weights that are extents divide their sum as they say. -/
theorem firstExtent_absolute
    {first second : Nat}
    (firstPositive : 0 < first)
    (secondPositive : 0 < second)
    (bound : first + second ≤ u16Max) :
    firstExtent (first + second) first second = some first := by
  have admitted : WeightsAdmitted first second :=
    ⟨firstPositive, secondPositive, bound⟩
  rw [firstExtent_eq admitted bound, if_pos (by omega), firstShare,
    Nat.mul_div_cancel_left first (by omega)]
  congr 1
  omega

variable {tree : TiledNode}

/-- A split that moved, in the area it has. -/
theorem firstExtent_reweighed
    {area : Rect}
    {pane : PaneId}
    {direction : Direction}
    {position : Position}
    {node : PlacedSplit}
    {weights : Nat × Nat}
    (edges : EdgesAdmitted area)
    (movable : tree.Movable area pane direction position node weights) :
    firstExtent (extentAlong node.axis node.area) weights.1 weights.2 =
      some weights.1 := by
  obtain ⟨rightEdge, bottomEdge⟩ := edges_of_splitAt? edges movable.found
  obtain ⟨_, _, sum, firstRoom, secondRoom⟩ :=
    movedWeights_eq_some movable.moves
  have positive : 0 < minimumExtent node.axis := by
    cases node.axis <;> decide
  have bound : extentAlong node.axis node.area ≤ u16Max := by
    cases node.axis <;> simp only [extentAlong] <;> omega
  rw [PlacedSplit.total] at sum
  rw [← sum] at bound ⊢
  exact firstExtent_absolute (by omega) (by omega) bound

/-- After a move a tree is placed again where the child that loses the cell
can be placed in what it is left. -/
theorem placedWith_moved_iff
    {holds : Rect → Prop}
    {area : Rect}
    {pane : PaneId}
    {direction : Direction}
    {position : Position}
    {node : PlacedSplit}
    {weights : Nat × Nat}
    (kept : ∀ rect other : Rect, rect.NoLarger other → holds rect → holds other)
    (words : tree.Words)
    (edges : EdgesAdmitted area)
    (placed : tree.PlacedWith holds area)
    (movable : tree.Movable area pane direction position node weights) :
    (tree.replaceAt (node.reweighed weights) position).PlacedWith holds area ↔
      (node.losing weights.1).1.PlacedWith holds (node.losing weights.1).2 ∧
        (node.gaining weights.1).1.ProductsFit (node.gaining weights.1).2 := by
  have divided := firstExtent_reweighed edges movable
  obtain ⟨inner, replaced⟩ := placedWith_replaceAt_iff movable.found placed
    (node.reweighed weights)
  rw [replaced, PlacedSplit.reweighed, placedWith_split_iff divided]
  obtain ⟨_, firstWords, secondWords⟩ := words_of_splitAt? words movable.found
  obtain ⟨firstPlaced, secondPlaced⟩ :=
    (placedWith_split_iff (divided_of_splitAt? movable.found)).mp inner
  unfold PlacedSplit.losing PlacedSplit.gaining
  split_ifs with grows
  · have wider : (parts node.axis node.area node.share).1.NoLarger
        (parts node.axis node.area weights.1).1 := by
      cases node.axis <;> simp only [parts, Rect.NoLarger] <;> omega
    rw [and_comm]
    exact and_congr_right fun _ => ⟨PlacedWith.productsFit,
      firstPlaced.mono kept firstWords wider⟩
  · have wider : (parts node.axis node.area node.share).2.NoLarger
        (parts node.axis node.area weights.1).2 := by
      cases node.axis <;> simp only [parts, Rect.NoLarger] <;> omega
    exact and_congr_right fun _ => ⟨PlacedWith.productsFit,
      secondPlaced.mono kept secondWords wider⟩

/-- The deepest split that can move is one split, and moves one way. -/
theorem Deepest.unique
    {area : Rect}
    {pane : PaneId}
    {direction : Direction}
    {position other : Position}
    {node otherNode : PlacedSplit}
    {weights otherWeights : Nat × Nat}
    (deepest : tree.Deepest area pane direction position)
    (movable : tree.Movable area pane direction position node weights)
    (otherDeepest : tree.Deepest area pane direction other)
    (otherMovable :
      tree.Movable area pane direction other otherNode otherWeights) :
    position = other ∧ node = otherNode ∧ weights = otherWeights := by
  have same : position = other := by
    have lower := deepest other otherNode otherWeights otherMovable
    have upper := otherDeepest position node weights movable
    exact (List.prefix_of_prefix_length_le movable.onWay otherMovable.onWay
      upper).eq_of_length (le_antisymm upper lower)
  subst same
  have sameNode : node = otherNode :=
    Option.some.inj (movable.found.symm.trans otherMovable.found)
  subst sameNode
  exact ⟨rfl, rfl, Option.some.inj (movable.moves.symm.trans
    otherMovable.moves)⟩

/-- Where the split that a resize moves leaves both its children what they
need. -/
def GivesWay
    (holds : Rect → Prop)
    (tree : TiledNode)
    (area : Rect)
    (pane : PaneId)
    (direction : Direction) : Prop :=
  ∀ position node weights,
    tree.Movable area pane direction position node weights →
    tree.Deepest area pane direction position →
      (node.losing weights.1).1.PlacedWith holds (node.losing weights.1).2 ∧
        (node.gaining weights.1).1.ProductsFit (node.gaining weights.1).2

/-- A resized tree is placed again exactly where the split gives way. -/
theorem placedWith_resized_iff
    {holds : Rect → Prop}
    {tree after : TiledNode}
    {area : Rect}
    {pane : PaneId}
    {direction : Direction}
    {changed : Bool}
    (kept : ∀ rect other : Rect, rect.NoLarger other → holds rect → holds other)
    (words : tree.Words)
    (edges : EdgesAdmitted area)
    (placed : tree.PlacedWith holds area)
    (resized : tree.Resized area pane direction after changed) :
    after.PlacedWith holds area ↔
      tree.GivesWay holds area pane direction := by
  rcases resized with ⟨_, rfl, none⟩ |
    ⟨_, position, node, weights, movable, deepest, rfl⟩
  · exact ⟨fun _ other otherNode otherWeights movable =>
      absurd movable (none other otherNode otherWeights), fun _ => placed⟩
  · rw [placedWith_moved_iff kept words edges placed movable]
    constructor
    · intro gives other otherNode otherWeights otherMovable otherDeepest
      obtain ⟨rfl, rfl, rfl⟩ :=
        deepest.unique movable otherDeepest otherMovable
      exact gives
    · intro gives
      exact gives position node weights movable deepest

/-! ## The minimum content size -/

/-- A resize leaves every pane the minimum content size exactly where the
child that loses the cell has it in the smaller area, with all the panes
nested in it. -/
theorem ample_resize_iff
    {tree : TiledNode}
    {area : Rect}
    {pane : PaneId}
    (distinct : tree.paneIds.Nodup)
    (words : tree.Words)
    (edges : EdgesAdmitted area)
    (ample : tree.Ample area)
    (present : pane ∈ tree.paneIds)
    (direction : Direction) :
    (∃ after changed,
        tree.resize pane direction area = some (after, changed) ∧
          after.Ample area) ↔
      tree.GivesWay (fun rect => tooSmall rect = false) area pane
        direction := by
  have placed := (ample_iff distinct).mp ample
  have kept : ∀ rect other : Rect, rect.NoLarger other →
      tooSmall rect = false → tooSmall other = false :=
    fun rect other => tooSmall_mono
  have settled : ∀ after changed,
      tree.resize pane direction area = some (after, changed) →
        (after.Ample area ↔
          tree.GivesWay (fun rect => tooSmall rect = false) area pane
            direction) := by
    intro after changed result
    have sameIds := paneIds_resize result
    rw [ample_iff (sameIds ▸ distinct)]
    exact placedWith_resized_iff kept words edges placed
      (resized_of_resize present edges result)
  constructor
  · rintro ⟨after, changed, result, afterAmple⟩
    exact (settled after changed result).mp afterAmple
  · intro gives
    obtain ⟨rects, tiled, _⟩ := placed
    obtain ⟨after, changed, result⟩ :=
      exists_resize edges tiled pane direction
    exact ⟨after, changed, result, (settled after changed result).mpr gives⟩

theorem ample_resize_iff_sideBySide :
    (∃ after changed,
        sideBySide.resize 1 .right ⟨0, 0, 80, 23⟩ = some (after, changed) ∧
          after.Ample ⟨0, 0, 80, 23⟩) ↔
      sideBySide.GivesWay (fun rect => tooSmall rect = false) ⟨0, 0, 80, 23⟩ 1
        .right :=
  @ample_resize_iff sideBySide ⟨0, 0, 80, 23⟩ 1 (by decide)
    (by decide) (by decide)
    ((ample_iff (by decide)).mpr ⟨_, rfl, by decide⟩) (by decide) .right

/-- A pane beside two that are split in turn. -/
def besidePair : TiledNode :=
  .split .vertical (.leaf 1) (.split .vertical (.leaf 2) (.leaf 3) 1 1) 1 1

/-- Both sides of the boundary keep the minimum, but not the panes in them. -/
theorem not_ample_resize :
    ∃ (tree : TiledNode) (area : Rect) (pane : PaneId) (direction : Direction),
      tree.paneIds.Nodup ∧ tree.Words ∧ EdgesAdmitted area ∧
        tree.Ample area ∧ pane ∈ tree.paneIds ∧
        ¬ ∃ after changed,
          tree.resize pane direction area = some (after, changed) ∧
            after.Ample area := by
  refine ⟨besidePair, ⟨0, 0, 24, 4⟩, 1, .right, by decide,
    by decide, by decide, (ample_iff (by decide)).mpr ⟨_, rfl, by decide⟩,
    by decide, ?_⟩
  rintro ⟨after, changed, result, geometry, placed, enough⟩
  cases result
  cases placed
  exact absurd (enough 2 ⟨13, 0, 5, 4⟩ rfl) (by decide)

/-! ## One boundary by one cell -/

/-- The rectangles of some panes have exactly the cells of an area. -/
def Occupies
    (geometry : OrderedMap PaneId Rect)
    (panes : List PaneId)
    (area : Rect) : Prop :=
  ∀ cell, cell ∈ area.cells ↔
    ∃ pane rect, pane ∈ panes ∧ geometry.find? pane = some rect ∧
      cell ∈ rect.cells

/-- A geometry shows a split: its area, divided at its boundary between the
panes of its two children. -/
structure Shows
    (geometry : OrderedMap PaneId Rect)
    (node : PlacedSplit) : Prop where
  whole : Occupies geometry node.tree.paneIds node.area
  first : Occupies geometry node.first.paneIds
    (parts node.axis node.area node.share).1
  second : Occupies geometry node.second.paneIds
    (parts node.axis node.area node.share).2

/-- One split on the way to a pane has other weights. It has the same area as
before, its boundary is one cell further in a direction, and all other panes
have the rectangles they had. -/
structure MovesBoundary
    (tree : TiledNode)
    (area : Rect)
    (pane : PaneId)
    (direction : Direction)
    (after : TiledNode)
    (position : Position)
    (node moved : PlacedSplit)
    (before behind : OrderedMap PaneId Rect) : Prop where
  onWay : position <+: tree.wayTo pane
  found : tree.splitAt? area position = some node
  foundAfter : after.splitAt? area position = some moved
  replaced : after = tree.replaceAt moved.tree position
  sameSplit : moved.axis = node.axis ∧ moved.first = node.first ∧
    moved.second = node.second ∧ moved.area = node.area
  otherWeights : (moved.firstWeight, moved.secondWeight) ≠
    (node.firstWeight, node.secondWeight)
  alongAxis : compatible node.axis direction = true
  boundary : (moved.boundary : Int) = node.boundary + towards direction
  placed : tree.geometry area = some before
  placedAfter : after.geometry area = some behind
  shown : Shows before node
  shownAfter : Shows behind moved
  outside : ∀ other, other ∉ node.tree.paneIds →
    behind.find? other = before.find? other

/-- The rectangles of a stretch of the leaves have the cells of its area. -/
theorem occupies_of_tile
    {tree part : TiledNode}
    {area partArea : Rect}
    {before inner behind : List (PaneId × Rect)}
    (distinct : tree.paneIds.Nodup)
    (edges : EdgesAdmitted partArea)
    (tiled : tree.tile area = some (before ++ inner ++ behind))
    (partTiled : part.tile partArea = some inner) :
    Occupies (OrderedMap.empty.insertAll (before ++ inner ++ behind))
      part.paneIds partArea := by
  have keys := panes_tile tiled
  have inStretch : ∀ pane rect, pane ∈ part.paneIds →
      (pane, rect) ∈ before ++ inner ++ behind → (pane, rect) ∈ inner := by
    intro pane rect member listed
    rw [← panes_tile partTiled] at member
    rw [← keys, List.map_append, List.map_append, List.nodup_append',
      List.nodup_append'] at distinct
    obtain ⟨⟨_, _, apartBefore⟩, _, apartBehind⟩ := distinct
    rw [List.mem_append, List.mem_append] at listed
    rcases listed with (inBefore | inInner) | inBehind
    · exact absurd member
        (apartBefore (List.mem_map_of_mem inBefore))
    · exact inInner
    · exact absurd (List.mem_map_of_mem inBehind)
        (apartBehind (List.mem_append_right _ member))
  intro cell
  rw [(tiles_tile edges partTiled).covers]
  constructor
  · rintro ⟨⟨pane, rect⟩, listed, inside⟩
    refine ⟨pane, rect, ?_, (find?_geometry_iff distinct tiled).mpr ?_, inside⟩
    · rw [← panes_tile partTiled]
      exact List.mem_map_of_mem listed
    · simp [listed]
  · rintro ⟨pane, rect, member, found, inside⟩
    exact ⟨(pane, rect), inStretch pane rect member
      ((find?_geometry_iff distinct tiled).mp found), inside⟩

/-- Geometry shows every split of its tree. -/
theorem shows_of_splitAt?
    {area : Rect}
    {position : Position}
    {node : PlacedSplit}
    {rects : List (PaneId × Rect)}
    (distinct : tree.paneIds.Nodup)
    (edges : EdgesAdmitted area)
    (found : tree.splitAt? area position = some node)
    (tiled : tree.tile area = some rects) :
    Shows (OrderedMap.empty.insertAll rects) node := by
  obtain ⟨before, inner, behind, rfl, innerTiled, _⟩ :=
    tile_replaceAt found tiled
  have nodeEdges := edges_of_splitAt? edges found
  obtain ⟨share, firstRects, secondRects, divided, firstTiled, secondTiled,
    rfl⟩ := tile_split_eq_some_iff.mp innerTiled
  have sameShare : share = node.share :=
    Option.some.inj (divided.symm.trans (divided_of_splitAt? found))
  subst sameShare
  obtain ⟨same, firstEdges, secondEdges⟩ :=
    parts_of_firstExtent nodeEdges divided
  rw [← same] at firstEdges secondEdges
  refine ⟨occupies_of_tile distinct nodeEdges tiled innerTiled, ?_, ?_⟩
  · have apart : before ++ (firstRects ++ secondRects) ++ behind =
        before ++ firstRects ++ (secondRects ++ behind) := by
      simp only [List.append_assoc]
    rw [apart] at tiled ⊢
    exact occupies_of_tile distinct firstEdges tiled firstTiled
  · have apart : before ++ (firstRects ++ secondRects) ++ behind =
        (before ++ firstRects) ++ secondRects ++ behind := by
      simp only [List.append_assoc]
    rw [apart] at tiled ⊢
    exact occupies_of_tile distinct secondEdges tiled secondTiled

/-- A split that can move, moved. -/
theorem movesBoundary_of_movable
    {area : Rect}
    {pane : PaneId}
    {direction : Direction}
    {position : Position}
    {node : PlacedSplit}
    {weights : Nat × Nat}
    {rects others : List (PaneId × Rect)}
    (distinct : tree.paneIds.Nodup)
    (edges : EdgesAdmitted area)
    (movable : tree.Movable area pane direction position node weights)
    (tiled : tree.tile area = some rects)
    (otherTiled : (tree.replaceAt (node.reweighed weights) position).tile
      area = some others) :
    tree.MovesBoundary area pane direction
      (tree.replaceAt (node.reweighed weights) position) position node
      (node.moved weights) (OrderedMap.empty.insertAll rects)
      (OrderedMap.empty.insertAll others) := by
  have divided := firstExtent_reweighed edges movable
  obtain ⟨fits, step, _⟩ := movedWeights_eq_some movable.moves
  have shift : weights.1 ≠ node.share := by
    intro same
    rw [same] at step
    cases direction <;> simp only [towards] at step <;> omega
  have foundAfter : (tree.replaceAt (node.reweighed weights) position).splitAt?
      area position = some (node.moved weights) := by
    rw [splitAt?_replaceAt movable.found]
    exact splitAt?_nil divided
  obtain ⟨ahead, after, whole, replaced⟩ := paneIds_replaceAt movable.found
  have otherDistinct :
      (tree.replaceAt (node.reweighed weights) position).paneIds.Nodup := by
    rw [replaced, PlacedSplit.paneIds_reweighed, ← whole]
    exact distinct
  exact
    { onWay := movable.onWay
      found := movable.found
      foundAfter := foundAfter
      replaced := rfl
      sameSplit := ⟨rfl, rfl, rfl, rfl⟩
      otherWeights := by
        intro same
        obtain ⟨sameFirst, sameSecond⟩ := Prod.mk.inj same
        have oldDivided := divided_of_splitAt? movable.found
        rw [← sameFirst, ← sameSecond] at oldDivided
        exact shift (Option.some.inj (divided.symm.trans oldDivided))
      alongAxis := fits
      boundary := by
        unfold PlacedSplit.boundary PlacedSplit.moved
        cases node.axis <;> dsimp only <;> push_cast <;> omega
      placed := geometry_eq_some_iff.mpr ⟨rects, tiled, rfl⟩
      placedAfter := geometry_eq_some_iff.mpr ⟨others, otherTiled, rfl⟩
      shown := shows_of_splitAt? distinct edges movable.found tiled
      shownAfter := shows_of_splitAt? otherDistinct edges foundAfter otherTiled
      outside := fun other absent => find?_replaceAt distinct otherDistinct
        movable.found tiled otherTiled absent
        (by rwa [PlacedSplit.paneIds_reweighed]) }

/-- A resize that reports no change leaves the tree, and one that reports a
change moves one boundary by one cell, exactly where the child that loses the
cell can still be divided among its panes. -/
theorem moves_boundary_iff
    {tree : TiledNode}
    {area : Rect}
    {pane : PaneId}
    (distinct : tree.paneIds.Nodup)
    (words : tree.Words)
    (edges : EdgesAdmitted area)
    (defined : (tree.geometry area).isSome)
    (present : pane ∈ tree.paneIds)
    (direction : Direction) :
    (∃ after changed,
        tree.resize pane direction area = some (after, changed) ∧
          (changed = false → after = tree) ∧
          (changed = true → ∃ position node moved before behind,
            tree.MovesBoundary area pane direction after position node moved
              before behind)) ↔
      tree.GivesWay (fun _ => True) area pane direction := by
  have placed := isSome_geometry_iff.mp defined
  have settled := @placedWith_resized_iff (fun _ => True) tree
  constructor
  · rintro ⟨after, changed, result, unchanged, moves⟩
    refine (settled (fun _ _ _ _ => trivial) words edges placed
      (resized_of_resize present edges result)).mp ?_
    cases changed with
    | false =>
        rw [unchanged rfl]
        exact placed
    | true =>
        obtain ⟨position, node, moved, before, behind, moves⟩ := moves rfl
        rw [← isSome_geometry_iff, moves.placedAfter]
        rfl
  · intro gives
    obtain ⟨rects, tiled, _⟩ := id placed
    obtain ⟨after, changed, result⟩ :=
      exists_resize edges tiled pane direction
    have resized := resized_of_resize present edges result
    obtain ⟨others, otherTiled, _⟩ :=
      (settled (fun _ _ _ _ => trivial) words edges placed resized).mpr gives
    refine ⟨after, changed, result, ?_, ?_⟩
    · rintro rfl
      rcases resized with ⟨_, same, _⟩ | ⟨contrary, _⟩
      · exact same
      · cases contrary
    · rintro rfl
      rcases resized with ⟨contrary, _⟩ |
        ⟨_, position, node, weights, movable, _, rfl⟩
      · cases contrary
      · exact ⟨position, node, node.moved weights, _, _,
          movesBoundary_of_movable distinct edges movable tiled otherTiled⟩

theorem moves_boundary_iff_sideBySide :
    (∃ after changed,
        sideBySide.resize 1 .right ⟨0, 0, 80, 23⟩ = some (after, changed) ∧
          (changed = false → after = sideBySide) ∧
          (changed = true → ∃ position node moved before behind,
            sideBySide.MovesBoundary ⟨0, 0, 80, 23⟩ 1 .right after position
              node moved before behind)) ↔
      sideBySide.GivesWay (fun _ => True) ⟨0, 0, 80, 23⟩ 1 .right :=
  @moves_boundary_iff sideBySide ⟨0, 0, 80, 23⟩ 1 (by decide)
    (by decide) (by decide) rfl (by decide) .right

/-- Seven panes that seven columns are enough for. -/
def sevenColumns : TiledNode :=
  .split .vertical
    (.split .vertical (.leaf 2)
      (.split .vertical (.leaf 3) (.leaf 4) 1 1) 1 1)
    (.split .vertical
      (.split .vertical (.leaf 5) (.leaf 6) 1 1)
      (.split .vertical (.leaf 7) (.leaf 8) 1 1) 1 1) 1 1

/-- Seven panes do not fit the six columns that a resize leaves them, and the
layout that comes next aborts. -/
theorem not_moves_boundary :
    ∃ (tree : TiledNode) (area : Rect) (pane : PaneId) (direction : Direction),
      tree.paneIds.Nodup ∧ tree.Words ∧ EdgesAdmitted area ∧
        (tree.geometry area).isSome ∧ pane ∈ tree.paneIds ∧
        ¬ ∃ after changed,
          tree.resize pane direction area = some (after, changed) ∧
            (changed = false → after = tree) ∧
            (changed = true → ∃ position node moved before behind,
              tree.MovesBoundary area pane direction after position node moved
                before behind) := by
  refine ⟨.split .vertical (.leaf 1) sevenColumns 1 1, ⟨0, 0, 14, 1⟩, 1, .right,
    by decide, by decide, by decide, rfl, by decide, ?_⟩
  rintro ⟨after, changed, result, _, moves⟩
  cases result
  obtain ⟨position, node, moved, before, behind, moves⟩ := moves rfl
  cases moves.placedAfter

end TiledNode

end Layout
end Vvmux
