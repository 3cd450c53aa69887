import Vvmux.Layout.Resizing

/-!
# Dragging a border

One cell of a border drag resizes the pane with the lowest ID whose edge lies
on the column or row of the border. A pane of the pressed split that touches
the border leads to the pressed split and to no deeper one, but its ancestors
and the panes of other splits on the same line compete with it.
-/

namespace Vvmux
namespace Layout

open Library

/-- The direction in which a border moves along an axis. -/
def heading : Axis → Bool → Direction
  | .vertical, true => .right
  | .vertical, false => .left
  | .horizontal, true => .down
  | .horizontal, false => .up

namespace Rect

/-- The edge of a rectangle that touches a border on its way: the line behind
the last cell for a border that moves on, and else the first line. -/
def edge (rect : Rect) : Axis → Bool → Nat
  | .vertical, true => rect.x + rect.width
  | .vertical, false => rect.x
  | .horizontal, true => rect.y + rect.height
  | .horizontal, false => rect.y

/-- A rectangle does not reach out of another one. -/
structure Within (rect area : Rect) : Prop where
  left : area.x ≤ rect.x
  right : rect.x + rect.width ≤ area.x + area.width
  top : area.y ≤ rect.y
  bottom : rect.y + rect.height ≤ area.y + area.height

theorem Within.refl (rect : Rect) : rect.Within rect :=
  ⟨le_refl _, le_refl _, le_refl _, le_refl _⟩

theorem Within.trans
    {first second third : Rect}
    (inner : first.Within second)
    (outer : second.Within third) : first.Within third :=
  ⟨outer.left.trans inner.left, inner.right.trans outer.right,
    outer.top.trans inner.top, inner.bottom.trans outer.bottom⟩

/-- Where a rectangle shares an edge with the outer of two areas, it shares it
with the inner one. -/
theorem Within.edge_eq
    {rect inner outer : Rect}
    (inside : rect.Within inner)
    (nested : inner.Within outer)
    {axis : Axis}
    {positive : Bool}
    (shared : rect.edge axis positive = outer.edge axis positive) :
    rect.edge axis positive = inner.edge axis positive := by
  obtain ⟨left, right, top, bottom⟩ := inside
  obtain ⟨outerLeft, outerRight, outerTop, outerBottom⟩ := nested
  cases axis <;> cases positive <;> simp only [edge] at shared ⊢ <;> omega

end Rect

namespace TiledNode

variable {axis : Axis} {area : Rect} {tree : TiledNode}
  {rects : List (PaneId × Rect)}

/-- The parts of a division lie in the divided area, and the boundary between
them is no edge of the area. -/
theorem parts_within
    {firstWeight secondWeight share : Nat}
    (edges : EdgesAdmitted area)
    (divided : firstExtent (extentAlong axis area) firstWeight secondWeight =
      some share) :
    (parts axis area share).1.Within area ∧
      (parts axis area share).2.Within area ∧
      (parts axis area share).1.edge axis true < area.edge axis true ∧
      area.edge axis false < (parts axis area share).2.edge axis false := by
  obtain ⟨positive, below⟩ := firstExtent_bounds divided
  rw [parts_eq_divide edges below]
  cases axis <;> simp only [extentAlong] at below <;>
    refine ⟨⟨?_, ?_, ?_, ?_⟩, ⟨?_, ?_, ?_, ?_⟩, ?_, ?_⟩ <;>
    simp only [divide, Rect.edge] <;> omega

/-- Every leaf lies in the area. -/
theorem within_tile
    (edges : EdgesAdmitted area)
    (tiled : tree.tile area = some rects) :
    ∀ entry ∈ rects, entry.2.Within area := by
  induction tree generalizing area rects with
  | leaf pane =>
      rw [tile_leaf, Option.some.injEq] at tiled
      intro entry listed
      rw [← tiled, List.mem_singleton] at listed
      rw [listed]
      exact .refl area
  | split axis first second firstWeight secondWeight ihFirst ihSecond =>
      obtain ⟨share, before, behind, divided, firstTiled, secondTiled, rfl⟩ :=
        tile_split_eq_some_iff.mp tiled
      obtain ⟨same, firstEdges, secondEdges⟩ :=
        parts_of_firstExtent edges divided
      rw [← same] at firstEdges secondEdges
      obtain ⟨firstWithin, secondWithin, _⟩ := parts_within edges divided
      intro entry listed
      rcases List.mem_append.mp listed with inFirst | inSecond
      · exact (ihFirst firstEdges firstTiled entry inFirst).trans
          firstWithin
      · exact (ihSecond secondEdges secondTiled entry inSecond).trans
          secondWithin

/-- Some leaf touches each edge of the area. -/
theorem exists_edge
    (edges : EdgesAdmitted area)
    (tiled : tree.tile area = some rects)
    (axis : Axis)
    (positive : Bool) :
    ∃ entry ∈ rects,
      entry.2.edge axis positive = area.edge axis positive := by
  induction tree generalizing area rects with
  | leaf pane =>
      rw [tile_leaf, Option.some.injEq] at tiled
      rw [← tiled]
      exact ⟨_, List.mem_singleton_self _, rfl⟩
  | split nodeAxis first second firstWeight secondWeight ihFirst ihSecond =>
      obtain ⟨share, before, behind, divided, firstTiled, secondTiled, rfl⟩ :=
        tile_split_eq_some_iff.mp tiled
      obtain ⟨same, firstEdges, secondEdges⟩ :=
        parts_of_firstExtent edges divided
      have below := (firstExtent_bounds divided).2
      rw [← same] at firstEdges secondEdges
      have onSide :
          (parts nodeAxis area share).1.edge axis positive =
              area.edge axis positive ∨
            (parts nodeAxis area share).2.edge axis positive =
              area.edge axis positive := by
        rw [same]
        cases nodeAxis <;> cases axis <;> cases positive <;>
          first
            | exact .inl rfl
            | exact .inr rfl
            | simp only [extentAlong] at below
              right
              simp only [divide, Rect.edge]
              omega
      rcases onSide with onFirst | onSecond
      · obtain ⟨entry, listed, touches⟩ := ihFirst firstEdges firstTiled
        exact ⟨entry, List.mem_append_left _ listed, touches.trans onFirst⟩
      · obtain ⟨entry, listed, touches⟩ :=
          ihSecond secondEdges secondTiled
        exact ⟨entry, List.mem_append_right _ listed, touches.trans onSecond⟩

/-- A split moves in a heading along its own axis only, for the panes on the
side that the heading leaves behind. -/
theorem movedWeights_heading
    {nodeAxis axis : Axis}
    {inFirst positive : Bool}
    {share total : Nat}
    {weights : Nat × Nat}
    (moved : movedWeights nodeAxis inFirst (heading axis positive) share total =
      some weights) :
    nodeAxis = axis ∧ inFirst = positive := by
  simp only [movedWeights, Option.ite_none_right_eq_some] at moved
  obtain ⟨⟨fits, moves, _⟩, _⟩ := moved
  revert fits moves
  cases nodeAxis <;> cases axis <;> cases inFirst <;> cases positive <;> decide

/-- A leaf listed on one side of a split is a pane of that side. -/
theorem listed_side
    {first second : TiledNode}
    {firstArea secondArea : Rect}
    {before behind : List (PaneId × Rect)}
    (distinct : (first.paneIds ++ second.paneIds).Nodup)
    (firstTiled : first.tile firstArea = some before)
    (secondTiled : second.tile secondArea = some behind)
    {pane : PaneId}
    {rect : Rect}
    (listed : (pane, rect) ∈ before ++ behind) :
    (first.contains pane = true ∧ (pane, rect) ∈ before) ∨
      (first.contains pane = false ∧ (pane, rect) ∈ behind) := by
  rcases List.mem_append.mp listed with inFirst | inSecond
  · refine .inl ⟨(contains_iff first pane).mpr ?_, inFirst⟩
    rw [← panes_tile firstTiled]
    exact List.mem_map_of_mem inFirst
  · refine .inr ⟨(contains_eq_false_iff first pane).mpr fun member => ?_,
      inSecond⟩
    have other : pane ∈ second.paneIds := by
      rw [← panes_tile secondTiled]
      exact List.mem_map_of_mem inSecond
    exact (List.nodup_append'.mp distinct).2.2 member other

/-- A pane at an edge of the area is moved that way by no split. -/
theorem not_movable_of_edge
    {pane : PaneId}
    {rect : Rect}
    {positive : Bool}
    (edges : EdgesAdmitted area)
    (distinct : tree.paneIds.Nodup)
    (tiled : tree.tile area = some rects)
    (listed : (pane, rect) ∈ rects)
    (touches : rect.edge axis positive = area.edge axis positive)
    {position : Position}
    {node : PlacedSplit}
    {weights : Nat × Nat} :
    ¬ tree.Movable area pane (heading axis positive) position node weights := by
  induction tree generalizing area rects position with
  | leaf id => exact not_movable_leaf
  | split nodeAxis first second firstWeight secondWeight ihFirst ihSecond =>
      obtain ⟨share, before, behind, divided, firstTiled, secondTiled, rfl⟩ :=
        tile_split_eq_some_iff.mp tiled
      obtain ⟨same, firstEdges, secondEdges⟩ :=
        parts_of_firstExtent edges divided
      rw [← same] at firstEdges secondEdges
      obtain ⟨firstWithin, secondWithin, far, near⟩ := parts_within edges divided
      rw [paneIds_split] at distinct
      obtain ⟨firstDistinct, secondDistinct, _⟩ := List.nodup_append'.mp distinct
      intro movable
      rcases listed_side distinct firstTiled secondTiled listed with
        ⟨inFirst, listedFirst⟩ | ⟨inSecond, listedSecond⟩
      · have inside : rect.Within (parts nodeAxis area share).1 :=
          within_tile firstEdges firstTiled _ listedFirst
        rcases position with _ | ⟨_ | _, rest⟩
        · -- The split at the root: its first side ends before the area does.
          obtain ⟨_, moves⟩ := (movable_nil_iff divided).mp movable
          rw [inFirst] at moves
          obtain ⟨rfl, rfl⟩ := movedWeights_heading moves
          have shared := inside.edge_eq firstWithin touches
          omega
        · exact ihFirst firstEdges firstDistinct firstTiled listedFirst
            (inside.edge_eq firstWithin touches)
            ((movable_first_iff divided).mp movable).2
        · rw [movable_second_iff divided, inFirst] at movable
          cases movable.1
      · have inside : rect.Within (parts nodeAxis area share).2 :=
          within_tile secondEdges secondTiled _ listedSecond
        rcases position with _ | ⟨_ | _, rest⟩
        · obtain ⟨_, moves⟩ := (movable_nil_iff divided).mp movable
          rw [inSecond] at moves
          obtain ⟨rfl, rfl⟩ := movedWeights_heading moves
          have shared := inside.edge_eq secondWithin touches
          omega
        · rw [movable_first_iff divided, inSecond] at movable
          cases movable.1
        · exact ihSecond secondEdges secondDistinct secondTiled
            listedSecond (inside.edge_eq secondWithin touches)
            ((movable_second_iff divided).mp movable).2

end TiledNode

/-! ## The side that a border leaves behind -/

namespace PlacedSplit

/-- The child that a moving border leaves behind. -/
def side (node : PlacedSplit) (positive : Bool) : TiledNode :=
  if positive then node.first else node.second

/-- The weights after one more cell, when both sides keep the minimum. -/
def nudged (node : PlacedSplit) (positive : Bool) : Option (Nat × Nat) :=
  TiledNode.movedWeights node.axis positive (heading node.axis positive)
    node.share node.total

/-- One more cell would leave one of the two sides less than the minimum. -/
def AtLimit (node : PlacedSplit) (positive : Bool) : Prop :=
  let next : Int := node.share + (if positive then 1 else -1)
  ¬((TiledNode.minimumExtent node.axis : Int) ≤ next ∧
    next + TiledNode.minimumExtent node.axis ≤ node.total)

theorem nudged_eq_none_iff
    (node : PlacedSplit)
    (positive : Bool) :
    node.nudged positive = none ↔ node.AtLimit positive := by
  have positiveMinimum : 0 < TiledNode.minimumExtent node.axis := by
    cases node.axis <;> decide
  have fits : TiledNode.compatible node.axis (heading node.axis positive) =
      true := by
    cases node.axis <;> cases positive <;> rfl
  have step : TiledNode.resizeDelta node.axis positive
      (heading node.axis positive) = if positive then 1 else -1 := by
    cases node.axis <;> cases positive <;> rfl
  have moves : (if positive then 1 else -1 : Int) ≠ 0 := by
    cases positive <;> decide
  unfold nudged AtLimit TiledNode.movedWeights
  simp only [ite_eq_right_iff, reduceCtorEq, imp_false, fits, step, true_and,
    ne_eq, moves, not_false_eq_true]
  generalize (if positive then 1 else -1 : Int) = delta
  omega

/-- The same split under other weights. -/
structure Reweighs (node next : PlacedSplit) : Prop where
  axis : next.axis = node.axis
  first : next.first = node.first
  second : next.second = node.second
  area : next.area = node.area

theorem Reweighs.refl (node : PlacedSplit) : node.Reweighs node :=
  ⟨rfl, rfl, rfl, rfl⟩

theorem Reweighs.trans
    {first second third : PlacedSplit}
    (earlier : first.Reweighs second)
    (later : second.Reweighs third) : first.Reweighs third :=
  ⟨later.axis.trans earlier.axis, later.first.trans earlier.first,
    later.second.trans earlier.second, later.area.trans earlier.area⟩

theorem Reweighs.tree_eq
    {node next : PlacedSplit}
    (reweighs : node.Reweighs next) :
    next.tree = node.reweighed (next.firstWeight, next.secondWeight) := by
  rw [tree, reweighs.axis, reweighs.first, reweighs.second]
  rfl

/-- The boundary is at the pointer, or stopped by the minimum extents on its
way there. -/
def AtPointer (node : PlacedSplit) (pointer : Nat) : Prop :=
  node.boundary = pointer ∨
    (node.boundary < pointer ∧ node.AtLimit true) ∨
    (pointer < node.boundary ∧ node.AtLimit false)

end PlacedSplit

namespace TiledNode

/-- The boundary of a split is an edge of both its parts. -/
theorem edge_parts
    {node : PlacedSplit}
    (edges : EdgesAdmitted node.area)
    (divided : firstExtent node.total node.firstWeight node.secondWeight =
      some node.share)
    (positive : Bool) :
    (if positive then (parts node.axis node.area node.share).1
      else (parts node.axis node.area node.share).2).edge node.axis positive =
        node.boundary := by
  rw [parts_eq_divide edges (firstExtent_bounds divided).2]
  unfold PlacedSplit.boundary divide
  cases node.axis <;> cases positive <;> rfl

variable {tree : TiledNode} {area rect : Rect} {position : Position}
  {node : PlacedSplit} {pane : PaneId} {positive : Bool}

/-- A pane on the side of a split that touches its boundary leads to the split
and to no deeper one. -/
theorem deepest_of_edge
    {rects : List (PaneId × Rect)}
    (edges : EdgesAdmitted area)
    (distinct : tree.paneIds.Nodup)
    (tiled : tree.tile area = some rects)
    (found : tree.splitAt? area position = some node)
    (onSide : pane ∈ (node.side positive).paneIds)
    (listed : (pane, rect) ∈ rects)
    (touches : rect.edge node.axis positive = node.boundary) :
    position <+: tree.wayTo pane ∧
      tree.Deepest area pane (heading node.axis positive) position ∧
      node.first.contains pane = positive := by
  have inNode : pane ∈ node.tree.paneIds := by
    rw [PlacedSplit.paneIds_tree, List.mem_append]
    unfold PlacedSplit.side at onSide
    split_ifs at onSide
    · exact .inl onSide
    · exact .inr onSide
  induction tree generalizing area rects position with
  | leaf id => cases found
  | split axis first second firstWeight secondWeight ihFirst ihSecond =>
      obtain ⟨share, before, behind, divided, firstTiled, secondTiled, rfl⟩ :=
        tile_split_eq_some_iff.mp tiled
      obtain ⟨same, firstEdges, secondEdges⟩ :=
        parts_of_firstExtent edges divided
      rw [← same] at firstEdges secondEdges
      rw [paneIds_split] at distinct
      obtain ⟨firstDistinct, secondDistinct, apart⟩ :=
        List.nodup_append'.mp distinct
      have sides := listed_side distinct firstTiled secondTiled listed
      rcases position with _ | ⟨_ | _, rest⟩
      · -- The split at the root is the pressed one.
        rw [splitAt?_nil divided, Option.some.injEq] at found
        subst found
        have edge := @edge_parts ⟨axis, first, second, firstWeight,
          secondWeight, area, share⟩ edges divided positive
        have inFirst : first.contains pane = positive := by
          cases positive with
          | true => exact (contains_iff first pane).mpr onSide
          | false =>
              exact (contains_eq_false_iff first pane).mpr fun member =>
                apart member onSide
        refine ⟨List.nil_prefix, fun other otherNode weights movable => ?_,
          inFirst⟩
        rcases other with _ | ⟨_ | _, further⟩
        · exact le_refl _
        · obtain ⟨holds, below⟩ := (movable_first_iff divided).mp movable
          rw [inFirst] at holds
          subst holds
          have here := sides.resolve_right fun other => by
            rw [inFirst] at other
            cases other.1
          exact absurd below (not_movable_of_edge firstEdges firstDistinct
            firstTiled here.2 (touches.trans edge.symm))
        · obtain ⟨holds, below⟩ := (movable_second_iff divided).mp movable
          rw [inFirst] at holds
          subst holds
          have here := sides.resolve_left fun other => by
            rw [inFirst] at other
            cases other.1
          exact absurd below (not_movable_of_edge secondEdges secondDistinct
            secondTiled here.2 (touches.trans edge.symm))
      · rw [(splitAt?_cons divided rest).1] at found
        obtain ⟨ahead, after, whole, _⟩ := paneIds_replaceAt found
        have member : pane ∈ first.paneIds := by
          rw [whole]
          exact List.mem_append_left _ (List.mem_append_right _ inNode)
        have inFirst := (contains_iff first pane).mpr member
        have here := sides.resolve_right fun other => by
          rw [inFirst] at other
          cases other.1
        obtain ⟨onWay, deepest, contains⟩ := ihFirst firstEdges
          firstDistinct firstTiled found here.2
        refine ⟨?_, fun other otherNode weights movable => ?_, contains⟩
        · rw [wayTo, if_pos inFirst]
          exact (List.prefix_cons_inj _).mpr onWay
        · rcases other with _ | ⟨_ | _, further⟩
          · exact Nat.zero_le _
          · exact Nat.succ_le_succ (deepest further otherNode weights
              ((movable_first_iff divided).mp movable).2)
          · rw [movable_second_iff divided, inFirst] at movable
            cases movable.1
      · rw [(splitAt?_cons divided rest).2] at found
        obtain ⟨ahead, after, whole, _⟩ := paneIds_replaceAt found
        have member : pane ∈ second.paneIds := by
          rw [whole]
          exact List.mem_append_left _ (List.mem_append_right _ inNode)
        have inFirst : first.contains pane = false :=
          (contains_eq_false_iff first pane).mpr fun other =>
            apart other member
        have here := sides.resolve_left fun other => by
          rw [inFirst] at other
          cases other.1
        obtain ⟨onWay, deepest, contains⟩ := ihSecond secondEdges
          secondDistinct secondTiled found here.2
        refine ⟨?_, fun other otherNode weights movable => ?_, contains⟩
        · rw [wayTo, inFirst, if_neg Bool.false_ne_true]
          exact (List.prefix_cons_inj _).mpr onWay
        · rcases other with _ | ⟨_ | _, further⟩
          · exact Nat.zero_le _
          · rw [movable_first_iff divided, inFirst] at movable
            cases movable.1
          · exact Nat.succ_le_succ (deepest further otherNode weights
              ((movable_second_iff divided).mp movable).2)

/-- Some pane on each side of a split touches its boundary. -/
theorem exists_touching
    {rects : List (PaneId × Rect)}
    (edges : EdgesAdmitted area)
    (tiled : tree.tile area = some rects)
    (found : tree.splitAt? area position = some node)
    (positive : Bool) :
    ∃ entry ∈ rects, entry.2.edge node.axis positive = node.boundary := by
  obtain ⟨before, inner, behind, rfl, innerTiled, _⟩ :=
    tile_replaceAt found tiled
  have nodeEdges := edges_of_splitAt? edges found
  have nodeDivided := divided_of_splitAt? found
  have edge := edge_parts nodeEdges nodeDivided positive
  obtain ⟨share, firstRects, secondRects, divided, firstTiled, secondTiled,
    rfl⟩ := tile_split_eq_some_iff.mp innerTiled
  have sameShare : share = node.share :=
    Option.some.inj (divided.symm.trans nodeDivided)
  subst sameShare
  obtain ⟨same, firstEdges, secondEdges⟩ :=
    parts_of_firstExtent nodeEdges divided
  rw [← same] at firstEdges secondEdges
  cases positive with
  | true =>
      obtain ⟨entry, listed, touches⟩ :=
        exists_edge firstEdges firstTiled node.axis true
      exact ⟨entry, by simp [listed], touches.trans edge⟩
  | false =>
      obtain ⟨entry, listed, touches⟩ :=
        exists_edge secondEdges secondTiled node.axis false
      exact ⟨entry, by simp [listed], touches.trans edge⟩

/-! ## One cell of a drag -/

/-- The pane with the lowest ID whose edge lies on a line. -/
def Leads
    (tree : TiledNode)
    (area : Rect)
    (axis : Axis)
    (positive : Bool)
    (line : Nat)
    (pane : PaneId) : Prop :=
  ∃ geometry rect, tree.geometry area = some geometry ∧
    geometry.find? pane = some rect ∧ rect.edge axis positive = line ∧
    ∀ other otherRect, geometry.find? other = some otherRect →
      otherRect.edge axis positive = line → pane ≤ other

/-- Nothing competes with a split for the next cell: while it can move, the
pane that leads is one of its own, and once it cannot, nothing on the way to
that pane can. -/
def Clear
    (tree : TiledNode)
    (area : Rect)
    (node : PlacedSplit)
    (positive : Bool) : Prop :=
  ∀ pane, tree.Leads area node.axis positive node.boundary pane →
    (∀ weights, node.nudged positive = some weights →
      pane ∈ (node.side positive).paneIds) ∧
    (node.nudged positive = none → ∀ position other weights,
      ¬ tree.Movable area pane (heading node.axis positive) position other
        weights)

/-- Nothing competes with a split on its way through some cells. -/
def ClearAlong (area : Rect) (position : Position) (positive : Bool) :
    Nat → TiledNode → PlacedSplit → Prop
  | 0, _, _ => True
  | distance + 1, tree, node =>
      tree.Clear area node positive ∧
        ∀ weights, node.nudged positive = some weights →
          ClearAlong area position positive distance
            (tree.replaceAt (node.reweighed weights) position)
            (node.moved weights)

variable {geometry : OrderedMap PaneId Rect}

/-- The first entry on a line belongs to the pane that leads. -/
theorem leads_of_find?
    {axis : Axis}
    {line : Nat}
    (placed : tree.geometry area = some geometry)
    (chosen : (geometry.entries.find? fun entry =>
      entry.2.edge axis positive = line) = some (pane, rect)) :
    tree.Leads area axis positive line pane ∧
      geometry.find? pane = some rect ∧ rect.edge axis positive = line := by
  have touches : rect.edge axis positive = line := by
    simpa using List.find?_some chosen
  have found : geometry.find? pane = some rect :=
    (OrderedMap.find?_eq_some_iff ..).mpr (List.mem_of_find?_eq_some chosen)
  refine ⟨⟨geometry, rect, placed, found, touches, ?_⟩, found, touches⟩
  intro other otherRect otherFound otherTouches
  obtain ⟨_, before, behind, whole, earlier⟩ :=
    List.find?_eq_some_iff_append.mp chosen
  have listed := (OrderedMap.find?_eq_some_iff ..).mp otherFound
  have ascending := geometry.ascending
  rw [whole] at listed
  rw [whole, List.map_append, List.map_cons, List.pairwise_append,
    List.pairwise_cons] at ascending
  rcases List.mem_append.mp listed with ahead | here
  · have contrary := earlier _ ahead
    simp [otherTouches] at contrary
  · rcases List.mem_cons.mp here with same | later
    · exact le_of_eq (Prod.mk.inj same).1.symm
    · exact (ascending.2.1.1 other (List.mem_map_of_mem later)).le

/-- The resize of the pane that leads moves the split that nothing competes
with, or nothing. -/
theorem resize_of_clear
    {tree after : TiledNode}
    {positive changed : Bool}
    (edges : EdgesAdmitted area)
    (distinct : tree.paneIds.Nodup)
    (found : tree.splitAt? area position = some node)
    (clear : tree.Clear area node positive)
    (placed : tree.geometry area = some geometry)
    (chosen : (geometry.entries.find? fun entry =>
      entry.2.edge node.axis positive = node.boundary) = some (pane, rect))
    (resized : tree.resize pane (heading node.axis positive) area =
      some (after, changed)) :
    (changed = false ∧ after = tree ∧ node.nudged positive = none) ∨
      ∃ weights, changed = true ∧ node.nudged positive = some weights ∧
        after = tree.replaceAt (node.reweighed weights) position := by
  obtain ⟨leads, inMap, touches⟩ := leads_of_find? placed chosen
  obtain ⟨free, stuck⟩ := clear pane leads
  have present : pane ∈ tree.paneIds :=
    (mem_geometry placed pane).mp (OrderedMap.mem_of_find?_eq_some inMap)
  have outcome := resized_of_resize present edges resized
  cases next : node.nudged positive with
  | none =>
      rcases outcome with ⟨unchanged, same, _⟩ |
        ⟨_, other, otherNode, weights, movable, _⟩
      · exact .inl ⟨unchanged, same, rfl⟩
      · exact absurd movable (stuck next other otherNode weights)
  | some weights =>
      obtain ⟨rects, tiled, rfl⟩ := geometry_eq_some_iff.mp placed
      obtain ⟨onWay, deepest, contains⟩ := deepest_of_edge edges distinct tiled
        found (free weights next) (mem_of_find?_geometry inMap) touches
      have movable : tree.Movable area pane (heading node.axis positive)
          position node weights := by
        refine ⟨onWay, found, ?_⟩
        rw [contains]
        exact next
      rcases outcome with ⟨_, _, nothing⟩ |
        ⟨moved, other, otherNode, otherWeights, otherMovable, otherDeepest, same⟩
      · exact absurd movable (nothing position node weights)
      · obtain ⟨rfl, rfl, rfl⟩ :=
          deepest.unique movable otherDeepest otherMovable
        exact .inr ⟨weights, moved, rfl, same⟩

/-- The split after one more cell: still at its position, its boundary one
line further. -/
theorem moved_of_nudged
    {weights : Nat × Nat}
    (edges : EdgesAdmitted area)
    (found : tree.splitAt? area position = some node)
    (next : node.nudged positive = some weights) :
    (tree.replaceAt (node.reweighed weights) position).splitAt? area position =
        some (node.moved weights) ∧
      if positive then (node.moved weights).boundary = node.boundary + 1
      else (node.moved weights).boundary + 1 = node.boundary := by
  obtain ⟨rightEdge, bottomEdge⟩ := edges_of_splitAt? edges found
  obtain ⟨_, step, sum, firstRoom, secondRoom⟩ := movedWeights_eq_some next
  have positiveMinimum : 0 < minimumExtent node.axis := by
    cases node.axis <;> decide
  have bound : node.total ≤ u16Max := by
    unfold PlacedSplit.total
    cases node.axis <;> simp only [extentAlong] <;> omega
  have divided : firstExtent node.total weights.1 weights.2 =
      some weights.1 := by
    rw [← sum] at bound ⊢
    exact firstExtent_absolute (by omega) (by omega) bound
  constructor
  · rw [splitAt?_replaceAt found]
    exact splitAt?_nil divided
  · have towardsHeading : towards (heading node.axis positive) =
        if positive then 1 else -1 := by
      cases node.axis <;> cases positive <;> rfl
    rw [towardsHeading] at step
    unfold PlacedSplit.boundary PlacedSplit.moved
    cases positive <;> cases node.axis <;>
      simp only [if_true, Bool.false_eq_true, if_false] at step ⊢ <;> omega

/-- Other weights leave the panes of a tree. -/
theorem paneIds_reweigh
    (found : tree.splitAt? area position = some node)
    (weights : Nat × Nat) :
    (tree.replaceAt (node.reweighed weights) position).paneIds =
      tree.paneIds := by
  obtain ⟨before, behind, whole, replaced⟩ := paneIds_replaceAt found
  rw [replaced, PlacedSplit.paneIds_reweighed, ← whole]

end TiledNode

end Layout
end Vvmux
