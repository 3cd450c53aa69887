import Vvmux.Layout.Placing

/-!
# Positions in a tree

A position is the way down to a subtree. Replacing the split at a position
changes the rectangles of the leaves in one stretch only, the one that stands
for that split. A resize is the case in which a split keeps its children and
gets other weights: it does this at the deepest position on the way to the
pane whose boundary the direction can move.
-/

namespace Vvmux
namespace Layout

open Library

/-- A child of a split. -/
inductive Side
  | first
  | second
  deriving DecidableEq, Repr

/-- The way from the root down to a subtree. -/
abbrev Position := List Side

/-- A split of a placed tree, its area and the share of its first child. -/
structure PlacedSplit where
  axis : Axis
  first : TiledNode
  second : TiledNode
  firstWeight : Nat
  secondWeight : Nat
  area : Rect
  share : Nat
  deriving DecidableEq, Repr

namespace PlacedSplit

def tree (node : PlacedSplit) : TiledNode :=
  .split node.axis node.first node.second node.firstWeight node.secondWeight

/-- The extent that the split divides. -/
def total (node : PlacedSplit) : Nat := TiledNode.extentAlong node.axis node.area

/-- The same children under other weights. -/
def reweighed (node : PlacedSplit) (weights : Nat × Nat) : TiledNode :=
  .split node.axis node.first node.second weights.1 weights.2

/-- The column or row in which the second child begins. -/
def boundary (node : PlacedSplit) : Nat :=
  match node.axis with
  | .vertical => node.area.x + node.share
  | .horizontal => node.area.y + node.share

@[simp] theorem paneIds_tree (node : PlacedSplit) :
    node.tree.paneIds = node.first.paneIds ++ node.second.paneIds := rfl

@[simp] theorem paneIds_reweighed (node : PlacedSplit) (weights : Nat × Nat) :
    (node.reweighed weights).paneIds = node.tree.paneIds := rfl

end PlacedSplit

namespace TiledNode

/-- The split at a position of a tree that is placed in an area. -/
def splitAt? : TiledNode → Rect → Position → Option PlacedSplit
  | .leaf _, _, _ => none
  | .split axis first second firstWeight secondWeight, area, position =>
      (firstExtent (extentAlong axis area) firstWeight secondWeight).bind
        fun share =>
          match position with
          | [] =>
              some ⟨axis, first, second, firstWeight, secondWeight, area, share⟩
          | .first :: rest => first.splitAt? (parts axis area share).1 rest
          | .second :: rest => second.splitAt? (parts axis area share).2 rest

/-- Put another subtree at a position. -/
def replaceAt : TiledNode → TiledNode → Position → TiledNode
  | _, replacement, [] => replacement
  | .leaf pane, _, _ :: _ => .leaf pane
  | .split axis first second firstWeight secondWeight, replacement,
      .first :: rest =>
        .split axis (first.replaceAt replacement rest) second
          firstWeight secondWeight
  | .split axis first second firstWeight secondWeight, replacement,
      .second :: rest =>
        .split axis first (second.replaceAt replacement rest)
          firstWeight secondWeight

@[simp] theorem replaceAt_nil (tree replacement : TiledNode) :
    tree.replaceAt replacement [] = replacement := by
  cases tree <;> rfl

/-- The way that `resize_inner` and `replace_leaf` take to a pane. -/
def wayTo (pane : PaneId) : TiledNode → Position
  | .leaf _ => []
  | .split _ first second _ _ =>
      if first.contains pane then .first :: first.wayTo pane
      else .second :: second.wayTo pane

variable {area : Rect} {position : Position} {node : PlacedSplit}

variable {firstWeight secondWeight share : Nat} {first second : TiledNode}

/-- The split at the root. -/
theorem splitAt?_nil
    {axis : Axis}
    (divided : firstExtent (extentAlong axis area) firstWeight secondWeight =
      some share) :
    (split axis first second firstWeight secondWeight).splitAt? area [] =
      some ⟨axis, first, second, firstWeight, secondWeight, area, share⟩ := by
  rw [splitAt?, divided]
  rfl

theorem splitAt?_cons
    {axis : Axis}
    (divided : firstExtent (extentAlong axis area) firstWeight secondWeight =
      some share)
    (rest : Position) :
    (split axis first second firstWeight secondWeight).splitAt? area
          (.first :: rest) =
        first.splitAt? (parts axis area share).1 rest ∧
      (split axis first second firstWeight secondWeight).splitAt? area
          (.second :: rest) =
        second.splitAt? (parts axis area share).2 rest := by
  constructor <;> rw [splitAt?, divided, Option.bind_some]

/-- A split lies at a position of a placed tree. -/
inductive Reaches (node : PlacedSplit) : TiledNode → Rect → Position → Prop
  | here :
      firstExtent node.total node.firstWeight node.secondWeight =
        some node.share →
      Reaches node node.tree node.area []
  | first {axis : Axis} {first second : TiledNode}
      {firstWeight secondWeight share : Nat} {area : Rect} {rest : Position} :
      firstExtent (extentAlong axis area) firstWeight secondWeight =
        some share →
      Reaches node first (parts axis area share).1 rest →
      Reaches node (.split axis first second firstWeight secondWeight) area
        (.first :: rest)
  | second {axis : Axis} {first second : TiledNode}
      {firstWeight secondWeight share : Nat} {area : Rect} {rest : Position} :
      firstExtent (extentAlong axis area) firstWeight secondWeight =
        some share →
      Reaches node second (parts axis area share).2 rest →
      Reaches node (.split axis first second firstWeight secondWeight) area
        (.second :: rest)

variable {tree : TiledNode}

theorem reaches_of_splitAt?
    (found : tree.splitAt? area position = some node) :
    Reaches node tree area position := by
  induction tree generalizing area position with
  | leaf pane => cases found
  | split axis first second firstWeight secondWeight ihFirst ihSecond =>
      obtain ⟨share, divided, here⟩ := Option.bind_eq_some_iff.mp found
      match position, here with
      | [], here =>
          cases here
          exact .here divided
      | .first :: rest, here => exact .first divided (ihFirst here)
      | .second :: rest, here => exact .second divided (ihSecond here)

/-- The area of a split is no larger than the area of its tree. -/
theorem noLarger_of_splitAt?
    (found : tree.splitAt? area position = some node) :
    node.area.width ≤ area.width ∧ node.area.height ≤ area.height := by
  replace found := reaches_of_splitAt? found
  induction found with
  | here => exact ⟨le_refl _, le_refl _⟩
  | @first axis _ _ _ _ _ _ _ divided _ ih
  | @second axis _ _ _ _ _ _ _ divided _ ih =>
      have below := (firstExtent_bounds divided).2
      cases axis <;> simp only [parts, extentAlong] at ih below <;> omega

/-- The share of a split that is found is the one of its division. -/
theorem divided_of_splitAt?
    (found : tree.splitAt? area position = some node) :
    firstExtent node.total node.firstWeight node.secondWeight =
      some node.share := by
  replace found := reaches_of_splitAt? found
  induction found with
  | here divided => exact divided
  | first _ _ ih => exact ih
  | second _ _ ih => exact ih

/-- Areas on the way down keep their edges within 16 bits. -/
theorem edges_of_splitAt?
    (edges : EdgesAdmitted area)
    (found : tree.splitAt? area position = some node) :
    EdgesAdmitted node.area := by
  replace found := reaches_of_splitAt? found
  induction found with
  | here => exact edges
  | first divided _ ih =>
      obtain ⟨same, firstEdges, _⟩ := parts_of_firstExtent edges divided
      exact ih (same ▸ firstEdges)
  | second divided _ ih =>
      obtain ⟨same, _, secondEdges⟩ := parts_of_firstExtent edges divided
      exact ih (same ▸ secondEdges)

/-- A split that is found has weights that the tree has. -/
theorem weighted_of_splitAt?
    (weighted : tree.Weighted)
    (found : tree.splitAt? area position = some node) : node.tree.Weighted := by
  replace found := reaches_of_splitAt? found
  induction found with
  | here => exact weighted
  | first _ _ ih => exact ih weighted.2.1
  | second _ _ ih => exact ih weighted.2.2

/-! ## Replacing a split -/

/-- The panes outside a position do not depend on what is there. -/
theorem paneIds_replaceAt
    (found : tree.splitAt? area position = some node) :
    ∃ before behind, tree.paneIds = before ++ node.tree.paneIds ++ behind ∧
      ∀ other : TiledNode,
        (tree.replaceAt other position).paneIds =
          before ++ other.paneIds ++ behind := by
  replace found := reaches_of_splitAt? found
  induction found with
  | here =>
      refine ⟨[], [], ?_, fun other => ?_⟩
      · rw [List.nil_append, List.append_nil]
      · rw [List.nil_append, List.append_nil, replaceAt_nil]
  | @first _ _ second _ _ _ _ _ _ _ ih =>
      obtain ⟨before, behind, whole, replaced⟩ := ih
      refine ⟨before, behind ++ second.paneIds, ?_, fun other => ?_⟩
      · rw [paneIds_split, whole, List.append_assoc]
      · rw [replaceAt, paneIds_split, replaced, List.append_assoc]
  | @second _ first _ _ _ _ _ _ _ _ ih =>
      obtain ⟨before, behind, whole, replaced⟩ := ih
      refine ⟨first.paneIds ++ before, behind, ?_, fun other => ?_⟩
      · rw [paneIds_split, whole]
        simp only [List.append_assoc]
      · rw [replaceAt, paneIds_split, replaced]
        simp only [List.append_assoc]

/-- The rectangles outside a position do not depend on what is there. -/
theorem tile_replaceAt
    {rects : List (PaneId × Rect)}
    (found : tree.splitAt? area position = some node)
    (tiled : tree.tile area = some rects) :
    ∃ before inner behind, rects = before ++ inner ++ behind ∧
      node.tree.tile node.area = some inner ∧
      ∀ other : TiledNode,
        (tree.replaceAt other position).tile area =
          (other.tile node.area).map fun middle =>
            before ++ middle ++ behind := by
  replace found := reaches_of_splitAt? found
  induction found generalizing rects with
  | here =>
      refine ⟨[], rects, [], ?_, tiled, fun other => ?_⟩
      · rw [List.nil_append, List.append_nil]
      · simp
  | first divided _ ih =>
      obtain ⟨sameShare, firstRects, secondRects, sameDivided, firstTiled,
        secondTiled, rfl⟩ := tile_split_eq_some_iff.mp tiled
      rw [divided, Option.some.injEq] at sameDivided
      subst sameDivided
      obtain ⟨before, inner, behind, rfl, innerTiled, replaced⟩ := ih firstTiled
      refine ⟨before, inner, behind ++ secondRects, ?_, innerTiled,
        fun other => ?_⟩
      · rw [List.append_assoc]
      · simp only [replaceAt, tile, divided, replaced, secondTiled,
          Option.bind_eq_bind, Option.bind_some, Option.pure_def]
        cases other.tile node.area <;> simp
  | second divided _ ih =>
      obtain ⟨sameShare, firstRects, secondRects, sameDivided, firstTiled,
        secondTiled, rfl⟩ := tile_split_eq_some_iff.mp tiled
      rw [divided, Option.some.injEq] at sameDivided
      subst sameDivided
      obtain ⟨before, inner, behind, rfl, innerTiled, replaced⟩ :=
        ih secondTiled
      refine ⟨firstRects ++ before, inner, behind, ?_, innerTiled,
        fun other => ?_⟩
      · simp only [List.append_assoc]
      · simp only [replaceAt, tile, divided, replaced, firstTiled,
          Option.bind_eq_bind, Option.bind_some, Option.pure_def]
        cases other.tile node.area <;> simp

/-- A pane that neither a split nor its replacement has keeps its
rectangle. -/
theorem find?_replaceAt
    {other : TiledNode}
    {rects others : List (PaneId × Rect)}
    (distinct : tree.paneIds.Nodup)
    (otherDistinct : (tree.replaceAt other position).paneIds.Nodup)
    (found : tree.splitAt? area position = some node)
    (tiled : tree.tile area = some rects)
    (otherTiled : (tree.replaceAt other position).tile area = some others)
    {pane : PaneId}
    (outside : pane ∉ node.tree.paneIds)
    (otherOutside : pane ∉ other.paneIds) :
    ((OrderedMap.empty : OrderedMap PaneId Rect).insertAll others).find?
        pane =
      ((OrderedMap.empty : OrderedMap PaneId Rect).insertAll rects).find?
        pane := by
  obtain ⟨before, inner, behind, rfl, innerTiled, replaced⟩ :=
    tile_replaceAt found tiled
  have listed := replaced other
  rw [otherTiled, eq_comm, Option.map_eq_some_iff] at listed
  obtain ⟨middle, middleTiled, rfl⟩ := listed
  ext rect
  rw [find?_geometry_iff otherDistinct otherTiled,
    find?_geometry_iff distinct tiled]
  have notInner : (pane, rect) ∉ inner := fun member =>
    outside (panes_tile innerTiled ▸ List.mem_map_of_mem member)
  have notMiddle : (pane, rect) ∉ middle := fun member =>
    otherOutside (panes_tile middleTiled ▸ List.mem_map_of_mem member)
  simp only [List.mem_append, notInner, notMiddle, or_false]

/-- The split at a replaced position, if the replacement is a split. -/
theorem splitAt?_replaceAt
    (found : tree.splitAt? area position = some node)
    (other : TiledNode) :
    (tree.replaceAt other position).splitAt? area position =
      other.splitAt? node.area [] := by
  replace found := reaches_of_splitAt? found
  induction found with
  | here => rw [replaceAt_nil]
  | first divided _ ih =>
      rw [replaceAt, (splitAt?_cons divided _).1, ih]
  | second divided _ ih =>
      rw [replaceAt, (splitAt?_cons divided _).2, ih]

/-- Replacing twice at one position is replacing once. -/
theorem replaceAt_replaceAt
    (tree first second : TiledNode)
    (position : Position) :
    (tree.replaceAt first position).replaceAt second position =
      tree.replaceAt second position := by
  induction tree generalizing position with
  | leaf pane =>
      cases position with
      | nil => simp
      | cons side rest => rfl
  | split axis left right firstWeight secondWeight ihLeft ihRight =>
      match position with
      | [] => simp
      | .first :: rest => simp only [replaceAt, ihLeft]
      | .second :: rest => simp only [replaceAt, ihRight]

/-- Replacing a split by itself changes nothing. -/
theorem replaceAt_tree
    (found : tree.splitAt? area position = some node) :
    tree.replaceAt node.tree position = tree := by
  replace found := reaches_of_splitAt? found
  induction found with
  | here => rw [replaceAt_nil]
  | first _ _ ih => rw [replaceAt, ih]
  | second _ _ ih => rw [replaceAt, ih]

end TiledNode

end Layout
end Vvmux
