import Vvmux.Layout.Extents
import Vvmux.Library.Tiling

/-!
# Placing a tree

Placing enters one rectangle for every leaf into a map. The rectangles in the
order of the leaves say more: the map is what entering them one after the
other leaves, and for any weights they tile the area, since every division
gives each side at least one cell and the two sides meet.
-/

namespace Vvmux
namespace Layout

open Library

/-! ## Divisions -/

/-- The share of the first child, where the division is defined. -/
def dividedShare (extent firstWeight secondWeight : Nat) : Nat :=
  max 1 (min
    (extent * firstWeight /
      max (saturatingAdd u32Max firstWeight secondWeight) 1)
    (extent - 1))

/-- A division is defined for an extent of at least two, if the product does
not overflow. -/
theorem firstExtent_eq_some_iff
    {extent firstWeight secondWeight share : Nat} :
    firstExtent extent firstWeight secondWeight = some share ↔
      2 ≤ extent ∧ extent * firstWeight ≤ u32Max ∧
        share = dividedShare extent firstWeight secondWeight := by
  unfold firstExtent checkedMul clamp? dividedShare
  by_cases fits : extent * firstWeight ≤ u32Max
  · simp only [if_pos fits, Option.bind_eq_bind, Option.bind_some,
      Option.ite_none_right_eq_some, Option.some.injEq]
    constructor
    · rintro ⟨ordered, rfl⟩
      exact ⟨by omega, fits, rfl⟩
    · rintro ⟨divisible, _, rfl⟩
      exact ⟨by omega, rfl⟩
  · simp [fits]

/-- Either side of a division gets at least one cell. -/
theorem firstExtent_bounds
    {extent firstWeight secondWeight share : Nat}
    (divided : firstExtent extent firstWeight secondWeight = some share) :
    1 ≤ share ∧ share < extent := by
  obtain ⟨divisible, _, rfl⟩ := firstExtent_eq_some_iff.mp divided
  unfold dividedShare
  omega

/-- The areas that `place` gives to the two children of a split. -/
def parts (axis : Axis) (area : Rect) (share : Nat) : Rect × Rect :=
  match axis with
  | .vertical =>
      ({ area with width := share },
        { area with
          x := saturatingAdd u16Max area.x share
          width := area.width - share })
  | .horizontal =>
      ({ area with height := share },
        { area with
          y := saturatingAdd u16Max area.y share
          height := area.height - share })

variable {axis : Axis}

/-- Within 16 bits the second area begins where the first one ends. -/
theorem parts_eq_divide
    {area : Rect}
    {share : Nat}
    (edges : TiledNode.EdgesAdmitted area)
    (below : share < TiledNode.extentAlong axis area) :
    parts axis area share = TiledNode.divide axis area share := by
  obtain ⟨rightEdge, bottomEdge⟩ := edges
  cases axis with
  | vertical =>
      have room : area.x + share ≤ u16Max := by
        simp only [TiledNode.extentAlong] at below
        omega
      simp only [parts, TiledNode.divide, saturatingAdd_eq_add room]
  | horizontal =>
      have room : area.y + share ≤ u16Max := by
        simp only [TiledNode.extentAlong] at below
        omega
      simp only [parts, TiledNode.divide, saturatingAdd_eq_add room]

/-! ## Cells -/

/-- The cells of a rectangle. -/
def Rect.cells (rect : Rect) : Set (Nat × Nat) :=
  {cell | rect.contains cell.1 cell.2 = true}

theorem Rect.mem_cells
    {rect : Rect}
    {cell : Nat × Nat} :
    cell ∈ rect.cells ↔
      rect.x ≤ cell.1 ∧ cell.1 < rect.x + rect.width ∧
        rect.y ≤ cell.2 ∧ cell.2 < rect.y + rect.height := by
  simp [Rect.cells, Rect.contains]

/-- The two parts of a proper division have the cells of the area, each once. -/
theorem cells_divide
    {area : Rect}
    {share : Nat}
    (below : share ≤ TiledNode.extentAlong axis area) :
    area.cells = (TiledNode.divide axis area share).1.cells ∪
        (TiledNode.divide axis area share).2.cells ∧
      Disjoint (TiledNode.divide axis area share).1.cells
        (TiledNode.divide axis area share).2.cells := by
  constructor
  · ext cell
    rw [Set.mem_union, Rect.mem_cells, Rect.mem_cells, Rect.mem_cells]
    cases axis <;>
      simp only [TiledNode.divide, TiledNode.extentAlong] at below ⊢ <;>
      omega
  · rw [Set.disjoint_left]
    intro cell inFirst inSecond
    rw [Rect.mem_cells] at inFirst inSecond
    cases axis <;>
      simp only [TiledNode.divide] at inFirst inSecond <;>
      omega

namespace TiledNode

/-! ## Rectangles in the order of the leaves -/

/-- The rectangles of the leaves, from first to second child. -/
def tile : TiledNode → Rect → Option (List (PaneId × Rect))
  | .leaf pane, area => some [(pane, area)]
  | .split axis first second firstWeight secondWeight, area => do
      let share ← firstExtent (extentAlong axis area) firstWeight secondWeight
      let before ← first.tile (parts axis area share).1
      let behind ← second.tile (parts axis area share).2
      return before ++ behind

@[simp] theorem tile_leaf (pane : PaneId) (area : Rect) :
    (leaf pane).tile area = some [(pane, area)] := rfl

variable {area : Rect} {tree : TiledNode} {rects : List (PaneId × Rect)}

theorem tile_split_eq_some_iff
    {first second : TiledNode}
    {firstWeight secondWeight : Nat}
    {rects : List (PaneId × Rect)} :
    (split axis first second firstWeight secondWeight).tile area =
        some rects ↔
      ∃ share before behind,
        firstExtent (extentAlong axis area) firstWeight secondWeight =
            some share ∧
          first.tile (parts axis area share).1 = some before ∧
          second.tile (parts axis area share).2 = some behind ∧
          rects = before ++ behind := by
  simp only [tile, Option.bind_eq_bind, Option.bind_eq_some_iff,
    Option.pure_def, Option.some.injEq]
  constructor
  · rintro ⟨share, divided, before, firstTiled, behind, secondTiled, rfl⟩
    exact ⟨share, before, behind, divided, firstTiled, secondTiled, rfl⟩
  · rintro ⟨share, before, behind, divided, firstTiled, secondTiled, rfl⟩
    exact ⟨share, divided, before, firstTiled, behind, secondTiled, rfl⟩

/-- One rectangle for each leaf, in order. -/
theorem panes_tile
    (tiled : tree.tile area = some rects) :
    rects.map Prod.fst = tree.paneIds := by
  induction tree generalizing area rects with
  | leaf pane =>
      rw [tile_leaf, Option.some.injEq] at tiled
      rw [← tiled]
      rfl
  | split axis first second firstWeight secondWeight ihFirst ihSecond =>
      obtain ⟨share, before, behind, _, firstTiled, secondTiled, rfl⟩ :=
        tile_split_eq_some_iff.mp tiled
      rw [List.map_append, ihFirst firstTiled,
        ihSecond secondTiled, paneIds_split]

/-- Placing enters the rectangles of the leaves one after the other. -/
theorem place_eq
    (tree : TiledNode)
    (area : Rect)
    (output : OrderedMap PaneId Rect) :
    tree.place area output = (tree.tile area).map output.insertAll := by
  induction tree generalizing area output with
  | leaf pane => rfl
  | split axis first second firstWeight secondWeight ihFirst ihSecond =>
      have children : ∀ firstArea secondArea : Rect,
          ((first.place firstArea output).bind fun placed =>
              second.place secondArea placed) =
            ((first.tile firstArea).bind fun before =>
              (second.tile secondArea).bind fun behind =>
                some (before ++ behind)).map output.insertAll := by
        intro firstArea secondArea
        rw [ihFirst]
        cases first.tile firstArea with
        | none => rfl
        | some before =>
            simp only [Option.map_some, Option.bind_some, ihSecond]
            cases second.tile secondArea with
            | none => rfl
            | some behind =>
                simp only [Option.map_some, Option.bind_some,
                  OrderedMap.insertAll_append]
      cases axis with
      | vertical =>
          simp only [place, tile, extentAlong, Option.bind_eq_bind,
            Option.pure_def]
          cases firstExtent area.width firstWeight secondWeight with
          | none => rfl
          | some share => exact children _ _
      | horizontal =>
          simp only [place, tile, extentAlong, Option.bind_eq_bind,
            Option.pure_def]
          cases firstExtent area.height firstWeight secondWeight with
          | none => rfl
          | some share => exact children _ _

/-- Geometry is defined where the rectangles of the leaves are, and holds
them. -/
theorem geometry_eq_some_iff
    {geometry : OrderedMap PaneId Rect} :
    tree.geometry area = some geometry ↔
      ∃ rects, tree.tile area = some rects ∧
        geometry = OrderedMap.empty.insertAll rects := by
  rw [TiledNode.geometry, place_eq, Option.map_eq_some_iff]
  simp only [eq_comm]

theorem mem_of_find?_geometry
    {rects : List (PaneId × Rect)}
    {pane : PaneId}
    {rect : Rect}
    (found : ((OrderedMap.empty : OrderedMap PaneId Rect).insertAll
      rects).find? pane = some rect) :
    (pane, rect) ∈ rects := by
  rcases OrderedMap.mem_or_of_find?_insertAll found with listed | none
  · exact listed
  · cases none

/-- Under distinct panes the map finds exactly the rectangles of the leaves. -/
theorem find?_geometry_iff
    {tree : TiledNode}
    {area : Rect}
    {rects : List (PaneId × Rect)}
    (distinct : tree.paneIds.Nodup)
    (tiled : tree.tile area = some rects)
    {pane : PaneId}
    {rect : Rect} :
    ((OrderedMap.empty : OrderedMap PaneId Rect).insertAll rects).find? pane =
        some rect ↔
      (pane, rect) ∈ rects := by
  constructor
  · exact mem_of_find?_geometry
  · intro listed
    apply OrderedMap.find?_insertAll_of_mem _ listed
    rw [panes_tile tiled]
    exact distinct

/-! ## The rectangles tile the area -/

instance (area : Rect) : Decidable (EdgesAdmitted area) :=
  inferInstanceAs (Decidable (_ ∧ _))

/-- The parts of a defined division keep what is known of the area. -/
theorem parts_of_firstExtent
    {firstWeight secondWeight share : Nat}
    (edges : EdgesAdmitted area)
    (divided : firstExtent (extentAlong axis area) firstWeight secondWeight =
      some share) :
    parts axis area share = divide axis area share ∧
      EdgesAdmitted (divide axis area share).1 ∧
      EdgesAdmitted (divide axis area share).2 := by
  have below := (firstExtent_bounds divided).2
  exact ⟨parts_eq_divide edges below, divide_edges edges below⟩

/-- The rectangles of the leaves tile the area, whatever the weights. -/
theorem tiles_tile
    (edges : EdgesAdmitted area)
    (tiled : tree.tile area = some rects) :
    Tiles (fun entry => entry.2.cells) rects area.cells := by
  induction tree generalizing area rects with
  | leaf pane =>
      rw [tile_leaf, Option.some.injEq] at tiled
      rw [← tiled]
      exact Tiles.single (pane, area)
  | split axis first second firstWeight secondWeight ihFirst ihSecond =>
      obtain ⟨share, before, behind, divided, firstTiled, secondTiled, rfl⟩ :=
        tile_split_eq_some_iff.mp tiled
      obtain ⟨same, firstEdges, secondEdges⟩ :=
        parts_of_firstExtent edges divided
      rw [same] at firstTiled secondTiled
      obtain ⟨union, apart⟩ :=
        cells_divide (firstExtent_bounds divided).2.le
      rw [union]
      exact (ihFirst firstEdges firstTiled).append
        (ihSecond secondEdges secondTiled) apart

/-- No rectangle is empty unless the area is. -/
theorem positive_tile
    (wide : 0 < area.width)
    (high : 0 < area.height)
    (tiled : tree.tile area = some rects) :
    ∀ entry ∈ rects, 0 < entry.2.width ∧ 0 < entry.2.height := by
  induction tree generalizing area rects with
  | leaf pane =>
      rw [tile_leaf, Option.some.injEq] at tiled
      intro entry listed
      rw [← tiled, List.mem_singleton] at listed
      rw [listed]
      exact ⟨wide, high⟩
  | split axis first second firstWeight secondWeight ihFirst ihSecond =>
      obtain ⟨share, before, behind, divided, firstTiled, secondTiled, rfl⟩ :=
        tile_split_eq_some_iff.mp tiled
      obtain ⟨positive, below⟩ := firstExtent_bounds divided
      intro entry listed
      rcases List.mem_append.mp listed with inFirst | inSecond
      · refine ihFirst ?_ ?_ firstTiled entry inFirst <;>
          cases axis <;> simp only [parts] <;> omega
      · refine ihSecond ?_ ?_ secondTiled entry inSecond <;>
          cases axis <;>
          simp only [parts, extentAlong] at below ⊢ <;>
          omega

/-- A condition on every split: its extent along its axis and its weights. -/
def ForSplits (holds : Nat → Nat → Nat → Prop) : TiledNode → Rect → Prop
  | .leaf _, _ => True
  | .split axis first second firstWeight secondWeight, area =>
      let extent := extentAlong axis area
      let children :=
        parts axis area (dividedShare extent firstWeight secondWeight)
      holds extent firstWeight secondWeight ∧
        first.ForSplits holds children.1 ∧ second.ForSplits holds children.2

/-- No split receives an extent below two along its axis. -/
def NoSplitBelowTwo : TiledNode → Rect → Prop :=
  ForSplits fun extent _ _ => 2 ≤ extent

/-- No product of an extent and a weight leaves 32 bits. -/
def ProductsFit : TiledNode → Rect → Prop :=
  ForSplits fun extent firstWeight _ => extent * firstWeight ≤ u32Max

/-- The leaves have rectangles where every division is defined. -/
theorem exists_tile
    (splits : tree.NoSplitBelowTwo area)
    (products : tree.ProductsFit area) :
    ∃ rects, tree.tile area = some rects := by
  induction tree generalizing area with
  | leaf pane => exact ⟨_, rfl⟩
  | split axis first second firstWeight secondWeight ihFirst ihSecond =>
      obtain ⟨divisible, firstSplits, secondSplits⟩ := splits
      obtain ⟨fits, firstProducts, secondProducts⟩ := products
      obtain ⟨before, firstTiled⟩ := ihFirst firstSplits firstProducts
      obtain ⟨behind, secondTiled⟩ :=
        ihSecond secondSplits secondProducts
      exact ⟨before ++ behind, tile_split_eq_some_iff.mpr
        ⟨_, before, behind,
          firstExtent_eq_some_iff.mpr ⟨divisible, fits, rfl⟩, firstTiled,
          secondTiled, rfl⟩⟩

/-- The program's weights overflow nowhere. -/
theorem Weighted.productsFit
    (weighted : tree.Weighted)
    (wide : area.width ≤ u16Max)
    (high : area.height ≤ u16Max) : tree.ProductsFit area := by
  induction tree generalizing area with
  | leaf pane => trivial
  | split axis first second firstWeight secondWeight ihFirst ihSecond =>
      obtain ⟨⟨_, _, sum⟩, firstWeighted, secondWeighted⟩ := weighted
      have extent : extentAlong axis area ≤ u16Max := by
        cases axis
        · exact high
        · exact wide
      have share : dividedShare (extentAlong axis area) firstWeight
          secondWeight ≤ u16Max := by
        unfold dividedShare
        unfold u16Max at extent ⊢
        omega
      refine ⟨?_, ihFirst firstWeighted ?_ ?_,
        ihSecond secondWeighted ?_ ?_⟩
      · exact (Nat.mul_le_mul extent (by omega)).trans
          (by decide : u16Max * u16Max ≤ u32Max)
      all_goals
        cases axis <;> simp only [parts] <;> omega

/-- A rectangle for exactly the panes of a tree, no two of them with a common
cell and together with the cells of the area. -/
structure Partitions
    (tree : TiledNode)
    (area : Rect)
    (geometry : OrderedMap PaneId Rect) : Prop where
  panes : ∀ pane, pane ∈ geometry ↔ pane ∈ tree.paneIds
  apart : ∀ pane other rect otherRect, pane ≠ other →
    geometry.find? pane = some rect → geometry.find? other = some otherRect →
      Disjoint rect.cells otherRect.cells
  covered : ∀ cell, cell ∈ area.cells ↔
    ∃ pane rect, geometry.find? pane = some rect ∧ cell ∈ rect.cells

/-- Wherever geometry is defined it partitions the area. -/
theorem partitions_geometry
    {geometry : OrderedMap PaneId Rect}
    (distinct : tree.paneIds.Nodup)
    (edges : EdgesAdmitted area)
    (result : tree.geometry area = some geometry) :
    tree.Partitions area geometry := by
  obtain ⟨rects, tiled, rfl⟩ := geometry_eq_some_iff.mp result
  have tiles := tiles_tile edges tiled
  have listed := @find?_geometry_iff tree area rects distinct tiled
  refine ⟨mem_geometry result, ?_, ?_⟩
  · intro pane other rect otherRect different found otherFound
    have separate : Std.Symm fun left right : PaneId × Rect =>
        Disjoint left.2.cells right.2.cells :=
      ⟨fun _ _ apart => apart.symm⟩
    exact tiles.apart.forall (listed.mp found) (listed.mp otherFound)
      fun same => different (congrArg Prod.fst same)
  · intro cell
    rw [tiles.covers]
    constructor
    · rintro ⟨⟨pane, rect⟩, member, inside⟩
      exact ⟨pane, rect, listed.mpr member, inside⟩
    · rintro ⟨pane, rect, found, inside⟩
      exact ⟨(pane, rect), listed.mp found, inside⟩

/-- The rectangles of a geometry are not empty unless the area is. -/
theorem positive_geometry
    {tree : TiledNode}
    {area : Rect}
    {geometry : OrderedMap PaneId Rect}
    (wide : 0 < area.width)
    (high : 0 < area.height)
    (result : tree.geometry area = some geometry)
    {pane : PaneId}
    {rect : Rect}
    (found : geometry.find? pane = some rect) :
    0 < rect.width ∧ 0 < rect.height := by
  obtain ⟨rects, tiled, rfl⟩ := geometry_eq_some_iff.mp result
  exact positive_tile wide high tiled _ (mem_of_find?_geometry found)

/-- In an area where no split receives less than two cells and no product
overflows, geometry partitions the area, into rectangles that are not empty
unless the area is. -/
theorem geometry_partitions
    {tree : TiledNode}
    {area : Rect}
    (distinct : tree.paneIds.Nodup)
    (edges : EdgesAdmitted area)
    (splits : tree.NoSplitBelowTwo area)
    (products : tree.ProductsFit area) :
    ∃ geometry, tree.geometry area = some geometry ∧
      tree.Partitions area geometry ∧
      (0 < area.width → 0 < area.height → ∀ pane rect,
        geometry.find? pane = some rect → 0 < rect.width ∧ 0 < rect.height) := by
  obtain ⟨rects, tiled⟩ := exists_tile splits products
  have result := geometry_eq_some_iff.mpr ⟨rects, tiled, rfl⟩
  exact ⟨_, result, partitions_geometry distinct edges result,
    fun wide high _ _ found => positive_geometry wide high result found⟩

/-- Two panes side by side. -/
def sideBySide : TiledNode := .split .vertical (.leaf 1) (.leaf 2) 1 1

theorem geometry_partitions_sideBySide :
    ∃ geometry, sideBySide.geometry ⟨0, 0, 80, 23⟩ = some geometry ∧
      sideBySide.Partitions ⟨0, 0, 80, 23⟩ geometry ∧
      (0 < 80 → 0 < 23 → ∀ pane rect,
        geometry.find? pane = some rect → 0 < rect.width ∧ 0 < rect.height) :=
  geometry_partitions (by decide) (by decide) ⟨by decide, trivial, trivial⟩
    ⟨by decide, trivial, trivial⟩

/-- A pane that fills an empty area has an empty rectangle, and a product of an
extent and a weight can overflow where every split receives two cells. -/
theorem geometry_degenerate :
    (∃ area : Rect, EdgesAdmitted area ∧ (leaf 1).NoSplitBelowTwo area ∧
      ∃ geometry, (leaf 1).geometry area = some geometry ∧
        geometry.find? 1 = some ⟨0, 0, 0, 0⟩) ∧
      ∃ (tree : TiledNode) (area : Rect), tree.paneIds.Nodup ∧
        EdgesAdmitted area ∧ tree.NoSplitBelowTwo area ∧
        tree.geometry area = none :=
  ⟨⟨⟨0, 0, 0, 0⟩, by decide, trivial, _, rfl, rfl⟩,
    .split .vertical (.leaf 1) (.leaf 2) u32Max 1, ⟨0, 0, 80, 23⟩,
    by decide, by decide, ⟨by decide, trivial, trivial⟩, by decide⟩

end TiledNode

end Layout
end Vvmux
