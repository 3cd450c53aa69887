import Vvmux.Layout.Positions

/-!
# Growing areas

A larger extent gives neither side of a division less. A tree in an area that
is nowhere smaller therefore leaves every pane at least its width and height,
where no product overflows. The converse has no such rule: in a smaller area a
division may not even be defined.
-/

namespace Vvmux
namespace Layout

open Library

/-- Neither side of a division loses cells when the extent grows. -/
theorem dividedShare_mono
    {extent larger firstWeight secondWeight : Nat}
    (word : firstWeight ≤ u32Max)
    (grows : extent ≤ larger) :
    dividedShare extent firstWeight secondWeight ≤
        dividedShare larger firstWeight secondWeight ∧
      extent - dividedShare extent firstWeight secondWeight ≤
        larger - dividedShare larger firstWeight secondWeight := by
  unfold dividedShare
  generalize sum :
    max (saturatingAdd u32Max firstWeight secondWeight) 1 = total
  have positive : 0 < total := by omega
  have part : firstWeight ≤ total := by
    rw [← sum]
    unfold saturatingAdd
    omega
  have quotient : extent * firstWeight / total ≤ larger * firstWeight / total :=
    Nat.div_le_div_right (Nat.mul_le_mul_right firstWeight grows)
  -- What the extent gains bounds what the quotient gains.
  have gain : larger * firstWeight / total ≤
      extent * firstWeight / total + (larger - extent) := by
    rw [← Nat.add_mul_div_right _ _ positive]
    apply Nat.div_le_div_right
    calc larger * firstWeight
        = extent * firstWeight + (larger - extent) * firstWeight := by
          rw [← Nat.add_mul, Nat.add_sub_cancel' grows]
      _ ≤ extent * firstWeight + (larger - extent) * total :=
          Nat.add_le_add_left (Nat.mul_le_mul_left _ part) _
  omega

/-- Neither wider nor higher than another rectangle. -/
def Rect.NoLarger (rect other : Rect) : Prop :=
  rect.width ≤ other.width ∧ rect.height ≤ other.height

/-- The parts of a division grow with the area. -/
theorem parts_mono
    {axis : Axis}
    {area larger : Rect}
    {firstWeight secondWeight : Nat}
    (word : firstWeight ≤ u32Max)
    (grows : area.NoLarger larger) :
    let share := dividedShare (TiledNode.extentAlong axis area) firstWeight
      secondWeight
    let otherShare := dividedShare (TiledNode.extentAlong axis larger)
      firstWeight secondWeight
    (parts axis area share).1.NoLarger (parts axis larger otherShare).1 ∧
      (parts axis area share).2.NoLarger (parts axis larger otherShare).2 := by
  obtain ⟨wider, higher⟩ := grows
  cases axis with
  | horizontal =>
      obtain ⟨first, second⟩ :=
        @dividedShare_mono _ _ _ secondWeight word higher
      exact ⟨⟨wider, first⟩, wider, second⟩
  | vertical =>
      obtain ⟨first, second⟩ :=
        @dividedShare_mono _ _ _ secondWeight word wider
      exact ⟨⟨first, higher⟩, second, higher⟩

/-- A rectangle that is nowhere smaller is not too small either. -/
theorem tooSmall_mono
    {rect larger : Rect}
    (grows : rect.NoLarger larger)
    (enough : TiledNode.tooSmall rect = false) :
    TiledNode.tooSmall larger = false := by
  obtain ⟨wider, higher⟩ := grows
  simp only [TiledNode.tooSmall, Bool.or_eq_false_iff,
    decide_eq_false_iff_not] at enough ⊢
  simp only [Rect.content] at enough ⊢
  omega

namespace TiledNode

/-- All weights are 32-bit words. -/
def Words : TiledNode → Prop
  | .leaf _ => True
  | .split _ first second firstWeight secondWeight =>
      (firstWeight ≤ u32Max ∧ secondWeight ≤ u32Max) ∧
        first.Words ∧ second.Words

instance decidableWords : (tree : TiledNode) → Decidable tree.Words
  | .leaf _ => .isTrue trivial
  | .split _ first second firstWeight secondWeight =>
      have := decidableWords first
      have := decidableWords second
      inferInstanceAs (Decidable
        ((firstWeight ≤ u32Max ∧ secondWeight ≤ u32Max) ∧
          first.Words ∧ second.Words))

variable {tree : TiledNode} {area : Rect}

/-- The program's weights are 32-bit words. -/
theorem Weighted.words (weighted : tree.Weighted) : tree.Words := by
  induction tree with
  | leaf pane => trivial
  | split axis first second firstWeight secondWeight ihFirst ihSecond =>
      obtain ⟨⟨_, _, sum⟩, firstWeighted, secondWeighted⟩ := weighted
      refine ⟨?_, ihFirst firstWeighted,
        ihSecond secondWeighted⟩
      unfold u16Max at sum
      unfold u32Max
      omega

variable {position : Position} {node : PlacedSplit}

/-- The weights of a split that is found are 32-bit words. -/
theorem words_of_splitAt?
    (words : tree.Words)
    (found : tree.splitAt? area position = some node) : node.tree.Words := by
  replace found := reaches_of_splitAt? found
  induction found with
  | here => exact words
  | first _ _ ih => exact ih words.2.1
  | second _ _ ih => exact ih words.2.2

variable {rects : List (PaneId × Rect)}

/-- The products of a tree whose leaves have rectangles do not overflow. -/
theorem productsFit_of_tile
    (tiled : tree.tile area = some rects) : tree.ProductsFit area := by
  induction tree generalizing area rects with
  | leaf pane => trivial
  | split axis first second firstWeight secondWeight ihFirst ihSecond =>
      obtain ⟨share, before, behind, divided, firstTiled, secondTiled, rfl⟩ :=
        tile_split_eq_some_iff.mp tiled
      obtain ⟨_, fits, rfl⟩ := firstExtent_eq_some_iff.mp divided
      exact ⟨fits, ihFirst firstTiled, ihSecond secondTiled⟩

/-- The same pane in a rectangle that is nowhere smaller. -/
def Grown (entry other : PaneId × Rect) : Prop :=
  entry.1 = other.1 ∧ entry.2.NoLarger other.2

/-- In a larger area every leaf has a rectangle that is nowhere smaller, if no
product overflows there. -/
theorem grown_tile
    {area larger : Rect}
    (words : tree.Words)
    (grows : area.NoLarger larger)
    (products : tree.ProductsFit larger)
    (tiled : tree.tile area = some rects) :
    ∃ others, tree.tile larger = some others ∧
      ∀ other ∈ others, ∃ entry ∈ rects, Grown entry other := by
  induction tree generalizing area larger rects with
  | leaf pane =>
      rw [tile_leaf, Option.some.injEq] at tiled
      subst tiled
      refine ⟨_, rfl, fun other listed => ?_⟩
      rw [List.mem_singleton] at listed
      exact ⟨_, List.mem_singleton_self _, by rw [listed], listed ▸ grows⟩
  | split axis first second firstWeight secondWeight ihFirst ihSecond =>
      obtain ⟨share, before, behind, divided, firstTiled, secondTiled, rfl⟩ :=
        tile_split_eq_some_iff.mp tiled
      obtain ⟨divisible, _, rfl⟩ := firstExtent_eq_some_iff.mp divided
      obtain ⟨fits, firstProducts, secondProducts⟩ := products
      obtain ⟨firstGrows, secondGrows⟩ :=
        @parts_mono axis _ _ _ secondWeight words.1.1 grows
      have extents : extentAlong axis area ≤ extentAlong axis larger := by
        cases axis
        · exact grows.2
        · exact grows.1
      obtain ⟨firstOthers, firstPlaced, firstGrown⟩ :=
        ihFirst words.2.1 firstGrows firstProducts firstTiled
      obtain ⟨secondOthers, secondPlaced, secondGrown⟩ :=
        ihSecond words.2.2 secondGrows secondProducts secondTiled
      refine ⟨firstOthers ++ secondOthers, tile_split_eq_some_iff.mpr
        ⟨_, firstOthers, secondOthers, firstExtent_eq_some_iff.mpr
          ⟨divisible.trans extents, fits, rfl⟩, firstPlaced, secondPlaced,
          rfl⟩, fun other listed => ?_⟩
      rcases List.mem_append.mp listed with inFirst | inSecond
      · obtain ⟨entry, member, grown⟩ := firstGrown other inFirst
        exact ⟨entry, List.mem_append_left _ member, grown⟩
      · obtain ⟨entry, member, grown⟩ := secondGrown other inSecond
        exact ⟨entry, List.mem_append_right _ member, grown⟩

/-! ## Placing with a condition on the rectangles -/

/-- Every leaf has a rectangle, and the rectangles meet a condition. -/
def PlacedWith (holds : Rect → Prop) (tree : TiledNode) (area : Rect) : Prop :=
  ∃ rects, tree.tile area = some rects ∧ ∀ entry ∈ rects, holds entry.2

variable {holds : Rect → Prop}

/-- A split is placed if both its children are. -/
theorem placedWith_split_iff
    {axis : Axis}
    {first second : TiledNode}
    {firstWeight secondWeight share : Nat}
    (divided : firstExtent (extentAlong axis area) firstWeight secondWeight =
      some share) :
    (split axis first second firstWeight secondWeight).PlacedWith holds
        area ↔
      first.PlacedWith holds (parts axis area share).1 ∧
        second.PlacedWith holds (parts axis area share).2 := by
  constructor
  · rintro ⟨rects, tiled, all⟩
    obtain ⟨sameShare, before, behind, sameDivided, firstTiled, secondTiled,
      rfl⟩ := tile_split_eq_some_iff.mp tiled
    rw [divided, Option.some.injEq] at sameDivided
    subst sameDivided
    exact ⟨⟨before, firstTiled, fun entry listed =>
        all entry (List.mem_append_left behind listed)⟩,
      behind, secondTiled, fun entry listed =>
        all entry (List.mem_append_right before listed)⟩
  · rintro ⟨⟨before, firstTiled, firstAll⟩, behind, secondTiled, secondAll⟩
    refine ⟨before ++ behind, tile_split_eq_some_iff.mpr
      ⟨share, before, behind, divided, firstTiled, secondTiled, rfl⟩,
      fun entry listed => ?_⟩
    rcases List.mem_append.mp listed with inFirst | inSecond
    · exact firstAll entry inFirst
    · exact secondAll entry inSecond

/-- Where a whole tree is placed, another subtree at a position is placed with
it if its own leaves are. -/
theorem placedWith_replaceAt_iff
    (found : tree.splitAt? area position = some node)
    (placed : tree.PlacedWith holds area)
    (other : TiledNode) :
    node.tree.PlacedWith holds node.area ∧
      ((tree.replaceAt other position).PlacedWith holds area ↔
        other.PlacedWith holds node.area) := by
  obtain ⟨rects, tiled, all⟩ := placed
  obtain ⟨before, inner, behind, rfl, innerTiled, replaced⟩ :=
    tile_replaceAt found tiled
  simp only [List.mem_append, or_imp, forall_and] at all
  obtain ⟨⟨beforeAll, innerAll⟩, behindAll⟩ := all
  refine ⟨⟨inner, innerTiled, innerAll⟩, ?_⟩
  unfold PlacedWith
  rw [replaced]
  simp only [Option.map_eq_some_iff]
  constructor
  · rintro ⟨_, ⟨middle, middleTiled, rfl⟩, middleAll⟩
    simp only [List.mem_append, or_imp, forall_and] at middleAll
    exact ⟨middle, middleTiled, middleAll.1.2⟩
  · rintro ⟨middle, middleTiled, middleAll⟩
    refine ⟨_, ⟨middle, middleTiled, rfl⟩, ?_⟩
    simp only [List.mem_append, or_imp, forall_and]
    exact ⟨⟨beforeAll, middleAll⟩, behindAll⟩

/-- A condition that larger rectangles keep is kept in a larger area. -/
theorem PlacedWith.mono
    {area larger : Rect}
    (placed : tree.PlacedWith holds area)
    (kept : ∀ rect other : Rect, rect.NoLarger other → holds rect → holds other)
    (words : tree.Words)
    (grows : area.NoLarger larger)
    (products : tree.ProductsFit larger) : tree.PlacedWith holds larger := by
  obtain ⟨rects, tiled, all⟩ := placed
  obtain ⟨others, otherTiled, grown⟩ := grown_tile words grows products tiled
  refine ⟨others, otherTiled, fun other listed => ?_⟩
  obtain ⟨entry, member, _, noLarger⟩ := grown other listed
  exact kept _ _ noLarger (all entry member)

theorem PlacedWith.productsFit
    (placed : tree.PlacedWith holds area) : tree.ProductsFit area := by
  obtain ⟨rects, tiled, _⟩ := placed
  exact productsFit_of_tile tiled

/-- Geometry is defined where the leaves have rectangles. -/
theorem isSome_geometry_iff
    {area : Rect} :
    (tree.geometry area).isSome ↔ tree.PlacedWith (fun _ => True) area := by
  rw [TiledNode.geometry, place_eq, Option.isSome_map, Option.isSome_iff_exists]
  constructor
  · rintro ⟨rects, tiled⟩
    exact ⟨rects, tiled, fun _ _ => trivial⟩
  · rintro ⟨rects, tiled, _⟩
    exact ⟨rects, tiled⟩

/-- Geometry is defined and every pane has the minimum content size. -/
def Ample (tree : TiledNode) (area : Rect) : Prop :=
  ∃ geometry, tree.geometry area = some geometry ∧
    ∀ pane rect, geometry.find? pane = some rect → tooSmall rect = false

/-- Under distinct panes this is a matter of the leaves. -/
theorem ample_iff
    (distinct : tree.paneIds.Nodup) :
    tree.Ample area ↔
      tree.PlacedWith (fun rect => tooSmall rect = false) area := by
  constructor
  · rintro ⟨geometry, result, enough⟩
    obtain ⟨rects, tiled, rfl⟩ := geometry_eq_some_iff.mp result
    exact ⟨rects, tiled, fun entry listed => enough entry.1 entry.2
      ((find?_geometry_iff distinct tiled).mpr listed)⟩
  · rintro ⟨rects, tiled, enough⟩
    exact ⟨_, geometry_eq_some_iff.mpr ⟨rects, tiled, rfl⟩,
      fun pane rect found => enough _ (mem_of_find?_geometry found)⟩

end TiledNode

end Layout
end Vvmux
