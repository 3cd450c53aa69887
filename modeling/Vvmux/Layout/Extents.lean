import Vvmux.Layout.Tiled
import Mathlib.Tactic.Linarith

/-!
# Extents a tiled tree needs

Dividing an area down a tree aborts when some split receives an extent below
two along its own axis. The two axes do not interact, and each share grows with
the extent that is divided, so every tree has a least number of columns and a
least number of rows, computed from its shape and weights alone, and placing it
succeeds exactly in the areas that offer both.
-/

namespace Vvmux
namespace Layout

open Library

/-- The first child's share of a divisible extent. -/
def firstShare (extent firstWeight secondWeight : Nat) : Nat :=
  max 1 (min (extent * firstWeight / (firstWeight + secondWeight)) (extent - 1))

/-- Weights of a split made by the program: positive, with a 16-bit sum. -/
def WeightsAdmitted (firstWeight secondWeight : Nat) : Prop :=
  0 < firstWeight ∧ 0 < secondWeight ∧ firstWeight + secondWeight ≤ u16Max

theorem firstExtent_eq
    {extent firstWeight secondWeight : Nat}
    (admitted : WeightsAdmitted firstWeight secondWeight)
    (extentBound : extent ≤ u16Max) :
    firstExtent extent firstWeight secondWeight =
      if 2 ≤ extent then some (firstShare extent firstWeight secondWeight)
      else none := by
  obtain ⟨firstPositive, _, sumBound⟩ := admitted
  have weightBound : firstWeight ≤ u16Max := by omega
  have sumExact : max (saturatingAdd u32Max firstWeight secondWeight) 1 =
      firstWeight + secondWeight := by
    rw [saturatingAdd_eq_add (by unfold u32Max; unfold u16Max at sumBound; omega)]
    omega
  have productBound : extent * firstWeight ≤ u32Max :=
    (Nat.mul_le_mul extentBound weightBound).trans (by decide)
  unfold firstExtent
  rw [checkedMul_eq_some productBound, sumExact]
  simp only [Option.bind_eq_bind, Option.bind_some]
  by_cases divisible : 2 ≤ extent
  · rw [if_pos divisible, clamp?_eq_some (by omega)]
    rfl
  · rw [if_neg divisible, clamp?_eq_none_iff]
    omega

theorem firstShare_pos (extent firstWeight secondWeight : Nat) :
    1 ≤ firstShare extent firstWeight secondWeight := by
  unfold firstShare
  omega

theorem firstShare_lt
    {extent : Nat}
    (firstWeight secondWeight : Nat)
    (divisible : 2 ≤ extent) :
    firstShare extent firstWeight secondWeight < extent := by
  unfold firstShare
  omega

/-- Least extent that leaves `first` cells to the first child. -/
def extentForFirst (first firstWeight secondWeight : Nat) : Nat :=
  if first ≤ 1 then 2
  else max (first + 1)
    ((first * (firstWeight + secondWeight) + firstWeight - 1) / firstWeight)

/-- Least extent that leaves `second` cells to the second child. -/
def extentForSecond (second firstWeight secondWeight : Nat) : Nat :=
  if second ≤ 1 then 2
  else max (second + 1)
    ((second - 1) * (firstWeight + secondWeight) / secondWeight + 1)

/-- Rounding up divides as the least multiple does. -/
theorem ceilDiv_le_iff
    {amount divisor bound : Nat}
    (positive : 0 < divisor) :
    (amount + divisor - 1) / divisor ≤ bound ↔ amount ≤ bound * divisor := by
  rw [← Nat.lt_succ_iff, Nat.div_lt_iff_lt_mul positive, Nat.succ_mul]
  omega

theorem le_firstShare_iff
    {extent first firstWeight secondWeight : Nat}
    (admitted : WeightsAdmitted firstWeight secondWeight)
    (divisible : 2 ≤ extent) :
    first ≤ firstShare extent firstWeight secondWeight ↔
      extentForFirst first firstWeight secondWeight ≤ extent := by
  obtain ⟨firstPositive, _, _⟩ := admitted
  have total : 0 < firstWeight + secondWeight := by omega
  unfold firstShare extentForFirst
  split_ifs with small
  · omega
  · rw [max_le_iff, ceilDiv_le_iff firstPositive,
      ← Nat.le_div_iff_mul_le total]
    omega

theorem le_secondShare_iff
    {extent second firstWeight secondWeight : Nat}
    (admitted : WeightsAdmitted firstWeight secondWeight)
    (divisible : 2 ≤ extent) :
    second ≤ extent - firstShare extent firstWeight secondWeight ↔
      extentForSecond second firstWeight secondWeight ≤ extent := by
  obtain ⟨_, secondPositive, _⟩ := admitted
  have total : 0 < firstWeight + secondWeight := by omega
  unfold extentForSecond
  split_ifs with small
  · have := firstShare_lt firstWeight secondWeight divisible
    omega
  · have quotient : (second - 1) * (firstWeight + secondWeight) /
          secondWeight + 1 ≤ extent ↔
        (second - 1) * (firstWeight + secondWeight) <
          extent * secondWeight := by
      rw [Nat.succ_le_iff, Nat.div_lt_iff_lt_mul secondPositive]
    rw [max_le_iff, quotient]
    by_cases room : second + 1 ≤ extent
    · -- Both shares are measured against the same product of the extent.
      have complement :
          extent * firstWeight / (firstWeight + secondWeight) ≤
              extent - second ↔
            (second - 1) * (firstWeight + secondWeight) <
              extent * secondWeight := by
        rw [← Nat.lt_succ_iff, Nat.div_lt_iff_lt_mul total]
        have gap : extent - second = extent - 1 - (second - 1) := by omega
        obtain ⟨rest, restSum⟩ : ∃ rest, extent = second - 1 + (rest + 1) :=
          ⟨extent - second, by omega⟩
        have bound : (extent - second).succ = rest + 1 := by omega
        rw [bound, restSum]
        constructor <;> intro below <;> nlinarith
      unfold firstShare
      omega
    · unfold firstShare
      omega

namespace TiledNode

/-- Every split of the tree has weights the program can have given it. -/
def Weighted : TiledNode → Prop
  | .leaf _ => True
  | .split _ first second firstWeight secondWeight =>
      WeightsAdmitted firstWeight secondWeight ∧
        first.Weighted ∧ second.Weighted

/-- Least extent along an axis in which the tree can be placed. -/
def neededExtent (axis : Axis) : TiledNode → Nat
  | .leaf _ => 1
  | .split splitAxis first second firstWeight secondWeight =>
      if splitAxis = axis then
        max
          (extentForFirst (first.neededExtent axis) firstWeight secondWeight)
          (extentForSecond (second.neededExtent axis) firstWeight secondWeight)
      else max (first.neededExtent axis) (second.neededExtent axis)

/-- The area offers the columns and the rows that the tree needs. -/
def Fits (tree : TiledNode) (area : Rect) : Prop :=
  tree.neededExtent .vertical ≤ area.width ∧
    tree.neededExtent .horizontal ≤ area.height

instance (tree : TiledNode) (area : Rect) : Decidable (tree.Fits area) :=
  inferInstanceAs (Decidable (_ ∧ _))

variable (axis : Axis) {area : Rect} {firstWeight secondWeight : Nat}
  {tree : TiledNode} {direction : Direction} {focused : PaneId}

/-- One split of the extent along `axis` serves both children exactly when the
extent reaches what the split needs. -/
theorem neededExtent_split_le_iff
    (first second : TiledNode)
    {extent firstWeight secondWeight : Nat}
    (admitted : WeightsAdmitted firstWeight secondWeight) :
    (split axis first second firstWeight secondWeight).neededExtent axis ≤
        extent ↔
      2 ≤ extent ∧
        first.neededExtent axis ≤
          firstShare extent firstWeight secondWeight ∧
        second.neededExtent axis ≤
          extent - firstShare extent firstWeight secondWeight := by
  simp only [neededExtent, if_true, max_le_iff]
  by_cases divisible : 2 ≤ extent
  · rw [le_firstShare_iff admitted divisible,
      le_secondShare_iff admitted divisible]
    simp [divisible]
  · have needsTwo : 2 ≤ extentForFirst (first.neededExtent axis)
        firstWeight secondWeight := by
      unfold extentForFirst
      split_ifs <;> omega
    constructor
    · intro bounds
      omega
    · intro bounds
      exact absurd bounds.1 divisible

/-- An area whose extents are positive and fit 16 bits. -/
def AreaAdmitted (area : Rect) : Prop :=
  0 < area.width ∧ area.width ≤ u16Max ∧
    0 < area.height ∧ area.height ≤ u16Max

/-- The far edges of an area fit 16 bits. -/
def EdgesAdmitted (area : Rect) : Prop :=
  area.x + area.width ≤ u16Max ∧ area.y + area.height ≤ u16Max

/-- The two parts of an area whose first part has the given extent. -/
def divide (axis : Axis) (area : Rect) (share : Nat) : Rect × Rect :=
  match axis with
  | .vertical =>
      ({ area with width := share },
        { area with x := area.x + share, width := area.width - share })
  | .horizontal =>
      ({ area with height := share },
        { area with y := area.y + share, height := area.height - share })

/-- Both parts of a proper division are admitted. -/
theorem divide_admitted
    {axis : Axis}
    {area : Rect}
    {share : Nat}
    (admitted : AreaAdmitted area)
    (positive : 1 ≤ share)
    (below : share < extentAlong axis area) :
    AreaAdmitted (divide axis area share).1 ∧
      AreaAdmitted (divide axis area share).2 := by
  cases axis <;>
    simp only [AreaAdmitted, divide, extentAlong] at admitted below ⊢ <;>
    omega

theorem divide_edges
    {axis : Axis}
    {share : Nat}
    (edges : EdgesAdmitted area)
    (below : share < extentAlong axis area) :
    EdgesAdmitted (divide axis area share).1 ∧
      EdgesAdmitted (divide axis area share).2 := by
  cases axis <;>
    simp only [EdgesAdmitted, divide, extentAlong] at edges below ⊢ <;>
    omega

/-- A split fits an area exactly when its axis is divisible there and both
children fit their parts. -/
theorem fits_split_iff
    (first second : TiledNode)
    (weights : WeightsAdmitted firstWeight secondWeight) :
    (split axis first second firstWeight secondWeight).Fits area ↔
      2 ≤ extentAlong axis area ∧
        first.Fits (divide axis area
          (firstShare (extentAlong axis area) firstWeight secondWeight)).1 ∧
        second.Fits (divide axis area
          (firstShare (extentAlong axis area) firstWeight secondWeight)).2 := by
  cases axis <;>
    simp only [Fits, extentAlong, divide] <;>
    rw [neededExtent_split_le_iff _ first second weights] <;>
    simp only [neededExtent, reduceCtorEq, if_false, max_le_iff] <;>
    tauto

/-- Placing a subtree succeeds exactly where it fits, whatever has been placed
before. -/
def PlacedWhereFits (tree : TiledNode) : Prop :=
  ∀ (area : Rect) (output : OrderedMap PaneId Rect),
    AreaAdmitted area → ((tree.place area output).isSome ↔ tree.Fits area)

/-- Placing two children one after the other succeeds exactly when both fit
their own areas. -/
theorem PlacedWhereFits.both
    {first second : TiledNode}
    (firstPlaced : first.PlacedWhereFits)
    (secondPlaced : second.PlacedWhereFits)
    {firstArea secondArea : Rect}
    (firstAdmitted : AreaAdmitted firstArea)
    (secondAdmitted : AreaAdmitted secondArea)
    (output : OrderedMap PaneId Rect) :
    ((first.place firstArea output).bind fun placed =>
        second.place secondArea placed).isSome ↔
      first.Fits firstArea ∧ second.Fits secondArea := by
  have firstIff := firstPlaced firstArea output firstAdmitted
  cases result : first.place firstArea output with
  | none =>
      rw [result] at firstIff
      simp only [Option.isSome_none, Bool.false_eq_true, false_iff] at firstIff
      simp [firstIff]
  | some placed =>
      rw [result] at firstIff
      simp only [Option.isSome_some, true_iff] at firstIff
      rw [Option.bind_some, secondPlaced secondArea placed secondAdmitted]
      simp [firstIff]

/-- A tree can be placed exactly where it fits. -/
theorem placedWhereFits
    (tree : TiledNode)
    (weighted : tree.Weighted) : tree.PlacedWhereFits := by
  induction tree with
  | leaf pane =>
      rintro area output ⟨widthPositive, _, heightPositive, _⟩
      simp only [place, Option.isSome_some, true_iff, Fits, neededExtent]
      omega
  | split axis first second firstWeight secondWeight ihFirst ihSecond =>
      intro area output admitted
      obtain ⟨weights, firstWeighted, secondWeighted⟩ := weighted
      have both := @PlacedWhereFits.both first second
        (ihFirst firstWeighted) (ihSecond secondWeighted)
      rw [fits_split_iff axis first second weights]
      -- The placed second area differs from the divided one in its origin only.
      cases axis with
      | vertical =>
          simp only [place, firstExtent_eq weights admitted.2.1]
          by_cases divisible : 2 ≤ area.width
          · have parts := @divide_admitted .vertical area _ admitted
              (firstShare_pos area.width firstWeight secondWeight)
              (firstShare_lt firstWeight secondWeight divisible)
            simp only [if_pos divisible, Option.bind_eq_bind, Option.bind_some]
            refine (both ?_ ?_ output).trans (and_iff_right divisible).symm
            · exact parts.1
            · exact parts.2
          · simp [extentAlong, divisible]
      | horizontal =>
          simp only [place, firstExtent_eq weights admitted.2.2.2]
          by_cases divisible : 2 ≤ area.height
          · have parts := @divide_admitted .horizontal area _ admitted
              (firstShare_pos area.height firstWeight secondWeight)
              (firstShare_lt firstWeight secondWeight divisible)
            simp only [if_pos divisible, Option.bind_eq_bind, Option.bind_some]
            refine (both ?_ ?_ output).trans (and_iff_right divisible).symm
            · exact parts.1
            · exact parts.2
          · simp [extentAlong, divisible]

/-- Geometry returns normally exactly where the tree fits. -/
theorem geometry_isSome_iff
    (weighted : tree.Weighted)
    (admitted : AreaAdmitted area) :
    (tree.geometry area).isSome ↔ tree.Fits area :=
  tree.placedWhereFits weighted area OrderedMap.empty admitted

/-- Splitting a leaf keeps the weights admitted. -/
theorem Weighted.splitCandidate
    (weighted : tree.Weighted)
    (target newPane : PaneId)
    (axis : Axis) : (tree.splitCandidate target newPane axis).1.Weighted := by
  unfold TiledNode.splitCandidate
  induction tree with
  | leaf pane =>
      unfold TiledNode.replaceLeaf
      split_ifs
      · exact ⟨⟨by decide, by decide, by decide⟩, trivial, trivial⟩
      · trivial
  | split nodeAxis first second firstWeight secondWeight ihFirst ihSecond =>
      obtain ⟨weights, firstWeighted, secondWeighted⟩ := weighted
      unfold TiledNode.replaceLeaf
      split_ifs
      · exact ⟨weights, ihFirst firstWeighted, secondWeighted⟩
      · exact ⟨weights, firstWeighted, ihSecond secondWeighted⟩

/-- A split returns normally exactly when its candidate fits, or when there is
no pane to split. -/
theorem splitPane_isSome_iff
    (weighted : tree.Weighted)
    (admitted : AreaAdmitted area)
    (focused newPane : PaneId)
    (axis : Axis) :
    (tree.splitPane focused newPane axis area).isSome ↔
      (focused ∈ tree.paneIds →
        (tree.splitCandidate focused newPane axis).1.Fits area) := by
  have placed := geometry_isSome_iff
    (weighted.splitCandidate focused newPane axis) admitted
  have found : (tree.splitCandidate focused newPane axis).2 =
      tree.contains focused := replaceLeaf_found tree focused _
  simp only [splitPane, found]
  cases present : tree.contains focused with
  | false =>
      have absent := (contains_eq_false_iff tree focused).mp present
      simp [absent]
  | true =>
      have member := (contains_iff tree focused).mp present
      simp only [Bool.not_true, Bool.false_eq_true, if_false, member,
        true_imp_iff]
      rw [← placed]
      cases (tree.splitCandidate focused newPane axis).1.geometry area with
      | none => simp
      | some geometry =>
          simp only [Option.bind_eq_bind, Option.bind_some, Option.isSome_some,
            iff_true]
          split_ifs <;> rfl

/-- The path that a resize descends: every subtree off the path is replaced by
a leaf. -/
def alongPath (focused : PaneId) : TiledNode → TiledNode
  | .leaf pane => .leaf pane
  | .split axis first second firstWeight secondWeight =>
      if first.contains focused then
        .split axis (first.alongPath focused) (.leaf focused)
          firstWeight secondWeight
      else
        .split axis (.leaf focused) (second.alongPath focused)
          firstWeight secondWeight

theorem splitAreas_eq
    (weights : WeightsAdmitted firstWeight secondWeight)
    (edges : EdgesAdmitted area) :
    splitAreas area axis firstWeight secondWeight =
      if 2 ≤ extentAlong axis area then
        let parts := divide axis area
          (firstShare (extentAlong axis area) firstWeight secondWeight)
        some (parts.1, parts.2, extentAlong axis area)
      else none := by
  obtain ⟨rightEdge, bottomEdge⟩ := edges
  cases axis with
  | vertical =>
      simp only [splitAreas, extentAlong, divide]
      rw [firstExtent_eq weights (by omega)]
      by_cases divisible : 2 ≤ area.width
      · have shareBelow := firstShare_lt firstWeight secondWeight divisible
        simp only [if_pos divisible, Option.bind_eq_bind, Option.bind_some]
        rw [checkedAdd_eq_some (by omega), checkedSub_eq_some shareBelow.le]
        exact (if_pos divisible).symm
      · simp [divisible]
  | horizontal =>
      simp only [splitAreas, extentAlong, divide]
      rw [firstExtent_eq weights (by omega)]
      by_cases divisible : 2 ≤ area.height
      · have shareBelow := firstShare_lt firstWeight secondWeight divisible
        simp only [if_pos divisible, Option.bind_eq_bind, Option.bind_some]
        rw [checkedAdd_eq_some (by omega), checkedSub_eq_some shareBelow.le]
        exact (if_pos divisible).symm
      · simp [divisible]

/-- A leaf fits every admitted area. -/
theorem fits_leaf
    (pane : PaneId)
    (admitted : AreaAdmitted area) : (leaf pane).Fits area :=
  ⟨admitted.1, admitted.2.2.1⟩

/-- A resize below a node returns normally exactly where its path fits. -/
theorem resizeInner_isSome_iff
    (tree : TiledNode)
    (focused : PaneId)
    (direction : Direction)
    {area : Rect}
    {changed : Bool}
    (weighted : tree.Weighted)
    (admitted : AreaAdmitted area)
    (edges : EdgesAdmitted area) :
    (tree.resizeInner focused direction area changed).isSome ↔
      (tree.alongPath focused).Fits area := by
  induction tree generalizing area with
  | leaf pane =>
      simp only [resizeInner, Option.isSome_some, true_iff, alongPath]
      exact fits_leaf pane admitted
  | split axis first second firstWeight secondWeight ihFirst ihSecond =>
      obtain ⟨weights, firstWeighted, secondWeighted⟩ := weighted
      rw [resizeInner, splitAreas_eq axis weights edges]
      by_cases divisible : 2 ≤ extentAlong axis area
      · have below := firstShare_lt firstWeight secondWeight divisible
        have parts := divide_admitted admitted
          (firstShare_pos _ firstWeight secondWeight) below
        have partEdges := divide_edges edges below
        simp only [if_pos divisible, Option.bind_some, alongPath]
        split_ifs with inFirst
        · rw [Option.isSome_map, fits_split_iff _ _ _ weights,
            ihFirst firstWeighted parts.1 partEdges.1]
          simp [divisible, fits_leaf focused parts.2]
        · rw [Option.isSome_map, fits_split_iff _ _ _ weights,
            ihSecond secondWeighted parts.2 partEdges.2]
          simp [divisible, fits_leaf focused parts.1]
      · simp only [if_neg divisible, Option.bind_none, Option.isSome_none,
          Bool.false_eq_true, false_iff, alongPath]
        split_ifs <;>
          rw [fits_split_iff _ _ _ weights] <;>
          exact fun bounds => divisible bounds.1

/-- A resize returns normally exactly where its path fits. -/
theorem resize_isSome_iff
    (weighted : tree.Weighted)
    (admitted : AreaAdmitted area)
    (edges : EdgesAdmitted area)
    (focused : PaneId)
    (direction : Direction) :
    (tree.resize focused direction area).isSome ↔
      (tree.alongPath focused).Fits area := by
  have inner := @resizeInner_isSome_iff tree focused direction area false
    weighted admitted edges
  rw [← inner]
  simp only [resize]
  cases tree.resizeInner focused direction area false <;> rfl

/-- An accepted split keeps the weights admitted. -/
theorem Weighted.splitPane
    {tree candidate : TiledNode}
    {focused newPane : PaneId}
    {axis : Axis}
    (weighted : tree.Weighted)
    (accepted :
      tree.splitPane focused newPane axis area = some (.ok candidate)) :
    candidate.Weighted := by
  rw [(splitPane_eq_ok accepted).2]
  exact weighted.splitCandidate focused newPane axis

/-- Closing a pane keeps the weights of the remaining splits. -/
theorem Weighted.close
    {tree survivor : TiledNode}
    {pane : PaneId}
    (weighted : tree.Weighted)
    (closed : tree.close pane = some survivor) : survivor.Weighted := by
  induction tree generalizing survivor with
  | leaf id =>
      simp only [TiledNode.close, Option.ite_none_right_eq_some,
        Option.some.injEq] at closed
      rw [← closed.2]
      trivial
  | split axis first second firstWeight secondWeight ihFirst ihSecond =>
      obtain ⟨weights, firstWeighted, secondWeighted⟩ := weighted
      unfold TiledNode.close at closed
      cases firstClosed : first.close pane <;>
        cases secondClosed : second.close pane <;>
        simp only [firstClosed, secondClosed, Option.some.injEq,
          reduceCtorEq] at closed <;>
        subst closed
      · exact ihSecond secondWeighted secondClosed
      · exact ihFirst firstWeighted firstClosed
      · exact ⟨weights, ihFirst firstWeighted firstClosed,
          ihSecond secondWeighted secondClosed⟩

/-- A moved boundary has admitted weights again. -/
theorem weightsAdmitted_of_movedWeights
    {axis : Axis}
    {inFirst : Bool}
    {firstSize total : Nat}
    {moved : Nat × Nat}
    (totalBound : total ≤ u16Max)
    (result : movedWeights axis inFirst direction firstSize total = some moved) :
    WeightsAdmitted moved.1 moved.2 := by
  simp only [movedWeights, Option.ite_none_right_eq_some,
    Option.some.injEq] at result
  obtain ⟨⟨_, _, lower, upper⟩, rfl⟩ := result
  have minimumPositive : 0 < minimumExtent axis := by cases axis <;> decide
  simp only [WeightsAdmitted]
  omega

/-- Settling keeps admitted weights when the moved pair is admitted. -/
theorem weighted_settle
    {rebuild : TiledNode → Nat → Nat → TiledNode}
    {weights : Nat × Nat}
    {moved : Option (Nat × Nat)}
    {inner : ResizeResult}
    (rebuilt : ∀ firstWeight secondWeight,
      WeightsAdmitted firstWeight secondWeight →
        (rebuild inner.tree firstWeight secondWeight).Weighted)
    (weightsKept : WeightsAdmitted weights.1 weights.2)
    (movedKept : ∀ pair ∈ moved, WeightsAdmitted pair.1 pair.2) :
    (settle rebuild weights moved inner).tree.Weighted := by
  unfold settle
  split
  · cases moved with
    | none => exact rebuilt _ _ weightsKept
    | some pair => exact rebuilt _ _ (movedKept pair rfl)
  · exact rebuilt _ _ weightsKept

/-- Resizing keeps the weights admitted. -/
theorem Weighted.resizeInner
    {changed : Bool}
    {result : ResizeResult}
    (weighted : tree.Weighted)
    (edges : EdgesAdmitted area)
    (resized : tree.resizeInner focused direction area changed = some result) :
    result.tree.Weighted := by
  induction tree generalizing area result with
  | leaf pane =>
      simp only [TiledNode.resizeInner, Option.some.injEq] at resized
      rw [← resized]
      trivial
  | split axis first second firstWeight secondWeight ihFirst ihSecond =>
      obtain ⟨weights, firstWeighted, secondWeighted⟩ := weighted
      rw [TiledNode.resizeInner, splitAreas_eq axis weights edges] at resized
      have totalBound : extentAlong axis area ≤ u16Max := by
        obtain ⟨rightEdge, bottomEdge⟩ := edges
        cases axis <;> simp only [extentAlong] <;> omega
      by_cases divisible : 2 ≤ extentAlong axis area
      · have partEdges := divide_edges edges
          (firstShare_lt firstWeight secondWeight divisible)
        simp only [if_pos divisible, Option.bind_some] at resized
        split_ifs at resized with inFirst
        · obtain ⟨inner, innerResized, rfl⟩ := Option.map_eq_some_iff.mp resized
          exact weighted_settle
            (fun _ _ admitted => ⟨admitted,
              ihFirst firstWeighted partEdges.1 innerResized,
              secondWeighted⟩)
            weights
            (fun _ member =>
              weightsAdmitted_of_movedWeights totalBound member)
        · obtain ⟨inner, innerResized, rfl⟩ := Option.map_eq_some_iff.mp resized
          exact weighted_settle
            (fun _ _ admitted => ⟨admitted, firstWeighted,
              ihSecond secondWeighted partEdges.2 innerResized⟩)
            weights
            (fun _ member =>
              weightsAdmitted_of_movedWeights totalBound member)
      · simp [divisible] at resized

theorem Weighted.resize
    {tree resized : TiledNode}
    {changed : Bool}
    (weighted : tree.Weighted)
    (edges : EdgesAdmitted area)
    (result : tree.resize focused direction area = some (resized, changed)) :
    resized.Weighted := by
  simp only [TiledNode.resize, Option.bind_eq_bind, Option.bind_eq_some_iff,
    Option.pure_def, Option.some.injEq, Prod.mk.injEq] at result
  obtain ⟨inner, innerResized, rfl, _⟩ := result
  exact weighted.resizeInner edges innerResized

end TiledNode

end Layout
end Vvmux
