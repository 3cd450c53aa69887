import Vvmux.Layout.Placing

/-!
# Neighbours of a pane

Directional focus ranks the panes ahead of the focused one by the signed
distance of their edges. A pane is ahead by its center, so a pane above or
below that is wide enough is ahead too, at a negative distance, and comes
before every pane that lies beyond the edge. The focus reaches the neighbour
where no such pane exists.
-/

namespace Vvmux
namespace Layout

open Library

/-! ## Ranks -/

/-- The center of a rectangle lies strictly in the half-plane of a
direction. -/
def Rect.Ahead (current : Rect) (direction : Direction) (rect : Rect) : Prop :=
  match direction with
  | .left => rect.center.1 < current.center.1
  | .right => rect.center.1 > current.center.1
  | .up => rect.center.2 < current.center.2
  | .down => rect.center.2 > current.center.2

/-- Distance from the edge of a rectangle to the near edge of another. -/
def Rect.edgeDistance
    (current : Rect)
    (direction : Direction)
    (rect : Rect) : Int :=
  match direction with
  | .left => current.x - (rect.x + rect.width)
  | .right => rect.x - (current.x + current.width)
  | .up => current.y - (rect.y + rect.height)
  | .down => rect.y - (current.y + current.height)

/-- Length that two rectangles share across a direction. -/
def Rect.sharedSpan
    (current : Rect)
    (direction : Direction)
    (rect : Rect) : Nat :=
  match direction with
  | .left | .right => spanOverlap current.y current.height rect.y rect.height
  | .up | .down => spanOverlap current.x current.width rect.x rect.width

/-- A rectangle lies wholly beyond an edge of another. -/
def Rect.Beyond (current : Rect) (direction : Direction) (rect : Rect) : Prop :=
  match direction with
  | .left => rect.x + rect.width ≤ current.x
  | .right => current.x + current.width ≤ rect.x
  | .up => rect.y + rect.height ≤ current.y
  | .down => current.y + current.height ≤ rect.y

instance
    (current : Rect)
    (direction : Direction)
    (rect : Rect) : Decidable (current.Ahead direction rect) :=
  match direction with
  | .left | .right | .up | .down => inferInstanceAs (Decidable (_ < _))

instance
    (current : Rect)
    (direction : Direction)
    (rect : Rect) : Decidable (current.Beyond direction rect) :=
  match direction with
  | .left | .right | .up | .down => inferInstanceAs (Decidable (_ ≤ _))

variable {current rect : Rect} {direction : Direction}

theorem focusRank_eq_some_iff
    {projection : PaneProjection}
    {rank : FocusRank} :
    focusRank current direction projection = some rank ↔
      current.Ahead direction projection.outer ∧
        rank = ⟨current.edgeDistance direction projection.outer,
          current.sharedSpan direction projection.outer,
          projection.paneId⟩ := by
  cases direction <;>
    simp only [focusRank, Rect.Ahead, Rect.edgeDistance, Rect.sharedSpan,
      Option.ite_none_right_eq_some, decide_eq_true_eq, Option.some.injEq] <;>
    exact and_congr_right fun _ => eq_comm

/-- Beyond an edge is at no negative distance from it. -/
theorem beyond_iff
    {direction : Direction} :
    current.Beyond direction rect ↔
      0 ≤ current.edgeDistance direction rect := by
  cases direction <;> simp only [Rect.Beyond, Rect.edgeDistance] <;> omega

/-- A pane that lies beyond an edge is ahead. -/
theorem Rect.Beyond.ahead
    (beyond : current.Beyond direction rect)
    (wide : 0 < current.width)
    (high : 0 < current.height) : current.Ahead direction rect := by
  cases direction <;>
    simp only [Rect.Beyond, Rect.Ahead, Rect.center] at beyond ⊢ <;>
    omega

/-- What is not before a rank is not before what comes after it. -/
theorem FocusRank.not_before_trans
    {left middle right : FocusRank}
    (first : right.before middle = false)
    (second : middle.before left = false) : right.before left = false := by
  simp only [before, decide_eq_false_iff_not] at first second ⊢
  grind

theorem FocusRank.minimum?_eq_none_iff
    {ranks : List FocusRank} : minimum? ranks = none ↔ ranks = [] := by
  cases ranks with
  | nil => simp [minimum?]
  | cons head rest =>
      unfold minimum?
      split
      · simp
      · split_ifs <;> simp

/-- No rank of a list is before its first minimum. -/
theorem FocusRank.not_before_minimum?
    {ranks : List FocusRank}
    {best : FocusRank}
    (found : minimum? ranks = some best) :
    ∀ rank ∈ ranks, rank.before best = false := by
  have irreflexive : ∀ rank : FocusRank, rank.before rank = false := by
    intro rank
    simp [before]
  have asymmetric : ∀ left right : FocusRank, left.before right = true →
      right.before left = false := by
    intro left right
    simp only [before, decide_eq_true_eq, decide_eq_false_iff_not]
    grind
  induction ranks generalizing best with
  | nil => simp
  | cons head rest ih =>
      unfold minimum? at found
      cases inner : minimum? rest with
      | none =>
          rw [inner] at found
          cases found
          rw [minimum?_eq_none_iff.mp inner]
          simp [irreflexive]
      | some last =>
          rw [inner] at found
          dsimp only at found
          intro rank member
          split_ifs at found with earlier
          · cases found
            rcases List.mem_cons.mp member with rfl | inRest
            · exact asymmetric _ _ earlier
            · exact ih inner rank inRest
          · cases found
            rw [Bool.not_eq_true] at earlier
            rcases List.mem_cons.mp member with rfl | inRest
            · exact irreflexive _
            · exact not_before_trans (ih inner rank inRest)
                earlier

/-! ## Rectangles -/

/-- Two rectangles without a common cell lie side by side or one above the
other. -/
theorem separated_of_disjoint
    {left right : Rect}
    (leftWide : 0 < left.width)
    (leftHigh : 0 < left.height)
    (rightWide : 0 < right.width)
    (rightHigh : 0 < right.height)
    (apart : Disjoint left.cells right.cells) :
    left.x + left.width ≤ right.x ∨ right.x + right.width ≤ left.x ∨
      left.y + left.height ≤ right.y ∨ right.y + right.height ≤ left.y := by
  by_contra meets
  push Not at meets
  have inLeft : (max left.x right.x, max left.y right.y) ∈ left.cells := by
    rw [Rect.mem_cells]
    dsimp only
    omega
  have inRight : (max left.x right.x, max left.y right.y) ∈ right.cells := by
    rw [Rect.mem_cells]
    dsimp only
    omega
  exact Set.disjoint_left.mp apart inLeft inRight

/-- A rectangle whose cells are cells of an area lies inside it. -/
theorem inside_of_cells
    {rect area : Rect}
    (wide : 0 < rect.width)
    (high : 0 < rect.height)
    (inside : rect.cells ⊆ area.cells) :
    area.x ≤ rect.x ∧ rect.x + rect.width ≤ area.x + area.width ∧
      area.y ≤ rect.y ∧ rect.y + rect.height ≤ area.y + area.height := by
  have near : (rect.x, rect.y) ∈ area.cells := by
    apply inside
    rw [Rect.mem_cells]
    dsimp only
    omega
  have far : (rect.x + rect.width - 1, rect.y + rect.height - 1) ∈
      area.cells := by
    apply inside
    rw [Rect.mem_cells]
    dsimp only
    omega
  rw [Rect.mem_cells] at near far
  dsimp only at near far
  omega

/-- The cell right behind the edge of a rectangle in a direction, across from
a cell of another rectangle. -/
def Rect.acrossEdge
    (current : Rect)
    (direction : Direction)
    (rect : Rect) : Nat × Nat :=
  match direction with
  | .left => (current.x - 1, max current.y rect.y)
  | .right => (current.x + current.width, max current.y rect.y)
  | .up => (max current.x rect.x, current.y - 1)
  | .down => (max current.x rect.x, current.y + current.height)

/-- Inside an area that has a rectangle beyond an edge, the cell behind the
edge is a cell of the area. -/
theorem acrossEdge_mem
    {area current rect : Rect}
    (currentWide : 0 < current.width)
    (currentHigh : 0 < current.height)
    (wide : 0 < rect.width)
    (high : 0 < rect.height)
    (currentInside : current.cells ⊆ area.cells)
    (inside : rect.cells ⊆ area.cells)
    (beyond : current.Beyond direction rect)
    (shared : 0 < current.sharedSpan direction rect) :
    current.acrossEdge direction rect ∈ area.cells := by
  have currentBounds := inside_of_cells currentWide currentHigh currentInside
  have bounds := inside_of_cells wide high inside
  rw [Rect.mem_cells]
  cases direction <;>
    simp only [Rect.Beyond, Rect.sharedSpan, spanOverlap, Rect.acrossEdge]
      at beyond shared ⊢ <;>
    omega

/-- A rectangle that holds the cell behind an edge, but no cell in front of it,
begins at the edge. -/
theorem adjacent_of_acrossEdge
    {current rect adjacent : Rect}
    (currentWide : 0 < current.width)
    (currentHigh : 0 < current.height)
    (wide : 0 < rect.width)
    (high : 0 < rect.height)
    (beyond : current.Beyond direction rect)
    (shared : 0 < current.sharedSpan direction rect)
    (holds : current.acrossEdge direction rect ∈ adjacent.cells)
    (apart : Disjoint current.cells adjacent.cells) :
    current.edgeDistance direction adjacent = 0 ∧
      0 < current.sharedSpan direction adjacent := by
  rw [Rect.mem_cells] at holds
  have separated := separated_of_disjoint currentWide currentHigh
    (by omega : 0 < adjacent.width) (by omega : 0 < adjacent.height) apart
  cases direction <;>
    simp only [Rect.Beyond, Rect.sharedSpan, spanOverlap, Rect.acrossEdge,
      Rect.edgeDistance] at beyond shared holds ⊢ <;>
    omega

namespace TiledNode

/-! ## Projections of a tiled layout -/

/-- The projections of a layout without floats, in ascending pane order. -/
def tiledProjections
    (tree : TiledNode)
    (focused : PaneId)
    (area : Rect) : Option (List PaneProjection) :=
  (tree.geometry area).map fun geometry =>
    geometry.entries.map fun (paneId, outer) =>
      ⟨paneId, outer, outer.content, .tiled, focused == paneId⟩

variable {tree : TiledNode} {focused : PaneId} {area : Rect}
  {geometry : OrderedMap PaneId Rect}

variable {projections : List PaneProjection}

/-- A projection stands for an entry of the geometry. -/
theorem mem_tiledProjections_iff
    (placed : tree.geometry area = some geometry)
    (projected : tree.tiledProjections focused area = some projections)
    (pane : PaneId)
    (rect : Rect) :
    (∃ projection ∈ projections, projection.paneId = pane ∧
        projection.outer = rect) ↔
      geometry.find? pane = some rect := by
  rw [tiledProjections, placed, Option.map_some, Option.some.injEq]
    at projected
  rw [← projected, OrderedMap.find?_eq_some_iff]
  constructor
  · rintro ⟨projection, listed, rfl, rfl⟩
    obtain ⟨⟨id, outer⟩, entered, rfl⟩ := List.mem_map.mp listed
    exact entered
  · intro entered
    exact ⟨_, List.mem_map_of_mem entered, rfl, rfl⟩

/-- The focus moves to a pane that is first among the ranks of all that are
ahead. -/
theorem directionalFocus_eq_some
    {area current : Rect}
    {direction : Direction}
    (placed : tree.geometry area = some geometry)
    (projected : tree.tiledProjections focused area = some projections)
    (here : geometry.find? focused = some current) :
    (directionalFocus projections focused direction = none ∧
      ∀ other rect, other ≠ focused → geometry.find? other = some rect →
        ¬ current.Ahead direction rect) ∨
      ∃ next target, directionalFocus projections focused direction =
          some next ∧
        geometry.find? next = some target ∧
        current.Ahead direction target ∧
        ∀ other rect, other ≠ focused → geometry.find? other = some rect →
          current.Ahead direction rect →
          FocusRank.before
            ⟨current.edgeDistance direction rect,
              current.sharedSpan direction rect, other⟩
            ⟨current.edgeDistance direction target,
              current.sharedSpan direction target, next⟩ = false := by
  have listed := mem_tiledProjections_iff placed projected
  -- The projection of the focused pane has the rectangle of its entry.
  have foundCurrent : ∃ projection, projections.find? (fun projection =>
      projection.paneId = focused) = some projection ∧
        projection.outer = current := by
    obtain ⟨projection, member, sameId, _⟩ := (listed focused current).mpr here
    cases found : projections.find? fun projection =>
        projection.paneId = focused with
    | none =>
        exact absurd (List.find?_eq_none.mp found projection member)
          (by simp [sameId])
    | some first =>
        have firstId : first.paneId = focused := by
          simpa using List.find?_some found
        have firstHere := (listed focused first.outer).mp
          ⟨first, List.mem_of_find?_eq_some found, firstId, rfl⟩
        exact ⟨first, rfl, Option.some.inj (firstHere.symm.trans here)⟩
  obtain ⟨projection, foundProjection, rfl⟩ := foundCurrent
  generalize ranksAre : (projections.filter fun other =>
    other.paneId ≠ focused).filterMap
      (focusRank projection.outer direction) = ranks
  have mem_ranks : ∀ rank, rank ∈ ranks ↔ ∃ rect,
      rank.paneId ≠ focused ∧ geometry.find? rank.paneId = some rect ∧
        projection.outer.Ahead direction rect ∧
        rank = ⟨projection.outer.edgeDistance direction rect,
          projection.outer.sharedSpan direction rect, rank.paneId⟩ := by
    intro rank
    rw [← ranksAre, List.mem_filterMap]
    constructor
    · rintro ⟨candidate, member, ranked⟩
      obtain ⟨ahead, rfl⟩ := focusRank_eq_some_iff.mp ranked
      obtain ⟨member, different⟩ := List.mem_filter.mp member
      exact ⟨candidate.outer, of_decide_eq_true different,
        (listed _ _).mp ⟨candidate, member, rfl, rfl⟩, ahead, rfl⟩
    · rintro ⟨rect, different, found, ahead, rankIs⟩
      obtain ⟨candidate, member, sameId, rfl⟩ := (listed _ _).mpr found
      refine ⟨candidate, List.mem_filter.mpr ⟨member, ?_⟩,
        focusRank_eq_some_iff.mpr ⟨ahead, ?_⟩⟩
      · rw [sameId]
        exact decide_eq_true different
      · rw [rankIs, sameId]
  have focus : directionalFocus projections focused direction =
      (FocusRank.minimum? ranks).map FocusRank.paneId := by
    rw [directionalFocus, foundProjection, ← ranksAre, Option.map_eq_bind]
    rfl
  rw [focus]
  cases minimum : FocusRank.minimum? ranks with
  | none =>
      refine .inl ⟨rfl, fun other rect different found ahead => ?_⟩
      have member := (mem_ranks ⟨_, _, other⟩).mpr
        ⟨rect, different, found, ahead, rfl⟩
      rw [FocusRank.minimum?_eq_none_iff.mp minimum] at member
      cases member
  | some best =>
      obtain ⟨target, _, found, ahead, bestIs⟩ :=
        (mem_ranks best).mp (FocusRank.minimum?_mem minimum)
      refine .inr ⟨best.paneId, target, rfl, found, ahead,
        fun other rect different otherFound otherAhead => ?_⟩
      rw [← bestIs]
      exact FocusRank.not_before_minimum? minimum _
        ((mem_ranks ⟨_, _, other⟩).mpr
          ⟨rect, different, otherFound, otherAhead, rfl⟩)

/-! ## Reaching the neighbour -/

/-- The focus moves to a pane that lies wholly beyond the edge, and to a
nearest one among those that share a span with the focused pane. -/
def ReachesNeighbour
    (geometry : OrderedMap PaneId Rect)
    (current : Rect)
    (direction : Direction)
    (focus : Option PaneId) : Prop :=
  ∃ next target, focus = some next ∧ geometry.find? next = some target ∧
    current.Beyond direction target ∧
    0 < current.sharedSpan direction target ∧
    ∀ other rect, geometry.find? other = some rect →
      current.Beyond direction rect → 0 < current.sharedSpan direction rect →
        current.edgeDistance direction target ≤
          current.edgeDistance direction rect

/-- A pane beyond the edge that shares a span implies one right at the
edge. -/
theorem exists_adjacent
    {area current neighbour : Rect}
    {focused pane : PaneId}
    {direction : Direction}
    (partitions : tree.Partitions area geometry)
    (positive : ∀ pane rect, geometry.find? pane = some rect →
      0 < rect.width ∧ 0 < rect.height)
    (here : geometry.find? focused = some current)
    (found : geometry.find? pane = some neighbour)
    (beyond : current.Beyond direction neighbour)
    (shared : 0 < current.sharedSpan direction neighbour) :
    ∃ other rect, other ≠ focused ∧ geometry.find? other = some rect ∧
      current.edgeDistance direction rect = 0 ∧
      0 < current.sharedSpan direction rect := by
  obtain ⟨currentWide, currentHigh⟩ := positive focused current here
  obtain ⟨wide, high⟩ := positive pane neighbour found
  have inArea : ∀ id rect, geometry.find? id = some rect →
      rect.cells ⊆ area.cells := fun id rect entered cell inside =>
    (partitions.covered cell).mpr ⟨id, rect, entered, inside⟩
  obtain ⟨other, rect, otherFound, holds⟩ := (partitions.covered _).mp
    (acrossEdge_mem currentWide currentHigh wide high
      (inArea focused current here) (inArea pane neighbour found) beyond
      shared)
  have different : other ≠ focused := by
    rintro rfl
    have same : current = rect :=
      Option.some.inj (here.symm.trans otherFound)
    subst same
    rw [Rect.mem_cells] at holds
    cases direction <;>
      simp only [Rect.acrossEdge, Rect.Beyond] at holds beyond <;>
      omega
  obtain ⟨adjacent, span⟩ := adjacent_of_acrossEdge currentWide currentHigh
    wide high beyond shared holds (partitions.apart focused other current rect
      different.symm here otherFound)
  exact ⟨other, rect, different, otherFound, adjacent, span⟩

/-- Directional focus reaches the neighbour exactly where no pane is ahead of
the focused one without lying wholly beyond its edge. -/
theorem reachesNeighbour_iff
    {tree : TiledNode}
    {area current : Rect}
    {geometry : OrderedMap PaneId Rect}
    {projections : List PaneProjection}
    {focused : PaneId}
    {direction : Direction}
    (distinct : tree.paneIds.Nodup)
    (edges : EdgesAdmitted area)
    (wide : 0 < area.width)
    (high : 0 < area.height)
    (placed : tree.geometry area = some geometry)
    (projected : tree.tiledProjections focused area = some projections)
    (here : geometry.find? focused = some current)
    (neighbour : ∃ pane rect, geometry.find? pane = some rect ∧
      current.Beyond direction rect ∧ 0 < current.sharedSpan direction rect) :
    ReachesNeighbour geometry current direction
        (directionalFocus projections focused direction) ↔
      ∀ other rect, geometry.find? other = some rect →
        current.Ahead direction rect → current.Beyond direction rect := by
  obtain ⟨pane, rect, found, beyond, shared⟩ := neighbour
  have positive := fun pane rect =>
    @positive_geometry tree area geometry wide high placed pane rect
  have partitions := partitions_geometry distinct edges placed
  obtain ⟨adjacent, edge, different, adjacentFound, atEdge, span⟩ :=
    exists_adjacent partitions positive here found beyond shared
  obtain ⟨currentWide, currentHigh⟩ := positive focused current here
  have notAhead : ¬ current.Ahead direction current := by
    cases direction <;> simp [Rect.Ahead]
  have edgeAhead : current.Ahead direction edge :=
    Rect.Beyond.ahead (beyond_iff.mpr atEdge.ge) currentWide currentHigh
  rcases directionalFocus_eq_some placed projected here with
    ⟨_, none⟩ | ⟨next, target, focus, targetFound, ahead, first⟩
  · exact absurd edgeAhead (none adjacent edge different adjacentFound)
  have afterEdge := first adjacent edge different adjacentFound edgeAhead
  simp only [FocusRank.before, decide_eq_false_iff_not, not_or, not_and,
    not_lt, atEdge] at afterEdge
  constructor
  · rintro ⟨sameNext, sameTarget, sameFocus, sameFound, targetBeyond, _⟩
      other otherRect otherFound otherAhead
    rw [focus, Option.some.injEq] at sameFocus
    subst sameFocus
    rw [targetFound, Option.some.injEq] at sameFound
    subst sameFound
    have otherDifferent : other ≠ focused := by
      rintro rfl
      have same : current = otherRect :=
        Option.some.inj (here.symm.trans otherFound)
      exact notAhead (same ▸ otherAhead)
    have order := first other otherRect otherDifferent otherFound otherAhead
    simp only [FocusRank.before, decide_eq_false_iff_not, not_or, not_and,
      not_lt] at order
    exact beyond_iff.mpr ((beyond_iff.mp targetBeyond).trans order.1)
  · intro condition
    have targetBeyond := condition next target targetFound ahead
    have nonnegative := beyond_iff.mp targetBeyond
    have zero : 0 = current.edgeDistance direction target :=
      le_antisymm nonnegative afterEdge.1
    refine ⟨next, target, focus, targetFound, targetBeyond,
      span.trans_le (afterEdge.2 zero).1, ?_⟩
    intro other otherRect _ otherBeyond _
    rw [← zero]
    exact beyond_iff.mp otherBeyond

theorem reachesNeighbour_sideBySide :
    ReachesNeighbour
        (OrderedMap.empty.insertAll
          [(1, ⟨0, 0, 40, 23⟩), (2, ⟨40, 0, 40, 23⟩)])
        ⟨0, 0, 40, 23⟩ .right
        (directionalFocus
          [⟨1, ⟨0, 0, 40, 23⟩, ⟨1, 1, 38, 21⟩, .tiled, true⟩,
            ⟨2, ⟨40, 0, 40, 23⟩, ⟨41, 1, 38, 21⟩, .tiled, false⟩] 1 .right) ↔
      ∀ other rect,
        (OrderedMap.empty.insertAll
          [(1, ⟨0, 0, 40, 23⟩), (2, ⟨40, 0, 40, 23⟩)]).find? other =
            some rect →
        Rect.Ahead ⟨0, 0, 40, 23⟩ .right rect →
          Rect.Beyond ⟨0, 0, 40, 23⟩ .right rect :=
  @reachesNeighbour_iff sideBySide ⟨0, 0, 80, 23⟩ _ _ _ _ _ (by decide)
    (by decide) (by decide) (by decide) rfl rfl rfl
    ⟨2, ⟨40, 0, 40, 23⟩, rfl, by decide, by decide⟩

/-- Two panes above a wide one. -/
def aboveWide : TiledNode :=
  .split .horizontal (.split .vertical (.leaf 1) (.leaf 2) 1 1) (.leaf 3) 1 1

/-- The pane below is wider, so its center lies to the right, and it is chosen
in place of the neighbour on the right. -/
theorem not_reachesNeighbour :
    ∃ (tree : TiledNode) (area current : Rect)
      (geometry : OrderedMap PaneId Rect) (projections : List PaneProjection)
      (focused : PaneId) (direction : Direction),
      tree.paneIds.Nodup ∧ EdgesAdmitted area ∧ 0 < area.width ∧
        0 < area.height ∧ tree.geometry area = some geometry ∧
        tree.tiledProjections focused area = some projections ∧
        geometry.find? focused = some current ∧
        (∃ pane rect, geometry.find? pane = some rect ∧
          current.Beyond direction rect ∧
          0 < current.sharedSpan direction rect) ∧
        ¬ ReachesNeighbour geometry current direction
          (directionalFocus projections focused direction) := by
  refine ⟨aboveWide, ⟨0, 0, 80, 23⟩, ⟨0, 0, 40, 11⟩, _, _, 1, .right, by decide,
    by decide, by decide, by decide, rfl, rfl, rfl,
    ⟨2, ⟨40, 0, 40, 11⟩, rfl, by decide, by decide⟩, ?_⟩
  rintro ⟨next, target, focus, found, beyond, _⟩
  cases focus
  cases found
  exact absurd beyond (by decide)

end TiledNode

end Layout
end Vvmux
