import Vvmux.Library.Bounded
import Vvmux.Library.OrderedMap

/-!
# Cell rectangles and pane projections

Rectangles are frame-inclusive and measured in composed grid cells. A
projection is one visible pane in bottom-to-top paint order.
-/

namespace Vvmux
namespace Layout

open Library

abbrev PaneId := Nat

inductive Axis
  | horizontal
  | vertical
  deriving DecidableEq, Repr

inductive Direction
  | left
  | right
  | up
  | down
  deriving DecidableEq, Repr

def minContentColumns : Nat := 4
def minContentRows : Nat := 2
def frameColumns : Nat := 2
def frameRows : Nat := 2

structure Rect where
  x : Nat
  y : Nat
  width : Nat
  height : Nat
  deriving DecidableEq, Repr

namespace Rect

/-- The area inside the frame. -/
def content (rect : Rect) : Rect where
  x := saturatingAdd u16Max rect.x 1
  y := saturatingAdd u16Max rect.y 1
  width := rect.width - frameColumns
  height := rect.height - frameRows

def contains (rect : Rect) (x y : Nat) : Bool :=
  decide (rect.x ≤ x ∧ x < rect.x + rect.width ∧
    rect.y ≤ y ∧ y < rect.y + rect.height)

/-- Twice the center, so that it stays integral. -/
def center (rect : Rect) : Int × Int :=
  (rect.x * 2 + rect.width, rect.y * 2 + rect.height)

end Rect

inductive PaneLayer
  | tiled
  | floating
  | pinned
  deriving DecidableEq, Repr

structure PaneProjection where
  paneId : PaneId
  outer : Rect
  content : Rect
  layer : PaneLayer
  focused : Bool
  deriving DecidableEq, Repr

/-- Length of the intersection of two spans. -/
def spanOverlap (aStart aLen bStart bLen : Nat) : Nat :=
  min (aStart + aLen) (bStart + bLen) - max aStart bStart

/-- Ranking of a focus candidate: forward edge distance, perpendicular overlap
and pane identifier. -/
structure FocusRank where
  edgeDistance : Int
  overlap : Nat
  paneId : PaneId
  deriving DecidableEq, Repr

/-- Smaller distance first, then larger overlap, then smaller identifier. -/
def FocusRank.before (left right : FocusRank) : Bool :=
  decide (left.edgeDistance < right.edgeDistance ∨
    left.edgeDistance = right.edgeDistance ∧
      (right.overlap < left.overlap ∨
        left.overlap = right.overlap ∧ left.paneId < right.paneId))

/-- Rank of a rectangle seen from the focused one, if its center lies strictly
in the requested half-plane. -/
def focusRank
    (current : Rect)
    (direction : Direction)
    (projection : PaneProjection) : Option FocusRank :=
  let rect := projection.outer
  let (cx, cy) := current.center
  let (x, y) := rect.center
  let inHalfPlane : Bool := match direction with
    | .left => x < cx
    | .right => x > cx
    | .up => y < cy
    | .down => y > cy
  if inHalfPlane then
    let edgeDistance : Int := match direction with
      | .left => current.x - (rect.x + rect.width)
      | .right => rect.x - (current.x + current.width)
      | .up => current.y - (rect.y + rect.height)
      | .down => rect.y - (current.y + current.height)
    let overlap := match direction with
      | .left | .right =>
          spanOverlap current.y current.height rect.y rect.height
      | .up | .down =>
          spanOverlap current.x current.width rect.x rect.width
    some ⟨edgeDistance, overlap, projection.paneId⟩
  else none

/-- First minimum of a list of ranks. -/
def FocusRank.minimum? : List FocusRank → Option FocusRank
  | [] => none
  | rank :: rest =>
      match minimum? rest with
      | none => some rank
      | some best => if best.before rank then some best else some rank

/-- Directional focus across visible floats and tiled panes together. -/
def directionalFocus
    (projections : List PaneProjection)
    (focused : PaneId)
    (direction : Direction) : Option PaneId := do
  let current ← projections.find? fun projection => projection.paneId = focused
  let candidates := projections.filter fun projection =>
    projection.paneId ≠ focused
  let best ← FocusRank.minimum?
    (candidates.filterMap (focusRank current.outer direction))
  return best.paneId

theorem FocusRank.minimum?_mem
    {ranks : List FocusRank}
    {best : FocusRank}
    (found : minimum? ranks = some best) : best ∈ ranks := by
  induction ranks generalizing best with
  | nil => simp [minimum?] at found
  | cons rank rest ih =>
      unfold minimum? at found
      split at found
      · simp only [Option.some.injEq] at found
        simp [found]
      · rename_i inner innerFound
        split_ifs at found
        · simp only [Option.some.injEq] at found
          subst found
          exact List.mem_cons_of_mem _ (ih innerFound)
        · simp only [Option.some.injEq] at found
          simp [found]

variable {direction : Direction}

theorem focusRank_paneId
    {current : Rect}
    {projection : PaneProjection}
    {rank : FocusRank}
    (ranked : focusRank current direction projection = some rank) :
    rank.paneId = projection.paneId := by
  cases direction <;>
    simp only [focusRank, Option.ite_none_right_eq_some,
      Option.some.injEq] at ranked <;>
    rw [← ranked.2]

/-- Directional focus only ever names a projected pane. -/
theorem directionalFocus_mem
    {projections : List PaneProjection}
    {focused next : PaneId}
    (found : directionalFocus projections focused direction = some next) :
    next ∈ projections.map PaneProjection.paneId := by
  simp only [directionalFocus, Option.pure_def, Option.bind_eq_bind,
    Option.bind_eq_some_iff, Option.some.injEq] at found
  obtain ⟨current, _, best, bestFound, rfl⟩ := found
  have bestMember := FocusRank.minimum?_mem bestFound
  obtain ⟨projection, present, ranked⟩ := List.mem_filterMap.mp bestMember
  rw [focusRank_paneId ranked]
  exact List.mem_map_of_mem (List.mem_of_mem_filter present)

end Layout
end Vvmux
