import Vvmux.Layout.Rect
import Vvmux.Library.Signed
import Vvmux.Library.Tiling

/-!
# Regions of fixed-point rectangles

Intersection, subtraction and coalescing of rectangles in signed 32.32
coordinates.  A rectangle carries the proof that it is not empty and that its
far edges can be represented.  Plain additions and subtractions of the source
have no result where they would overflow.
-/

namespace Vvmux

open Library

namespace Projection

/-- `FIXED_ONE` -/
def fixedOne : Int := 2 ^ 32

structure FixedRect where
  x : I64
  y : I64
  width : I64
  height : I64
  widthPositive : 0 < width.1
  heightPositive : 0 < height.1
  rightFits : (I64.checkedAdd x width).isSome
  bottomFits : (I64.checkedAdd y height).isSome
deriving DecidableEq

namespace FixedRect

/-- `FixedRect::new` -/
def new (x y width height : I64) : Option FixedRect :=
  if positive : 0 < width.1 ∧ 0 < height.1 then
    if fits : (I64.checkedAdd x width).isSome ∧
        (I64.checkedAdd y height).isSome then
      some
        { x := x
          y := y
          width := width
          height := height
          widthPositive := positive.1
          heightPositive := positive.2
          rightFits := fits.1
          bottomFits := fits.2 }
    else none
  else none

def right (rect : FixedRect) : I64 :=
  (I64.checkedAdd rect.x rect.width).get rect.rightFits

def bottom (rect : FixedRect) : I64 :=
  (I64.checkedAdd rect.y rect.height).get rect.bottomFits

/-- The points of a rectangle; its far edges are not among them. -/
def points (rect : FixedRect) : Set (Int × Int) :=
  Set.Ico rect.x.1 rect.right.1 ×ˢ Set.Ico rect.y.1 rect.bottom.1

theorem right_val (rect : FixedRect) : rect.right.1 = rect.x.1 + rect.width.1 :=
  I64.checkedAdd_eq_some_iff.mp (Option.some_get rect.rightFits).symm

theorem bottom_val
    (rect : FixedRect) : rect.bottom.1 = rect.y.1 + rect.height.1 :=
  I64.checkedAdd_eq_some_iff.mp (Option.some_get rect.bottomFits).symm

theorem mem_points
    {rect : FixedRect}
    {point : Int × Int} :
    point ∈ rect.points ↔
      (rect.x.1 ≤ point.1 ∧ point.1 < rect.x.1 + rect.width.1) ∧
        (rect.y.1 ≤ point.2 ∧ point.2 < rect.y.1 + rect.height.1) := by
  rw [points, Set.mem_prod, Set.mem_Ico, Set.mem_Ico, right_val, bottom_val]

theorem points_nonempty
    (rect : FixedRect) : (rect.x.1, rect.y.1) ∈ rect.points := by
  have wide := rect.widthPositive
  have high := rect.heightPositive
  rw [mem_points]
  dsimp only
  omega

/-- When there is such a rectangle. -/
theorem new_eq_some_iff
    {x y width height : I64}
    {rect : FixedRect} :
    new x y width height = some rect ↔
      (rect.x = x ∧ rect.y = y ∧ rect.width = width ∧
        rect.height = height) := by
  unfold new
  constructor
  · intro made
    split at made
    · split at made
      · injection made with same
        rw [← same]
        exact ⟨rfl, rfl, rfl, rfl⟩
      · cases made
    · cases made
  · rintro ⟨rfl, rfl, rfl, rfl⟩
    rw [dif_pos ⟨rect.widthPositive, rect.heightPositive⟩,
      dif_pos ⟨rect.rightFits, rect.bottomFits⟩]

theorem new_isSome_iff
    {x y width height : I64} :
    (new x y width height).isSome ↔
      0 < width.1 ∧ 0 < height.1 ∧ x.1 + width.1 ≤ i64Max ∧
        y.1 + height.1 ≤ i64Max := by
  have fits : ∀ start length : I64, 0 < length.1 →
      ((I64.checkedAdd start length).isSome ↔
        start.1 + length.1 ≤ i64Max) := by
    intro start length positive
    have low := start.2.1
    rw [Option.isSome_iff_exists]
    constructor
    · rintro ⟨sum, added⟩
      rw [← I64.checkedAdd_eq_some_iff.mp added]
      exact sum.2.2
    · intro high
      exact ⟨⟨_, by omega, high⟩, I64.checkedAdd_eq_some_iff.mpr rfl⟩
  unfold new
  split
  · rename_i positive
    have across := fits x width positive.1
    have down := fits y height positive.2
    split
    · rename_i inside
      exact iff_of_true rfl ⟨positive.1, positive.2, across.mp inside.1,
        down.mp inside.2⟩
    · rename_i outside
      exact iff_of_false Bool.false_ne_true fun inside =>
        outside ⟨across.mpr inside.2.2.1, down.mpr inside.2.2.2⟩
  · rename_i empty
    exact iff_of_false Bool.false_ne_true fun inside =>
      empty ⟨inside.1, inside.2.1⟩

end FixedRect

/-- `from_cells` -/
def fromCells
    (rect : Layout.Rect) :
    Option FixedRect := do
  let x ← I64.check (rect.x * fixedOne)
  let y ← I64.check (rect.y * fixedOne)
  let width ← I64.check (rect.width * fixedOne)
  let height ← I64.check (rect.height * fixedOne)
  FixedRect.new x y width height

/-! ## Intersection -/

/-- `intersect` -/
def intersect
    (left right : FixedRect) :
    Option FixedRect := do
  let x := max left.x right.x
  let y := max left.y right.y
  let endX := min left.right right.right
  let endY := min left.bottom right.bottom
  let width ← I64.checkedSub endX x
  let height ← I64.checkedSub endY y
  FixedRect.new x y width height

/-- What two rectangles have in common. -/
theorem points_intersect
    {left right overlap : FixedRect}
    (met : intersect left right = some overlap) :
    overlap.points = left.points ∩ right.points := by
  unfold intersect at met
  obtain ⟨width, wide, met⟩ := Option.bind_eq_some_iff.mp met
  obtain ⟨height, high, met⟩ := Option.bind_eq_some_iff.mp met
  obtain ⟨x, y, sameWidth, sameHeight⟩ := FixedRect.new_eq_some_iff.mp met
  have wide := I64.checkedSub_eq_some_iff.mp wide
  have high := I64.checkedSub_eq_some_iff.mp high
  rw [I64.max_val, I64.min_val, FixedRect.right_val, FixedRect.right_val]
    at wide
  rw [I64.max_val, I64.min_val, FixedRect.bottom_val, FixedRect.bottom_val]
    at high
  ext point
  rw [Set.mem_inter_iff, FixedRect.mem_points, FixedRect.mem_points,
    FixedRect.mem_points, x, y, sameWidth, sameHeight, wide, high,
    I64.max_val, I64.max_val]
  omega

/-- Without a result there is nothing in common. -/
theorem disjoint_of_intersect
    {left right : FixedRect}
    (missed : intersect left right = none) :
    Disjoint left.points right.points := by
  rw [Set.disjoint_left]
  intro point inLeft inRight
  rw [FixedRect.mem_points] at inLeft inRight
  have rightLeft := FixedRect.right_val left
  have rightRight := FixedRect.right_val right
  have bottomLeft := FixedRect.bottom_val left
  have bottomRight := FixedRect.bottom_val right
  have x := I64.max_val left.x right.x
  have y := I64.max_val left.y right.y
  have endX := I64.min_val left.right right.right
  have endY := I64.min_val left.bottom right.bottom
  have lowX := (max left.x right.x).2
  have lowY := (max left.y right.y).2
  have highX := (min left.right right.right).2
  have highY := (min left.bottom right.bottom).2
  have inX := left.x.2
  have inY := left.y.2
  have wide := left.width.2
  have high := left.height.2
  unfold i64Min i64Max at *
  obtain ⟨width, sameWidth⟩ : ∃ width,
      I64.checkedSub (min left.right right.right) (max left.x right.x) =
        some width :=
    ⟨⟨_, by unfold i64Min; omega, by unfold i64Max; omega⟩,
      I64.checkedSub_eq_some_iff.mpr rfl⟩
  obtain ⟨height, sameHeight⟩ : ∃ height,
      I64.checkedSub (min left.bottom right.bottom) (max left.y right.y) =
        some height :=
    ⟨⟨_, by unfold i64Min; omega, by unfold i64Max; omega⟩,
      I64.checkedSub_eq_some_iff.mpr rfl⟩
  have made : (FixedRect.new (max left.x right.x) (max left.y right.y) width
      height).isSome := by
    rw [FixedRect.new_isSome_iff, I64.checkedSub_eq_some_iff.mp sameWidth,
      I64.checkedSub_eq_some_iff.mp sameHeight]
    unfold i64Max
    omega
  unfold intersect at missed
  simp only [sameWidth, sameHeight, Option.bind_eq_bind, Option.bind_some]
    at missed
  rw [missed] at made
  cases made

/-! ## Subtraction -/

/-- The pieces of a rectangle above, below and beside an overlap. -/
def piecesAround
    (base overlap : FixedRect)
    (topHeight bottomHeight leftWidth rightWidth : I64) : List FixedRect :=
  (FixedRect.new base.x base.y base.width topHeight).toList ++
    (FixedRect.new base.x overlap.bottom base.width bottomHeight).toList ++
    (FixedRect.new base.x overlap.y leftWidth overlap.height).toList ++
    (FixedRect.new overlap.right overlap.y rightWidth overlap.height).toList

/-- What `subtract` puts where base and hole overlap. -/
def subtractOverlap
    (base overlap : FixedRect) :
    Option (List FixedRect) := do
  let topHeight ← I64.checkedSub overlap.y base.y
  let bottomHeight ← I64.checkedSub base.bottom overlap.bottom
  let leftWidth ← I64.checkedSub overlap.x base.x
  let rightWidth ← I64.checkedSub base.right overlap.right
  some (piecesAround base overlap topHeight bottomHeight leftWidth rightWidth)

/-- `subtract` -/
def subtract (base hole : FixedRect) : Option (List FixedRect) :=
  match intersect base hole with
  | none => some [base]
  | some overlap => subtractOverlap base overlap

/-- The points from a corner on, as far as a width and a height go. -/
def box (x y width height : Int) : Set (Int × Int) :=
  Set.Ico x (x + width) ×ˢ Set.Ico y (y + height)

theorem mem_box
    {x y width height : Int}
    {point : Int × Int} :
    point ∈ box x y width height ↔
      (x ≤ point.1 ∧ point.1 < x + width) ∧
        (y ≤ point.2 ∧ point.2 < y + height) := by
  rw [box, Set.mem_prod, Set.mem_Ico, Set.mem_Ico]

/-- A rectangle is made for a box unless the box is empty. -/
theorem tiles_new
    {x y width height : I64}
    (right : x.1 + width.1 ≤ i64Max)
    (bottom : y.1 + height.1 ≤ i64Max) :
    Tiles FixedRect.points (FixedRect.new x y width height).toList
      (box x.1 y.1 width.1 height.1) := by
  cases made : FixedRect.new x y width height with
  | none =>
      have empty : ¬ (0 < width.1 ∧ 0 < height.1) := by
        intro positive
        have some := FixedRect.new_isSome_iff.mpr
          ⟨positive.1, positive.2, right, bottom⟩
        rw [made] at some
        cases some
      refine Tiles.nil.congr fun point => ?_
      rw [mem_box]
      simp only [Set.mem_empty_iff_false, iff_false]
      omega
  | some rect =>
      obtain ⟨rfl, rfl, rfl, rfl⟩ := FixedRect.new_eq_some_iff.mp made
      refine (Tiles.single rect).congr fun point => ?_
      rw [mem_box, FixedRect.mem_points]

variable {base overlap : FixedRect}

/-- Where a rectangle lies that lies within another. -/
theorem edges_of_points_subset
    (within : overlap.points ⊆ base.points) :
    (base.x.1 ≤ overlap.x.1 ∧ base.y.1 ≤ overlap.y.1) ∧
      overlap.x.1 + overlap.width.1 ≤ base.x.1 + base.width.1 ∧
      overlap.y.1 + overlap.height.1 ≤ base.y.1 + base.height.1 := by
  have wide := overlap.widthPositive
  have high := overlap.heightPositive
  have first := within overlap.points_nonempty
  have last : (overlap.x.1 + overlap.width.1 - 1,
      overlap.y.1 + overlap.height.1 - 1) ∈ overlap.points := by
    rw [FixedRect.mem_points]
    dsimp only
    omega
  have last := within last
  rw [FixedRect.mem_points] at first last
  dsimp only at first last
  omega

/-- The four pieces around an overlap. -/
theorem subtractOverlap_tiles
    (within : overlap.points ⊆ base.points) :
    ∃ pieces, subtractOverlap base overlap = some pieces ∧
      Tiles FixedRect.points pieces (base.points \ overlap.points) := by
  obtain ⟨⟨left, top⟩, right, bottom⟩ := edges_of_points_subset within
  have baseRight := FixedRect.right_val base
  have baseBottom := FixedRect.bottom_val base
  have overlapRight := FixedRect.right_val overlap
  have overlapBottom := FixedRect.bottom_val overlap
  have wide := base.width.2.2
  have high := base.height.2.2
  have inRight := base.right.2.2
  have inBottom := base.bottom.2.2
  have widePositive := overlap.widthPositive
  have highPositive := overlap.heightPositive
  have low : i64Min ≤ 0 := by decide
  obtain ⟨topHeight, sameTop⟩ : ∃ height,
      I64.checkedSub overlap.y base.y = some height :=
    ⟨⟨_, by omega, by omega⟩, I64.checkedSub_eq_some_iff.mpr rfl⟩
  obtain ⟨bottomHeight, sameBottom⟩ : ∃ height,
      I64.checkedSub base.bottom overlap.bottom = some height :=
    ⟨⟨_, by omega, by omega⟩, I64.checkedSub_eq_some_iff.mpr rfl⟩
  obtain ⟨leftWidth, sameLeft⟩ : ∃ width,
      I64.checkedSub overlap.x base.x = some width :=
    ⟨⟨_, by omega, by omega⟩, I64.checkedSub_eq_some_iff.mpr rfl⟩
  obtain ⟨rightWidth, sameRight⟩ : ∃ width,
      I64.checkedSub base.right overlap.right = some width :=
    ⟨⟨_, by omega, by omega⟩, I64.checkedSub_eq_some_iff.mpr rfl⟩
  refine ⟨piecesAround base overlap topHeight bottomHeight leftWidth rightWidth,
    ?_, ?_⟩
  · unfold subtractOverlap
    simp only [sameTop, sameBottom, sameLeft, sameRight, Option.bind_eq_bind,
      Option.bind_some]
  · have topVal := I64.checkedSub_eq_some_iff.mp sameTop
    have bottomVal := I64.checkedSub_eq_some_iff.mp sameBottom
    have leftVal := I64.checkedSub_eq_some_iff.mp sameLeft
    have rightVal := I64.checkedSub_eq_some_iff.mp sameRight
    have above := @tiles_new base.x base.y base.width topHeight
      (by omega) (by omega)
    have below := @tiles_new base.x overlap.bottom base.width bottomHeight
      (by omega) (by omega)
    have before := @tiles_new base.x overlap.y leftWidth overlap.height
      (by omega) (by omega)
    have after := @tiles_new overlap.right overlap.y rightWidth overlap.height
      (by omega) (by omega)
    refine Tiles.congr (((above.append below ?_).append before ?_).append
      after ?_) ?_
    · rw [Set.disjoint_left]
      intro point one other
      rw [mem_box] at one other
      omega
    · rw [Set.disjoint_left]
      intro point one other
      rw [Set.mem_union, mem_box, mem_box] at one
      rw [mem_box] at other
      omega
    · rw [Set.disjoint_left]
      intro point one other
      rw [Set.mem_union, Set.mem_union, mem_box, mem_box, mem_box] at one
      rw [mem_box] at other
      omega
    · intro point
      rw [Set.mem_sdiff, FixedRect.mem_points, FixedRect.mem_points,
        Set.mem_union, Set.mem_union, Set.mem_union, mem_box, mem_box,
        mem_box, mem_box]
      omega

/-- Subtraction never overflows, and its pieces are what is left. -/
theorem subtract_tiles
    (base hole : FixedRect) :
    ∃ pieces, subtract base hole = some pieces ∧
      Tiles FixedRect.points pieces (base.points \ hole.points) := by
  unfold subtract
  cases met : intersect base hole with
  | none =>
      refine ⟨[base], rfl, (Tiles.single base).congr fun point => ?_⟩
      have apart := Set.disjoint_left.mp (disjoint_of_intersect met)
      rw [Set.mem_sdiff]
      exact and_iff_left_of_imp fun here => apart here
  | some overlap =>
      have common := points_intersect met
      obtain ⟨pieces, subtracted, tiles⟩ := subtractOverlap_tiles
        (show overlap.points ⊆ base.points from
          common ▸ Set.inter_subset_left)
      refine ⟨pieces, subtracted, tiles.congr fun point => ?_⟩
      rw [common, Set.mem_sdiff, Set.mem_sdiff, Set.mem_inter_iff]
      tauto

/-! ## Coalescing -/

/-- The key by which fragments are sorted. -/
def sortKey (rect : FixedRect) : Int ×ₗ Int ×ₗ Int ×ₗ Int :=
  toLex (rect.y.1, toLex (rect.x.1, toLex (rect.height.1, rect.width.1)))

/-- `sort_by_key` -/
def sortFragments (fragments : List FixedRect) : List FixedRect :=
  fragments.insertionSort fun left right => sortKey left ≤ sortKey right

/-- The rectangle that two neighbours make, if they make one. -/
def joined (a b : FixedRect) : Option FixedRect :=
  if a.y = b.y ∧ a.height = b.height ∧ a.right = b.x then
    (I64.checkedSub b.right a.x).bind fun width =>
      FixedRect.new a.x a.y width a.height
  else if a.x = b.x ∧ a.width = b.width ∧ a.bottom = b.y then
    (I64.checkedSub b.bottom a.y).bind fun height =>
      FixedRect.new a.x a.y a.width height
  else none

/-- The first of some rectangles that joins one before them, joined, and the
others. -/
def joinInto
    (a : FixedRect) :
    List FixedRect → Option (FixedRect × List FixedRect)
  | [] => none
  | b :: rest =>
      match joined a b with
      | some union => some (union, rest)
      | none =>
          (joinInto a rest).map fun found => (found.1, b :: found.2)

/-- One turn of the loop of `order_and_coalesce`: the first two rectangles
that join are joined. -/
def joinFirst :
    List FixedRect → Option (List FixedRect)
  | [] => none
  | a :: rest =>
      match joinInto a rest with
      | some found => some (found.1 :: found.2)
      | none => (joinFirst rest).map (a :: ·)

/-- The loop of `order_and_coalesce`, for so many turns at most. -/
def coalesceTurns :
    Nat → List FixedRect → List FixedRect
  | 0, fragments => sortFragments fragments
  | turns + 1, fragments =>
      match joinFirst (sortFragments fragments) with
      | some merged => coalesceTurns turns merged
      | none => sortFragments fragments

/-- `order_and_coalesce`: every turn but the last makes one rectangle of two,
so there are no more turns than rectangles. -/
def orderAndCoalesce (fragments : List FixedRect) : List FixedRect :=
  coalesceTurns fragments.length fragments

/-! ## Occluders -/

/-- The pieces of some fragments outside a hole. -/
def subtractEach
    (hole : FixedRect) :
    List FixedRect → Option (List FixedRect)
  | [] => some []
  | fragment :: rest => do
      let pieces ← subtract fragment hole
      let others ← subtractEach hole rest
      some (pieces ++ others)

/-- The loop of `subtract_all`.  Nothing where the source aborts; `none`
inside where there are more fragments than the cap allows. -/
def subtractHoles
    (cap : Nat) :
    List FixedRect → List FixedRect → Option (Option (List FixedRect))
  | [], fragments => some (some fragments)
  | hole :: holes, fragments => do
      let pieces ← subtractEach hole fragments
      let next := orderAndCoalesce pieces
      if cap < next.length then some none
      else if next.isEmpty then some (some next)
      else subtractHoles cap holes next

/-- `subtract_all` -/
def subtractAll
    (base : FixedRect)
    (holes : List FixedRect)
    (cap : Nat) : Option (Option (List FixedRect)) :=
  (subtractHoles cap holes [base]).map fun left =>
    left.bind fun fragments =>
      let ordered := orderAndCoalesce fragments
      if ordered.length ≤ cap then some ordered else none

/-! ## What is left -/

theorem sortFragments_perm
    (fragments : List FixedRect) : (sortFragments fragments).Perm fragments :=
  List.perm_insertionSort _ fragments

/-- Two neighbours make the rectangle of all their points. -/
theorem points_joined
    {a b union : FixedRect}
    (made : joined a b = some union) : union.points = a.points ∪ b.points := by
  have wideA := a.widthPositive
  have wideB := b.widthPositive
  have highA := a.heightPositive
  have highB := b.heightPositive
  unfold joined at made
  split at made
  · rename_i beside
    obtain ⟨y, height, edge⟩ := beside
    obtain ⟨width, difference, made⟩ := Option.bind_eq_some_iff.mp made
    have difference := I64.checkedSub_eq_some_iff.mp difference
    have edge : a.right.1 = b.x.1 := congrArg Subtype.val edge
    rw [FixedRect.right_val] at difference edge
    obtain ⟨x, top, sameWidth, sameHeight⟩ := FixedRect.new_eq_some_iff.mp made
    ext point
    rw [Set.mem_union, FixedRect.mem_points, FixedRect.mem_points,
      FixedRect.mem_points, x, top, sameWidth, sameHeight, ← y, ← height]
    omega
  · split at made
    · rename_i above
      obtain ⟨x, width, edge⟩ := above
      obtain ⟨height, difference, made⟩ := Option.bind_eq_some_iff.mp made
      have difference := I64.checkedSub_eq_some_iff.mp difference
      have edge : a.bottom.1 = b.y.1 := congrArg Subtype.val edge
      rw [FixedRect.bottom_val] at difference edge
      obtain ⟨sameX, top, sameWidth, sameHeight⟩ :=
        FixedRect.new_eq_some_iff.mp made
      ext point
      rw [Set.mem_union, FixedRect.mem_points, FixedRect.mem_points,
        FixedRect.mem_points, sameX, top, sameWidth, sameHeight, ← x, ← width]
      omega
    · cases made

variable {fragments : List FixedRect} {whole : Set (Int × Int)}

/-- By induction over the rectangles that are tried. -/
theorem exists_of_joinInto
    {a : FixedRect}
    {found : FixedRect × List FixedRect}
    (made : joinInto a fragments = some found) :
    ∃ b, fragments.Perm (b :: found.2) ∧ joined a b = some found.1 := by
  induction fragments generalizing found with
  | nil => cases made
  | cons b rest ih =>
      unfold joinInto at made
      cases union : joined a b with
      | some whole =>
          rw [union] at made
          cases made
          exact ⟨b, .refl _, union⟩
      | none =>
          rw [union] at made
          obtain ⟨later, foundLater, same⟩ := Option.map_eq_some_iff.mp made
          obtain ⟨other, listed, whole⟩ := ih foundLater
          rw [← same]
          exact ⟨other, (listed.cons b).trans (.swap other b _), whole⟩

theorem exists_of_joinFirst
    {fragments merged : List FixedRect}
    (made : joinFirst fragments = some merged) :
    ∃ a b union others, fragments.Perm (a :: b :: others) ∧
      joined a b = some union ∧ merged.Perm (union :: others) := by
  induction fragments generalizing merged with
  | nil => cases made
  | cons first rest ih =>
      unfold joinFirst at made
      cases into : joinInto first rest with
      | some found =>
          rw [into] at made
          cases made
          obtain ⟨b, listed, union⟩ := exists_of_joinInto into
          exact ⟨first, b, found.1, found.2, listed.cons first, union, .refl _⟩
      | none =>
          rw [into] at made
          obtain ⟨later, found, same⟩ := Option.map_eq_some_iff.mp made
          obtain ⟨a, b, union, others, listed, whole, left⟩ :=
            ih found
          rw [← same]
          refine ⟨a, b, union, first :: others, ?_, whole, ?_⟩
          · refine (listed.cons first).trans ((List.Perm.swap a first _).trans ?_)
            exact (List.Perm.swap b first _).cons a
          · exact (left.cons first).trans (.swap union first _)

/-- Coalescing keeps a tiling. -/
theorem coalesceTurns_tiles
    (turns : Nat)
    (tiles : Tiles FixedRect.points fragments whole) :
    Tiles FixedRect.points (coalesceTurns turns fragments) whole := by
  induction turns generalizing fragments with
  | zero => exact tiles.perm (sortFragments_perm fragments).symm
  | succ turns ih =>
      have sorted := tiles.perm (sortFragments_perm fragments).symm
      unfold coalesceTurns
      split
      · rename_i merged made
        obtain ⟨a, b, union, others, listed, both, left⟩ :=
          exists_of_joinFirst made
        exact ih (((sorted.perm listed).join
          (points_joined both)).perm left.symm)
      · exact sorted

theorem orderAndCoalesce_tiles
    (tiles : Tiles FixedRect.points fragments whole) :
    Tiles FixedRect.points (orderAndCoalesce fragments) whole :=
  coalesceTurns_tiles _ tiles

theorem subtractEach_tiles
    (hole : FixedRect)
    (tiles : Tiles FixedRect.points fragments whole) :
    ∃ pieces, subtractEach hole fragments = some pieces ∧
      Tiles FixedRect.points pieces (whole \ hole.points) := by
  induction fragments generalizing whole with
  | nil =>
      refine ⟨[], rfl, Tiles.nil.congr fun point => ?_⟩
      have nothing := tiles.covers point
      simp only [List.not_mem_nil, false_and, exists_false, iff_false]
        at nothing
      simp [nothing]
  | cons fragment rest ih =>
      obtain ⟨pieces, subtracted, first⟩ := subtract_tiles fragment hole
      obtain ⟨others, further, second⟩ := ih tiles.cons
      refine ⟨pieces ++ others, ?_, ?_⟩
      · simp only [subtractEach, subtracted, further, Option.bind_eq_bind,
          Option.bind_some]
      · refine (first.append second ?_).congr fun point => ?_
        · rw [Set.disjoint_left]
          rintro point ⟨inside, -⟩ ⟨⟨-, outside⟩, -⟩
          exact outside inside
        · have within : point ∈ fragment.points → point ∈ whole :=
            fun here => tiles.subset List.mem_cons_self here
          rw [Set.mem_union, Set.mem_sdiff, Set.mem_sdiff, Set.mem_sdiff,
            Set.mem_sdiff]
          tauto

/-- The points that some rectangles cover. -/
def covered (rects : List FixedRect) : Set (Int × Int) :=
  { point | ∃ rect ∈ rects, point ∈ rect.points }

/-- By induction over the holes. -/
theorem subtractHoles_tiles
    (cap : Nat)
    (holes : List FixedRect)
    (tiles : Tiles FixedRect.points fragments whole) :
    ∃ left, subtractHoles cap holes fragments = some left ∧
      ∀ rest, left = some rest →
        Tiles FixedRect.points rest (whole \ covered holes) := by
  induction holes generalizing fragments whole with
  | nil =>
      refine ⟨some fragments, rfl, fun rest same => ?_⟩
      cases same
      exact tiles.congr fun point => by simp [covered]
  | cons hole holes ih =>
      obtain ⟨pieces, subtracted, cut⟩ := subtractEach_tiles hole tiles
      have next := orderAndCoalesce_tiles cut
      have more : ∀ point, point ∈ whole \ covered (hole :: holes) ↔
          point ∈ (whole \ hole.points) \ covered holes := by
        intro point
        simp only [covered, Set.mem_sdiff, Set.mem_ofPred_eq, List.mem_cons,
          exists_eq_or_imp, not_or, and_assoc]
      simp only [subtractHoles, subtracted, Option.bind_eq_bind,
        Option.bind_some]
      split
      · exact ⟨none, rfl, fun _ same => nomatch same⟩
      · split
        · rename_i empty
          refine ⟨some _, rfl, fun rest same => ?_⟩
          cases same
          rw [List.isEmpty_iff.mp empty] at next ⊢
          refine Tiles.nil.congr fun point => ?_
          have nothing := next.covers point
          simp only [List.not_mem_nil, false_and, exists_false, iff_false]
            at nothing
          rw [more point, Set.mem_sdiff]
          simp [nothing]
        · obtain ⟨left, subtractedAll, further⟩ := ih next
          exact ⟨left, subtractedAll, fun rest same =>
            (further rest same).congr more⟩

/-- Subtraction of all holes never overflows, and what it leaves is the base
outside the holes. -/
theorem subtractAll_tiles
    (base : FixedRect)
    (holes : List FixedRect)
    (cap : Nat) :
    ∃ left, subtractAll base holes cap = some left ∧
      ∀ fragments, left = some fragments →
        Tiles FixedRect.points fragments (base.points \ covered holes) := by
  obtain ⟨left, subtracted, tiles⟩ :=
    subtractHoles_tiles cap holes (Tiles.single base)
  refine ⟨_, by rw [subtractAll, subtracted]; rfl, fun fragments same => ?_⟩
  obtain ⟨rest, found, ordered⟩ := Option.bind_eq_some_iff.mp same
  dsimp only at ordered
  split at ordered
  · cases ordered
    exact orderAndCoalesce_tiles (tiles rest found)
  · cases ordered

/-! ## What subtraction returns -/

/-- Fragments in the order of their keys. -/
def Ordered (fragments : List FixedRect) : Prop :=
  fragments.Pairwise fun left right => sortKey left ≤ sortKey right

theorem ordered_sortFragments
    (fragments : List FixedRect) : Ordered (sortFragments fragments) := by
  have : Std.Total fun left right : FixedRect =>
      sortKey left ≤ sortKey right :=
    ⟨fun left right => le_total (sortKey left) (sortKey right)⟩
  have : IsTrans FixedRect fun left right =>
      sortKey left ≤ sortKey right :=
    ⟨fun _ _ _ before after => before.trans after⟩
  exact List.pairwise_insertionSort _ fragments

/-- The last turn sorts. -/
theorem ordered_coalesceTurns
    (turns : Nat)
    (fragments : List FixedRect) : Ordered (coalesceTurns turns fragments) := by
  induction turns generalizing fragments with
  | zero => exact ordered_sortFragments fragments
  | succ turns ih =>
      unfold coalesceTurns
      split
      · exact ih _
      · exact ordered_sortFragments fragments

/-- Covered points do not depend on the order of the rectangles. -/
theorem covered_perm
    {one other : List FixedRect}
    (same : one.Perm other) : covered one = covered other := by
  ext point
  unfold covered
  simp only [Set.mem_ofPred_eq, same.mem_iff]

/-- Fragments that tile a set cover it. -/
theorem covered_of_tiles
    (tiles : Tiles FixedRect.points fragments whole) :
    covered fragments = whole := by
  ext point
  exact (tiles.covers point).symm

/-- `subtract_all` never overflows.  What it returns are few enough disjoint
rectangles within the base, in order, that cover the base outside the holes;
another order of the holes gives the same points. -/
theorem subtractAll_exact
    (base : FixedRect)
    (holes : List FixedRect)
    (cap : Nat) :
    ∃ result, subtractAll base holes cap = some result ∧
      ∀ fragments, result = some fragments →
        fragments.length ≤ cap ∧
        (∀ fragment ∈ fragments, fragment.points ⊆ base.points) ∧
        (fragments.Pairwise fun left right =>
          Disjoint left.points right.points) ∧
        Ordered fragments ∧
        covered fragments = base.points \ covered holes ∧
        ∀ order others, holes.Perm order →
          subtractAll base order cap = some (some others) →
            covered others = covered fragments := by
  have outside : ∀ order others,
      subtractAll base order cap = some (some others) →
        Tiles FixedRect.points others (base.points \ covered order) := by
    intro order others subtracted
    obtain ⟨left, found, tiles⟩ := subtractAll_tiles base order cap
    rw [subtracted] at found
    exact tiles others (Option.some.inj found).symm
  obtain ⟨result, subtracted, -⟩ := subtractAll_tiles base holes cap
  refine ⟨result, subtracted, ?_⟩
  rintro fragments rfl
  have tiles := outside holes fragments subtracted
  have covers := covered_of_tiles tiles
  obtain ⟨left, -, returned⟩ := Option.map_eq_some_iff.mp subtracted
  obtain ⟨rest, -, ordered⟩ := Option.bind_eq_some_iff.mp returned
  dsimp only at ordered
  split at ordered
  · rename_i few
    cases ordered
    refine ⟨few, ?_, tiles.apart, ordered_coalesceTurns _ _, covers, ?_⟩
    · intro fragment listed
      exact (tiles.subset listed).trans Set.sdiff_subset
    · intro order others same again
      rw [covered_of_tiles (outside order others again), covers,
        covered_perm same]
  · cases ordered

end Projection
end Vvmux
