import Vvmux.Projection.Region

/-!
# Logical nodes on the grid

`project_logical_node` puts a scene node where its pane is and leaves of it
what neither its clips nor higher panes hide.
-/

namespace Vvmux

open Library

namespace Projection

/-- `MAX_NODE_FRAGMENTS` -/
def maxNodeFragments : Nat := 8

inductive ProjectionIssue where
  | arithmetic
  | fragmentLimit
deriving DecidableEq

/-- A clip rectangle of a producer, or one that goes to the bridge. -/
structure Clip where
  x : I64
  y : I64
  width : I64
  height : I64
deriving DecidableEq

/-- The parts of `SceneNode` that its projection reads. -/
structure LogicalNode where
  producer : Nat
  nodeId : Nat
  sourceId : Nat
  x : I64
  y : I64
  width : I64
  height : I64
  zIndex : Int
  visible : Bool
  clip : Option Clip
deriving DecidableEq

structure BridgeNode where
  producer : Nat
  node : Nat
  fragment : Nat
  source : Nat × Nat
  x : I64
  y : I64
  width : I64
  height : I64
  zIndex : Int
  visible : Bool
  clip : Clip
deriving DecidableEq

structure ProjectedFragment where
  clip : FixedRect
  node : BridgeNode
deriving DecidableEq

/-- `ProjectedLogicalNode` -/
abbrev Fragments := List ProjectedFragment

section

variable (node : LogicalNode)

/-- The node as it is sent, with the clip of the whole node. -/
def bridgeNode
    (x y : I64)
    (clip : FixedRect) : BridgeNode where
  producer := node.producer
  node := node.nodeId
  fragment := 0
  source := (node.producer, node.sourceId)
  x := x
  y := y
  width := node.width
  height := node.height
  zIndex := node.zIndex
  visible := true
  clip :=
    { x := clip.x
      y := clip.y
      width := clip.width
      height := clip.height }

/-- The end of `project_logical_node`: higher panes are cut out. -/
def cutOut
    (x y : I64)
    (clip : FixedRect)
    (occluders : List FixedRect) : Option (Except ProjectionIssue Fragments) :=
  (subtractAll clip occluders maxNodeFragments).map fun left =>
    match left with
    | none => .error .fragmentLimit
    | some fragments =>
        .ok (fragments.map fun fragment =>
          { clip := fragment
            node := bridgeNode node x y clip })

/-- The middle of `project_logical_node`: the clip of the producer moves with
the node.  Nothing inside if it hides all; nothing where the source returns the
arithmetic issue. -/
def clipDownstream
    (offsetX offsetY : I64)
    (clip : FixedRect) : Option (Option FixedRect) :=
  match node.clip with
  | none => some (some clip)
  | some downstream => do
      let x ← I64.checkedAdd downstream.x offsetX
      let y ← I64.checkedAdd downstream.y offsetY
      let moved ← FixedRect.new x y downstream.width downstream.height
      some (intersect clip moved)

/-- The start of `project_logical_node`: where the node is, and the clip by
its bounds, the pane, the tab and the producer.  Nothing inside if these hide
all; nothing where the source returns the arithmetic issue. -/
def place
    (pane area : Layout.Rect) :
    Option (I64 × I64 × Option FixedRect) := do
  let offsetX ← I64.check (pane.x * fixedOne)
  let offsetY ← I64.check (pane.y * fixedOne)
  let x ← I64.checkedAdd node.x offsetX
  let y ← I64.checkedAdd node.y offsetY
  let bounds ← FixedRect.new x y node.width node.height
  let content ← fromCells pane
  match intersect bounds content with
  | none => some (x, y, none)
  | some inPane => do
      let tab ← fromCells area
      match intersect inPane tab with
      | none => some (x, y, none)
      | some inTab => do
          let clip ← clipDownstream node offsetX offsetY inTab
          some (x, y, clip)

/-- `project_logical_node`.  Nothing where a plain operation overflows. -/
def projectLogicalNode
    (pane area : Layout.Rect)
    (occluders : List FixedRect) : Option (Except ProjectionIssue Fragments) :=
  if !node.visible then some (.ok [])
  else
    match place node pane area with
    | none => some (.error .arithmetic)
    | some (_, _, none) => some (.ok [])
    | some (x, y, some clip) => cutOut node x y clip occluders

/-! ## What may be shown -/

/-- The points of a cell rectangle. -/
def cellBox (rect : Layout.Rect) : Set (Int × Int) :=
  box (rect.x * fixedOne) (rect.y * fixedOne) (rect.width * fixedOne)
    (rect.height * fixedOne)

/-- The points of a node that its pane, the tab and its own clip let
through. -/
def unclipped
    (pane area : Layout.Rect) : Set (Int × Int) :=
  { point |
    point ∈ box (node.x.1 + pane.x * fixedOne) (node.y.1 + pane.y * fixedOne)
      node.width.1 node.height.1 ∧
    point ∈ cellBox pane ∧ point ∈ cellBox area ∧
    ∀ clip ∈ node.clip,
      point ∈ box (clip.x.1 + pane.x * fixedOne) (clip.y.1 + pane.y * fixedOne)
        clip.width.1 clip.height.1 }

end

/-- The translated bounds of a node are a rectangle. -/
def Representable (node : LogicalNode) (pane : Layout.Rect) : Prop :=
  (i64Min ≤ node.x.1 + pane.x * fixedOne ∧
      node.x.1 + pane.x * fixedOne ≤ i64Max) ∧
    (i64Min ≤ node.y.1 + pane.y * fixedOne ∧
      node.y.1 + pane.y * fixedOne ≤ i64Max) ∧
    (0 < node.width.1 ∧ 0 < node.height.1) ∧
    node.x.1 + pane.x * fixedOne + node.width.1 ≤ i64Max ∧
    node.y.1 + pane.y * fixedOne + node.height.1 ≤ i64Max

theorem points_fromCells
    {rect : Layout.Rect}
    {fixed : FixedRect}
    (made : fromCells rect = some fixed) : fixed.points = cellBox rect := by
  unfold fromCells at made
  obtain ⟨x, sameX, made⟩ := Option.bind_eq_some_iff.mp made
  obtain ⟨y, sameY, made⟩ := Option.bind_eq_some_iff.mp made
  obtain ⟨width, sameWidth, made⟩ := Option.bind_eq_some_iff.mp made
  obtain ⟨height, sameHeight, made⟩ := Option.bind_eq_some_iff.mp made
  obtain ⟨atX, atY, wide, high⟩ := FixedRect.new_eq_some_iff.mp made
  ext point
  rw [FixedRect.mem_points, cellBox, mem_box, atX, atY, wide, high,
    I64.check_eq_some_iff.mp sameX, I64.check_eq_some_iff.mp sameY,
    I64.check_eq_some_iff.mp sameWidth, I64.check_eq_some_iff.mp sameHeight]

theorem points_new
    {x y width height : I64}
    {rect : FixedRect}
    (made : FixedRect.new x y width height = some rect) :
    rect.points = box x.1 y.1 width.1 height.1 := by
  obtain ⟨atX, atY, wide, high⟩ := FixedRect.new_eq_some_iff.mp made
  ext point
  rw [FixedRect.mem_points, mem_box, atX, atY, wide, high]

/-- The points of a rectangle, if there is one. -/
def pointsOf (rect : Option FixedRect) : Set (Int × Int) :=
  { point | ∃ found ∈ rect, point ∈ found.points }

theorem pointsOf_intersect
    (left right : FixedRect) :
    pointsOf (intersect left right) = left.points ∩ right.points := by
  ext point
  cases met : intersect left right with
  | none =>
      have apart := Set.disjoint_left.mp (disjoint_of_intersect met)
      constructor
      · rintro ⟨rect, here, -⟩
        cases here
      · rintro ⟨inLeft, inRight⟩
        exact absurd inRight (apart inLeft)
  | some overlap =>
      rw [← points_intersect met]
      constructor
      · rintro ⟨rect, here, inside⟩
        cases here
        exact inside
      · intro inside
        exact ⟨overlap, rfl, inside⟩

variable {node : LogicalNode} {pane area : Layout.Rect} {x y : I64}

variable {clip : FixedRect}

theorem clipDownstream_points
    {offsetX offsetY : I64}
    {rest : Option FixedRect}
    (clipped : clipDownstream node offsetX offsetY clip = some rest) :
    pointsOf rest = { point | point ∈ clip.points ∧
      ∀ downstream ∈ node.clip,
        point ∈ box (downstream.x.1 + offsetX.1) (downstream.y.1 + offsetY.1)
          downstream.width.1 downstream.height.1 } := by
  unfold clipDownstream at clipped
  split at clipped
  · rename_i unclipped
    cases clipped
    ext point
    simp [pointsOf, unclipped]
  · rename_i downstream present
    obtain ⟨x, sameX, clipped⟩ := Option.bind_eq_some_iff.mp clipped
    obtain ⟨y, sameY, clipped⟩ := Option.bind_eq_some_iff.mp clipped
    obtain ⟨moved, made, clipped⟩ := Option.bind_eq_some_iff.mp clipped
    injection clipped with clipped
    have x := I64.checkedAdd_eq_some_iff.mp sameX
    have y := I64.checkedAdd_eq_some_iff.mp sameY
    rw [← clipped, pointsOf_intersect,
      points_new made, x, y]
    ext point
    simp [present]

/-- Where a node is placed, and what of it may be shown there. -/
theorem place_points
    {clip : Option FixedRect}
    (placed : place node pane area = some (x, y, clip)) :
    Representable node pane ∧
      x.1 = node.x.1 + pane.x * fixedOne ∧
      y.1 = node.y.1 + pane.y * fixedOne ∧
      pointsOf clip = unclipped node pane area := by
  unfold place at placed
  obtain ⟨offsetX, sameX, placed⟩ := Option.bind_eq_some_iff.mp placed
  obtain ⟨offsetY, sameY, placed⟩ := Option.bind_eq_some_iff.mp placed
  obtain ⟨atX, addedX, placed⟩ := Option.bind_eq_some_iff.mp placed
  obtain ⟨atY, addedY, placed⟩ := Option.bind_eq_some_iff.mp placed
  obtain ⟨bounds, made, placed⟩ := Option.bind_eq_some_iff.mp placed
  obtain ⟨content, cells, placed⟩ := Option.bind_eq_some_iff.mp placed
  have sameX := I64.check_eq_some_iff.mp sameX
  have sameY := I64.check_eq_some_iff.mp sameY
  have addedX := I64.checkedAdd_eq_some_iff.mp addedX
  have addedY := I64.checkedAdd_eq_some_iff.mp addedY
  have cells := points_fromCells cells
  rw [sameX] at addedX
  rw [sameY] at addedY
  have inBounds := points_new made
  rw [addedX, addedY] at inBounds
  have representable : Representable node pane := by
    have fits := FixedRect.new_isSome_iff.mp (Option.isSome_iff_exists.mpr
      ⟨bounds, made⟩)
    have insideX := atX.2
    have insideY := atY.2
    rw [addedX] at insideX fits
    rw [addedY] at insideY fits
    exact ⟨insideX, insideY, ⟨fits.1, fits.2.1⟩, fits.2.2⟩
  have inPane := pointsOf_intersect bounds content
  rw [inBounds, cells] at inPane
  refine ⟨representable, ?_⟩
  split at placed
  · rename_i missed
    cases placed
    refine ⟨addedX, addedY, ?_⟩
    rw [missed] at inPane
    ext point
    have nothing : point ∉ pointsOf none := fun ⟨_, here, _⟩ => nomatch here
    refine iff_of_false nothing fun inside => nothing ?_
    rw [inPane]
    exact ⟨inside.1, inside.2.1⟩
  · rename_i paneClip met
    obtain ⟨tab, tabCells, placed⟩ := Option.bind_eq_some_iff.mp placed
    have tabCells := points_fromCells tabCells
    have inTab := pointsOf_intersect paneClip tab
    have overlap := points_intersect met
    rw [inBounds, cells] at overlap
    rw [overlap, tabCells] at inTab
    split at placed
    · rename_i missed
      cases placed
      refine ⟨addedX, addedY, ?_⟩
      rw [missed] at inTab
      ext point
      have nothing : point ∉ pointsOf none := fun ⟨_, here, _⟩ => nomatch here
      refine iff_of_false nothing fun inside => nothing ?_
      rw [inTab]
      exact ⟨⟨inside.1, inside.2.1⟩, inside.2.2.1⟩
    · rename_i tabClip metTab
      obtain ⟨rest, clipped, placed⟩ := Option.bind_eq_some_iff.mp placed
      have shown := clipDownstream_points clipped
      cases placed
      refine ⟨addedX, addedY, ?_⟩
      have overlapTab := points_intersect metTab
      rw [overlap, tabCells] at overlapTab
      rw [shown, overlapTab, sameX, sameY]
      ext point
      simp only [unclipped, Set.mem_ofPred_eq, Set.mem_inter_iff, and_assoc]

/-! ## Fragments -/

/-- The fragments show a node exactly where it is not hidden. -/
structure Shows
    (node : LogicalNode)
    (pane area : Layout.Rect)
    (occluders : List FixedRect)
    (fragments : Fragments) : Prop where
  apart : fragments.Pairwise fun left right =>
    Disjoint left.clip.points right.clip.points
  unoccluded : ∀ fragment ∈ fragments, ∀ occluder ∈ occluders,
    Disjoint fragment.clip.points occluder.points
  exact : ∀ point : Int × Int,
    (∃ fragment ∈ fragments, point ∈ fragment.clip.points) ↔
      node.visible = true ∧ point ∈ unclipped node pane area ∧
        ∀ occluder ∈ occluders, point ∉ occluder.points
  translated : ∀ fragment ∈ fragments,
    fragment.node.x.1 = node.x.1 + pane.x * fixedOne ∧
      fragment.node.y.1 = node.y.1 + pane.y * fixedOne ∧
      fragment.node.width = node.width ∧ fragment.node.height = node.height

variable {occluders : List FixedRect}

/-- Nothing is shown where nothing may be. -/
theorem shows_nil
    (hidden : ∀ point, node.visible = true →
      point ∉ unclipped node pane area) :
    Shows node pane area occluders [] where
  apart := List.Pairwise.nil
  unoccluded := fun _ here => nomatch here
  exact := fun point => iff_of_false (fun ⟨_, here, _⟩ => nomatch here)
    fun inside => hidden point inside.1 inside.2.1
  translated := fun _ here => nomatch here

/-- The fragments of a clip outside the occluders. -/
theorem shows_cutOut
    {result : Except ProjectionIssue Fragments}
    {fragments : Fragments}
    (placed : place node pane area = some (x, y, some clip))
    (visible : node.visible = true)
    (cut : cutOut node x y clip occluders = some result)
    (projected : result = .ok fragments) :
    Shows node pane area occluders fragments := by
  obtain ⟨-, atX, atY, inside⟩ := place_points placed
  obtain ⟨left, subtracted, tiles⟩ :=
    subtractAll_tiles clip occluders maxNodeFragments
  rw [projected] at cut
  unfold cutOut at cut
  rw [subtracted] at cut
  simp only [Option.map_some, Option.some.injEq] at cut
  split at cut
  · cases cut
  · rename_i rects
    have tiles := tiles rects rfl
    injection cut with cut
    have whole : ∀ point, point ∈ clip.points ↔
        point ∈ unclipped node pane area := by
      intro point
      rw [← inside]
      constructor
      · exact fun here => ⟨clip, rfl, here⟩
      · rintro ⟨found, same, here⟩
        cases same
        exact here
    have listed : ∀ fragment ∈ fragments, fragment.clip ∈ rects ∧
        fragment.node = bridgeNode node x y clip := by
      intro fragment here
      rw [← cut] at here
      obtain ⟨rect, there, same⟩ := List.mem_map.mp here
      rw [← same]
      exact ⟨there, rfl⟩
    exact
      { apart := by
          rw [← cut, List.pairwise_map]
          exact tiles.apart
        unoccluded := by
          intro fragment here occluder present
          rw [Set.disjoint_left]
          intro point shown hidden
          have outside := tiles.subset (listed fragment here).1 shown
          exact outside.2 ⟨occluder, present, hidden⟩
        exact := by
          intro point
          rw [← whole point, ← cut]
          have split : (∃ rect ∈ rects, point ∈ rect.points) ↔
              point ∈ clip.points ∧
                ∀ occluder ∈ occluders, point ∉ occluder.points := by
            refine (tiles.covers point).symm.trans ?_
            simp only [covered, Set.mem_sdiff, Set.mem_ofPred_eq, not_exists,
              not_and]
          simp only [List.mem_map, exists_exists_and_eq_and, visible, true_and]
          exact split
        translated := by
          intro fragment here
          rw [(listed fragment here).2]
          exact ⟨atX, atY, rfl, rfl⟩ }

/-- Whatever the geometry, no plain operation overflows, the fragments show
the node exactly where it is not hidden, and a visible node whose translated
bounds cannot be represented is an arithmetic issue. -/
theorem projectLogicalNode_exact
    (node : LogicalNode)
    (pane area : Layout.Rect)
    (occluders : List FixedRect) :
    ∃ result, projectLogicalNode node pane area occluders = some result ∧
      (∀ fragments, result = .ok fragments →
        Shows node pane area occluders fragments) ∧
      (node.visible = true → ¬ Representable node pane →
        result = .error .arithmetic) := by
  unfold projectLogicalNode
  split
  · rename_i hidden
    have invisible : node.visible = false := by simpa using hidden
    refine ⟨.ok [], rfl, fun fragments same => ?_, fun visible => ?_⟩
    · cases same
      exact shows_nil fun point visible => by
        rw [invisible] at visible
        cases visible
    · rw [invisible] at visible
      cases visible
  · rename_i shown
    have visible : node.visible = true := by simpa using shown
    split
    · exact ⟨.error .arithmetic, rfl, fun _ same => (nomatch same),
        fun _ _ => rfl⟩
    · rename_i x y placed
      obtain ⟨representable, -, -, inside⟩ := place_points placed
      refine ⟨.ok [], rfl, fun fragments same => ?_, fun _ unfit =>
        absurd representable unfit⟩
      cases same
      refine shows_nil fun point _ here => ?_
      rw [← inside] at here
      obtain ⟨_, nothing, _⟩ := here
      cases nothing
    · rename_i x y clip placed
      obtain ⟨left, subtracted, -⟩ :=
        subtractAll_tiles clip occluders maxNodeFragments
      obtain ⟨result, cut⟩ : ∃ result,
          cutOut node x y clip occluders = some result :=
        ⟨_, by rw [cutOut, subtracted]; rfl⟩
      exact ⟨result, cut, fun fragments same =>
        shows_cutOut placed visible cut same,
        fun _ unfit => absurd (place_points placed).1 unfit⟩

/-- A node of three cells. -/
def threeCells :
    LogicalNode where
  producer := 1
  nodeId := 1
  sourceId := 1
  x := ⟨0, by decide⟩
  y := ⟨0, by decide⟩
  width := ⟨3 * fixedOne, by decide⟩
  height := ⟨fixedOne, by decide⟩
  zIndex := 0
  visible := true
  clip := none

/-- The cell in the middle is hidden by a higher pane. -/
theorem projectLogicalNode_exact_split :
    ∃ occluder fragments,
      fromCells ⟨2, 0, 1, 1⟩ = some occluder ∧
      projectLogicalNode threeCells ⟨1, 0, 3, 1⟩ ⟨0, 0, 9, 9⟩ [occluder] =
        some (.ok fragments) ∧
      fragments.length = 2 ∧
      Shows threeCells ⟨1, 0, 3, 1⟩ ⟨0, 0, 9, 9⟩ [occluder] fragments := by
  have seen : (fromCells ⟨2, 0, 1, 1⟩).bind (fun occluder =>
      (projectLogicalNode threeCells ⟨1, 0, 3, 1⟩ ⟨0, 0, 9, 9⟩ [occluder]).bind
        fun result => result.toOption.map List.length) = some 2 := by
    decide +kernel
  obtain ⟨occluder, made, seen⟩ := Option.bind_eq_some_iff.mp seen
  obtain ⟨result, projected, seen⟩ := Option.bind_eq_some_iff.mp seen
  obtain ⟨fragments, fine, two⟩ := Option.map_eq_some_iff.mp seen
  obtain ⟨other, same, shows, -⟩ := projectLogicalNode_exact threeCells
    ⟨1, 0, 3, 1⟩ ⟨0, 0, 9, 9⟩ [occluder]
  cases result with
  | error issue => cases fine
  | ok listed =>
      cases fine
      rw [projected] at same
      injection same with same
      exact ⟨occluder, fragments, made, projected, two,
        shows fragments same.symm⟩

end Projection
end Vvmux
