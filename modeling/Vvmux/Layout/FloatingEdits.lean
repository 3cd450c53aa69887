import Vvmux.Layout.Floating

/-!
# Moving and resizing a float

A stored rectangle has passed two clamps: the edges against the area and the
minimum size, in signed arithmetic, and then the whole rectangle, size before
position. The second changes nothing that the first has left inside the area.
A pointer drag computes each rectangle from the one at the press, so only the
last pointer position counts.
-/

namespace Vvmux
namespace Layout

open Library

theorem minFloatWidth_eq : minFloatWidth = 6 := rfl

theorem minFloatHeight_eq : minFloatHeight = 4 := rfl

/-- An area in which a float of the minimum size fits, with 16-bit edges. -/
structure FloatArea (area : Rect) : Prop where
  wide : minFloatWidth ≤ area.width
  high : minFloatHeight ≤ area.height
  rightEdge : area.x + area.width ≤ u16Max
  bottomEdge : area.y + area.height ≤ u16Max

/-- A rectangle of at least the minimum size inside an area. -/
structure Rect.FloatsIn (rect area : Rect) : Prop where
  wide : minFloatWidth ≤ rect.width
  high : minFloatHeight ≤ rect.height
  left : area.x ≤ rect.x
  top : area.y ≤ rect.y
  right : rect.x + rect.width ≤ area.x + area.width
  bottom : rect.y + rect.height ≤ area.y + area.height

variable {area rect : Rect} {edges : EdgeMask}

/-- A clamp leaves a float inside the area, whatever it is given. -/
theorem floatsIn_clampRect
    (admitted : FloatArea area)
    (rect : Rect) : (clampRect rect area).FloatsIn area := by
  obtain ⟨wide, high, _, _⟩ := admitted
  rw [minFloatWidth_eq] at wide
  rw [minFloatHeight_eq] at high
  constructor <;>
    simp only [clampRect, minFloatWidth_eq, minFloatHeight_eq] <;>
    omega

/-- A clamp changes nothing inside the area. -/
theorem clampRect_eq_self
    (inside : rect.FloatsIn area) : clampRect rect area = rect := by
  obtain ⟨wide, high, left, top, right, bottom⟩ := inside
  rw [minFloatWidth_eq] at wide
  rw [minFloatHeight_eq] at high
  obtain ⟨x, y, width, height⟩ := rect
  simp only [clampRect, minFloatWidth_eq, minFloatHeight_eq, Rect.mk.injEq]
  dsimp only at *
  omega

/-- A 32-bit signed integer. -/
def FitsI32 (value : Int) : Prop := -2147483648 ≤ value ∧ value ≤ 2147483647

instance (value : Int) : Decidable (FitsI32 value) :=
  inferInstanceAs (Decidable (_ ∧ _))

/-- No sum of a selected edge and its delta overflows. -/
def EdgeSumsFit (rect : Rect) (edges : EdgeMask) (dx dy : Int) : Prop :=
  (edges.left = true → FitsI32 (rect.x + dx)) ∧
    (edges.right = true → FitsI32 (rect.x + rect.width + dx)) ∧
    (edges.top = true → FitsI32 (rect.y + dy)) ∧
    (edges.bottom = true → FitsI32 (rect.y + rect.height + dy))

instance (rect : Rect) (edges : EdgeMask) (dx dy : Int) :
    Decidable (EdgeSumsFit rect edges dx dy) :=
  inferInstanceAs (Decidable (_ ∧ _))

/-- At most one edge of each axis. -/
def EdgeMask.Simple (edges : EdgeMask) : Prop :=
  ¬ (edges.left = true ∧ edges.right = true) ∧
    ¬ (edges.top = true ∧ edges.bottom = true)

/-- Every unselected edge is where it was, and every selected one where it was
asked to be, between the border of the area and the minimum size. -/
structure EdgesMoved
    (rect result : Rect)
    (edges : EdgeMask)
    (dx dy : Int)
    (area : Rect) : Prop where
  left : (result.x : Int) =
    if edges.left then
      min (max (rect.x + dx) area.x) (rect.x + rect.width - minFloatWidth)
    else rect.x
  right : (result.x : Int) + result.width =
    if edges.right then
      max (min (rect.x + rect.width + dx) (area.x + area.width))
        (rect.x + minFloatWidth)
    else rect.x + rect.width
  top : (result.y : Int) =
    if edges.top then
      min (max (rect.y + dy) area.y) (rect.y + rect.height - minFloatHeight)
    else rect.y
  bottom : (result.y : Int) + result.height =
    if edges.bottom then
      max (min (rect.y + rect.height + dy) (area.y + area.height))
        (rect.y + minFloatHeight)
    else rect.y + rect.height

/-- The first clamp moves the selected edges only. -/
theorem edgesMoved_resizeEdges
    (admitted : FloatArea area)
    (inside : rect.FloatsIn area)
    (simple : edges.Simple)
    (dx dy : Int) :
    EdgesMoved rect (resizeEdges rect edges dx dy area) edges dx dy area := by
  obtain ⟨wide, high, rightEdge, bottomEdge⟩ := admitted
  obtain ⟨rectWide, rectHigh, left, top, right, bottom⟩ := inside
  obtain ⟨oneAcross, oneDown⟩ := simple
  rw [minFloatWidth_eq] at wide rectWide
  rw [minFloatHeight_eq] at high rectHigh
  unfold u16Max at rightEdge bottomEdge
  constructor
  · simp only [resizeEdges, minFloatWidth_eq, u16Max]
    cases edges.left <;> simp only [Bool.false_eq_true, if_false, if_true] <;>
      omega
  · cases leftIs : edges.left <;> cases rightIs : edges.right <;>
      simp only [resizeEdges, leftIs, rightIs, minFloatWidth_eq, u16Max,
        Bool.false_eq_true, if_false, if_true]
    · omega
    · omega
    · omega
    · exact absurd ⟨leftIs, rightIs⟩ oneAcross
  · simp only [resizeEdges, minFloatHeight_eq, u16Max]
    cases edges.top <;> simp only [Bool.false_eq_true, if_false, if_true] <;>
      omega
  · cases topIs : edges.top <;> cases bottomIs : edges.bottom <;>
      simp only [resizeEdges, topIs, bottomIs, minFloatHeight_eq, u16Max,
        Bool.false_eq_true, if_false, if_true]
    · omega
    · omega
    · omega
    · exact absurd ⟨topIs, bottomIs⟩ oneDown

/-- Moved edges are inside the area, at least the minimum apart. -/
theorem EdgesMoved.floatsIn
    {rect result area : Rect}
    {dx dy : Int}
    (moved : EdgesMoved rect result edges dx dy area)
    (inside : rect.FloatsIn area)
    (simple : edges.Simple) : result.FloatsIn area := by
  obtain ⟨rectWide, rectHigh, rectLeft, rectTop, rectRight, rectBottom⟩ :=
    inside
  obtain ⟨left, right, top, bottom⟩ := moved
  obtain ⟨oneAcross, oneDown⟩ := simple
  constructor
  · split_ifs at left right <;> omega
  · split_ifs at top bottom <;> omega
  · split_ifs at left right <;> omega
  · split_ifs at top bottom <;> omega
  · split_ifs at left right <;> omega
  · split_ifs at top bottom <;> omega

/-- The second clamp leaves the moved edges. -/
theorem edgesMoved_clampRect
    (admitted : FloatArea area)
    (inside : rect.FloatsIn area)
    (simple : edges.Simple)
    (dx dy : Int) :
    EdgesMoved rect (clampRect (resizeEdges rect edges dx dy area) area) edges
      dx dy area := by
  have moved := edgesMoved_resizeEdges admitted inside simple dx dy
  rw [clampRect_eq_self (moved.floatsIn inside simple)]
  exact moved

namespace FloatingLayer

/-! ## A float in its layer -/

/-- A float of a pane, the first one, between those below and above it. -/
structure Holds
    (layer : FloatingLayer)
    (pane : PaneId)
    (before : List FloatingPane)
    (float : FloatingPane)
    (behind : List FloatingPane) : Prop where
  panes : layer.panes = before ++ float :: behind
  named : float.paneId = pane
  first : ∀ other ∈ before, other.paneId ≠ pane

variable {layer : FloatingLayer} {pane : PaneId}
  {before behind : List FloatingPane} {float : FloatingPane}

theorem exists_holds
    (present : pane ∈ layer.paneIds) :
    ∃ before float behind, layer.Holds pane before float behind := by
  obtain ⟨panes, shown⟩ := layer
  unfold paneIds at present
  dsimp only at present
  induction panes with
  | nil => cases present
  | cons head rest ih =>
      by_cases here : head.paneId = pane
      · exact ⟨[], head, rest, rfl, here, fun _ member => nomatch member⟩
      · rw [List.map_cons, List.mem_cons] at present
        obtain ⟨before, float, behind, split, named, first⟩ :=
          ih (present.resolve_left fun same => here same.symm)
        dsimp only at split
        refine ⟨head :: before, float, behind, ?_, named, ?_⟩
        · dsimp only
          rw [split, List.cons_append]
        · intro other member
          rcases List.mem_cons.mp member with rfl | below
          · exact here
          · exact first other below

theorem Holds.findIdx?
    (holds : layer.Holds pane before float behind) :
    (layer.panes.findIdx? fun other => other.paneId == pane) =
        some before.length ∧
      layer.panes[before.length]? = some float := by
  rw [holds.panes]
  constructor
  · rw [List.findIdx?_eq_some_iff_getElem]
    refine ⟨by simp, by simp [holds.named], fun index below => ?_⟩
    rw [List.getElem_append_left below]
    simpa using holds.first _ (List.getElem_mem below)
  · simp

/-- The float that a lookup finds. -/
theorem Holds.get
    (holds : layer.Holds pane before float behind) :
    layer.get pane = some float := by
  unfold FloatingLayer.get
  rw [holds.panes, List.find?_eq_some_iff_append]
  refine ⟨by simp [holds.named], before, behind, rfl, fun other member => ?_⟩
  simpa using holds.first other member

/-- An update replaces the rectangle of its float by the clamped one. -/
theorem Holds.updateRect
    (holds : layer.Holds pane before float behind)
    (area : Rect)
    (apply : Rect → Rect) :
    let next := { float with rect := clampRect (apply float.rect) area }
    (layer.updateRect pane area apply).1 =
        { layer with panes := before ++ next :: behind } ∧
      (layer.updateRect pane area apply).1.Holds pane before next behind := by
  intro next
  have result : (layer.updateRect pane area apply).1 =
      { layer with panes := before ++ next :: behind } := by
    unfold FloatingLayer.updateRect
    rw [holds.findIdx?.1]
    dsimp only
    rw [holds.findIdx?.2]
    dsimp only
    rw [holds.panes, List.set_append_right _ _ (le_refl _), Nat.sub_self,
      List.set_cons_zero]
  rw [result]
  exact ⟨rfl, rfl, holds.named, holds.first⟩

theorem findIdx?_of_not_mem
    (absent : pane ∉ layer.paneIds) :
    (layer.panes.findIdx? fun other => other.paneId == pane) = none := by
  rw [List.findIdx?_eq_none_iff]
  intro other member
  simp only [beq_eq_false_iff_ne, ne_eq]
  rintro rfl
  exact absent (List.mem_map_of_mem member)

theorem updateRect_of_not_mem
    (absent : pane ∉ layer.paneIds)
    (area : Rect)
    (apply : Rect → Rect) : (layer.updateRect pane area apply).1 = layer := by
  unfold FloatingLayer.updateRect
  rw [findIdx?_of_not_mem absent]

/-- Of two updates from a captured rectangle the second one counts. -/
theorem updateRect_updateRect
    (layer : FloatingLayer)
    (pane : PaneId)
    (area first second : Rect) :
    ((layer.updateRect pane area fun _ => first).1.updateRect pane area
        fun _ => second).1 =
      (layer.updateRect pane area fun _ => second).1 := by
  by_cases present : pane ∈ layer.paneIds
  · obtain ⟨before, float, behind, holds⟩ := exists_holds present
    obtain ⟨result, again⟩ := holds.updateRect area fun _ => first
    rw [(again.updateRect area fun _ => second).1, result,
      (holds.updateRect area fun _ => second).1]
  · rw [updateRect_of_not_mem present]

/-- Of a sequence of updates from captured rectangles the last one counts. -/
theorem foldl_updateRect
    {Position : Type*}
    (layer : FloatingLayer)
    (pane : PaneId)
    (area : Rect)
    (rectAt : Position → Rect)
    (positions : List Position)
    (last : Position) :
    (positions ++ [last]).foldl
        (fun layer position =>
          (layer.updateRect pane area fun _ => rectAt position).1) layer =
      (layer.updateRect pane area fun _ => rectAt last).1 := by
  induction positions generalizing layer with
  | nil => rfl
  | cons position rest ih =>
      rw [List.cons_append, List.foldl_cons, ih, updateRect_updateRect]

/-- An update stores an edge resize with its unselected edges where they were
and its selected edges where they were asked to be, as far as the area and the
minimum size allow. -/
theorem edgesMoved_updateRect
    {area rect : Rect}
    {edges : EdgeMask}
    (admitted : FloatArea area)
    (inside : rect.FloatsIn area)
    (simple : edges.Simple)
    (found : layer.get pane = some float)
    (dx dy : Int)
    (apply : Rect → Rect)
    (applied : apply float.rect = resizeEdges rect edges dx dy area) :
    ∃ result, (layer.updateRect pane area apply).1.get pane =
        some { float with rect := result } ∧
      EdgesMoved rect result edges dx dy area := by
  have present : pane ∈ layer.paneIds := by
    rw [← get_isSome_iff, found]
    rfl
  obtain ⟨before, held, behind, holds⟩ := exists_holds present
  have same : held = float := Option.some.inj (holds.get.symm.trans found)
  subst same
  refine ⟨_, (holds.updateRect area apply).2.get, ?_⟩
  rw [applied]
  exact edgesMoved_clampRect admitted inside simple dx dy

/-- Edge resizes move the selected edges only, and pointer drags depend on the
last pointer position only. -/
theorem edge_resize_laws
    {area original : Rect}
    {edges : EdgeMask}
    (admitted : FloatArea area)
    (inside : original.FloatsIn area)
    (simple : edges.Simple) :
    (∀ (layer : FloatingLayer) pane float dx dy,
      layer.get pane = some float → EdgeSumsFit original edges dx dy →
        (float.rect = original →
          ∃ result, (layer.resizeBy pane edges dx dy area).1.get pane =
              some { float with rect := result } ∧
            EdgesMoved original result edges dx dy area) ∧
        ∃ result, (layer.resizeFrom pane original edges dx dy area).1.get
              pane = some { float with rect := result } ∧
          EdgesMoved original result edges dx dy area) ∧
      ∀ (layer : FloatingLayer) pane (positions : List (Int × Int)) last,
        (positions ++ [last]).foldl
            (fun layer (point : Int × Int) =>
              (layer.resizeFrom pane original edges point.1 point.2 area).1)
            layer =
          (layer.resizeFrom pane original edges last.1 last.2 area).1 ∧
        (positions ++ [last]).foldl
            (fun layer (point : Int × Int) =>
              (layer.moveFrom pane original point.1 point.2 area).1) layer =
          (layer.moveFrom pane original last.1 last.2 area).1 := by
  constructor
  · intro layer pane float dx dy found _
    unfold resizeBy resizeFrom
    constructor
    · rintro rfl
      exact edgesMoved_updateRect admitted inside simple found dx dy _ rfl
    · exact edgesMoved_updateRect admitted inside simple found dx dy _ rfl
  · intro layer pane positions last
    unfold resizeFrom moveFrom
    constructor
    · exact foldl_updateRect layer pane area
        (fun point : Int × Int =>
          resizeEdges original edges point.1 point.2 area) positions last
    · exact foldl_updateRect layer pane area
        (fun point : Int × Int =>
          { original with
            x := offsetCoordinate original.x point.1
            y := offsetCoordinate original.y point.2 }) positions last

theorem edge_resize_laws_corner :
    (∀ (layer : FloatingLayer) pane float dx dy,
      layer.get pane = some float →
      EdgeSumsFit ⟨10, 5, 20, 8⟩ { left := true, top := true } dx dy →
        (float.rect = ⟨10, 5, 20, 8⟩ →
          ∃ result, (layer.resizeBy pane { left := true, top := true } dx dy
                ⟨0, 0, 80, 23⟩).1.get pane =
              some { float with rect := result } ∧
            EdgesMoved ⟨10, 5, 20, 8⟩ result { left := true, top := true } dx
              dy ⟨0, 0, 80, 23⟩) ∧
        ∃ result, (layer.resizeFrom pane ⟨10, 5, 20, 8⟩
              { left := true, top := true } dx dy ⟨0, 0, 80, 23⟩).1.get
              pane = some { float with rect := result } ∧
          EdgesMoved ⟨10, 5, 20, 8⟩ result { left := true, top := true } dx dy
            ⟨0, 0, 80, 23⟩) ∧
      ∀ (layer : FloatingLayer) pane (positions : List (Int × Int)) last,
        (positions ++ [last]).foldl
            (fun layer (point : Int × Int) =>
              (layer.resizeFrom pane ⟨10, 5, 20, 8⟩
                { left := true, top := true } point.1 point.2
                ⟨0, 0, 80, 23⟩).1) layer =
          (layer.resizeFrom pane ⟨10, 5, 20, 8⟩ { left := true, top := true }
            last.1 last.2 ⟨0, 0, 80, 23⟩).1 ∧
        (positions ++ [last]).foldl
            (fun layer (point : Int × Int) =>
              (layer.moveFrom pane ⟨10, 5, 20, 8⟩ point.1 point.2
                ⟨0, 0, 80, 23⟩).1) layer =
          (layer.moveFrom pane ⟨10, 5, 20, 8⟩ last.1 last.2
            ⟨0, 0, 80, 23⟩).1 :=
  edge_resize_laws ⟨by decide, by decide, by decide, by decide⟩
    ⟨by decide, by decide, by decide, by decide, by decide, by decide⟩
    ⟨by decide, by decide⟩

end FloatingLayer

end Layout
end Vvmux
