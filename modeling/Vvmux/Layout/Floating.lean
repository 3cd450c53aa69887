import Vvmux.Layout.Rect
import Mathlib.Data.List.Perm.Basic

/-!
# The floating layer

Floats of one tab, bottom to top, with every ordinary float before every pinned
one. Hiding the layer hides the ordinary class only.
-/

namespace Vvmux
namespace Layout

open Library

def minFloatWidth : Nat := minContentColumns + frameColumns
def minFloatHeight : Nat := minContentRows + frameRows

/-- Frame edges selected by a resize; corners set two of them. -/
structure EdgeMask where
  left : Bool := false
  right : Bool := false
  top : Bool := false
  bottom : Bool := false
  deriving DecidableEq, Repr

structure FloatingPane where
  paneId : PaneId
  rect : Rect
  pinned : Bool
  deriving DecidableEq, Repr

structure FloatingLayer where
  panes : List FloatingPane := []
  ordinaryVisible : Bool := true
  deriving DecidableEq, Repr

def offsetCoordinate (value : Nat) (delta : Int) : Nat :=
  (max 0 (min (value + delta) u16Max)).toNat

/-- Clamp width and height first, then x and y. -/
def clampRect (rect area : Rect) : Rect :=
  let minWidth := max (min minFloatWidth area.width) 1
  let minHeight := max (min minFloatHeight area.height) 1
  let width := max minWidth (min rect.width (max area.width minWidth))
  let height := max minHeight (min rect.height (max area.height minHeight))
  let maxX := max (area.x + area.width - width) area.x
  let maxY := max (area.y + area.height - height) area.y
  { x := max area.x (min rect.x maxX)
    y := max area.y (min rect.y maxY)
    width, height }

/-- Centered default placement at rounded percentages of the area. -/
def defaultRect (area : Rect) (widthPercent heightPercent : Nat) : Rect :=
  let width := (area.width * widthPercent + 50) / 100 % (u16Max + 1)
  let height := (area.height * heightPercent + 50) / 100 % (u16Max + 1)
  clampRect
    { x := saturatingAdd u16Max area.x ((area.width - width) / 2)
      y := saturatingAdd u16Max area.y ((area.height - height) / 2)
      width, height } area

/-- Apply a delta to the selected edges, keeping the minimum size against the
dragged edge. The results are cut to 16 bits. -/
def resizeEdges
    (rect : Rect)
    (edges : EdgeMask)
    (dx dy : Int)
    (area : Rect) : Rect :=
  let minWidth : Int := (max (min minFloatWidth area.width) 1 : Nat)
  let minHeight : Int := (max (min minFloatHeight area.height) 1 : Nat)
  let areaRight : Int := area.x + area.width
  let areaBottom : Int := area.y + area.height
  let left : Int := rect.x
  let top : Int := rect.y
  let right := left + rect.width
  let bottom := top + rect.height
  let left :=
    if edges.left then min (max (left + dx) area.x) (right - minWidth) else left
  let right :=
    if edges.right then max (min (right + dx) areaRight) (left + minWidth)
    else right
  let top :=
    if edges.top then min (max (top + dy) area.y) (bottom - minHeight) else top
  let bottom :=
    if edges.bottom then max (min (bottom + dy) areaBottom) (top + minHeight)
    else bottom
  { x := (max left 0).toNat % (u16Max + 1)
    y := (max top 0).toNat % (u16Max + 1)
    width := (max (right - left) 1).toNat % (u16Max + 1)
    height := (max (bottom - top) 1).toNat % (u16Max + 1) }

namespace FloatingLayer

def isEmpty (layer : FloatingLayer) : Bool := layer.panes.isEmpty

def paneIds (layer : FloatingLayer) : List PaneId :=
  layer.panes.map FloatingPane.paneId

def contains (layer : FloatingLayer) (pane : PaneId) : Bool :=
  layer.panes.any fun float => float.paneId == pane

def get (layer : FloatingLayer) (pane : PaneId) : Option FloatingPane :=
  layer.panes.find? fun float => float.paneId == pane

/-- The ordinary class only while it is shown, the pinned class always. -/
def visible (layer : FloatingLayer) : List FloatingPane :=
  layer.panes.filter fun float => float.pinned || layer.ordinaryVisible

/-- Topmost visible float. -/
def focusCandidate (layer : FloatingLayer) : Option PaneId :=
  layer.visible.getLast?.map FloatingPane.paneId

def firstPinnedIndex (panes : List FloatingPane) : Nat :=
  panes.findIdx FloatingPane.pinned

/-- Add an ordinary float at the top of its class and show the class. -/
def insert
    (layer : FloatingLayer)
    (paneId : PaneId)
    (area : Rect)
    (widthPercent heightPercent : Nat) : FloatingLayer :=
  { panes := layer.panes.insertIdx (firstPinnedIndex layer.panes)
      ⟨paneId, defaultRect area widthPercent heightPercent, false⟩
    ordinaryVisible := true }

def remove (layer : FloatingLayer) (pane : PaneId) : FloatingLayer × Bool :=
  let kept := layer.panes.filter fun float => float.paneId != pane
  ({ layer with panes := kept }, kept.length != layer.panes.length)

/-- Move a float to the top of the class given by its pin, after rewriting
it. -/
def lift
    (layer : FloatingLayer)
    (pane : PaneId)
    (rewrite : FloatingPane → FloatingPane) : FloatingLayer :=
  match layer.panes.findIdx? fun float => float.paneId == pane with
  | none => layer
  | some index =>
      match layer.panes[index]? with
      | none => layer
      | some found =>
          let float := rewrite found
          let rest := layer.panes.eraseIdx index
          let position :=
            if float.pinned then rest.length else firstPinnedIndex rest
          { layer with panes := rest.insertIdx position float }

/-- Raise a float to the top of its own class only. -/
def raise (layer : FloatingLayer) (pane : PaneId) : FloatingLayer :=
  layer.lift pane id

section

variable (layer : FloatingLayer) (pane : PaneId)

/-- Pinning moves to the top of the pinned class, unpinning to the top of the
ordinary class. -/
def setPinned
    (pinned : Bool) : FloatingLayer :=
  layer.lift pane fun float => { float with pinned }

/-- Rewrite the rectangle of the first float of a pane; reports a change. -/
def updateRect
    (area : Rect)
    (apply : Rect → Rect) : FloatingLayer × Bool :=
  match layer.panes.findIdx? fun float => float.paneId == pane with
  | none => (layer, false)
  | some index =>
      match layer.panes[index]? with
      | none => (layer, false)
      | some float =>
          let next := clampRect (apply float.rect) area
          ({ layer with panes := layer.panes.set index { float with rect := next } },
            next != float.rect)

def moveBy
    (dx dy : Int)
    (area : Rect) : FloatingLayer × Bool :=
  layer.updateRect pane area fun rect =>
    { rect with x := offsetCoordinate rect.x dx, y := offsetCoordinate rect.y dy }

/-- A pointer move from its captured press rectangle. -/
def moveFrom
    (original : Rect)
    (dx dy : Int)
    (area : Rect) : FloatingLayer × Bool :=
  layer.updateRect pane area fun _ =>
    { original with
      x := offsetCoordinate original.x dx
      y := offsetCoordinate original.y dy }

def resizeBy
    (edges : EdgeMask)
    (dx dy : Int)
    (area : Rect) : FloatingLayer × Bool :=
  layer.updateRect pane area fun rect => resizeEdges rect edges dx dy area

/-- A pointer edge resize from its captured press rectangle. -/
def resizeFrom
    (original : Rect)
    (edges : EdgeMask)
    (dx dy : Int)
    (area : Rect) : FloatingLayer × Bool :=
  layer.updateRect pane area fun _ => resizeEdges original edges dx dy area

def setRect
    (rect area : Rect) : FloatingLayer × Bool :=
  layer.updateRect pane area fun _ => rect

end

def clampAll (layer : FloatingLayer) (area : Rect) : FloatingLayer :=
  { layer with panes := layer.panes.map fun float =>
      { float with rect := clampRect float.rect area } }

/-! ## Panes, classes and visibility under the operations -/

/-- Identifier and class of each float, bottom to top. -/
def classes (layer : FloatingLayer) : List (PaneId × Bool) :=
  layer.panes.map fun float => (float.paneId, float.pinned)

theorem paneIds_eq_classes (layer : FloatingLayer) :
    layer.paneIds = layer.classes.map Prod.fst := by
  simp [paneIds, classes, Function.comp_def]

@[simp] theorem contains_iff (layer : FloatingLayer) (pane : PaneId) :
    layer.contains pane = true ↔ pane ∈ layer.paneIds := by
  simp [contains, paneIds]

theorem isEmpty_iff (layer : FloatingLayer) :
    layer.isEmpty = true ↔ layer.paneIds = [] := by
  simp [isEmpty, paneIds]

theorem get_isSome_iff (layer : FloatingLayer) (pane : PaneId) :
    (layer.get pane).isSome ↔ pane ∈ layer.paneIds := by
  simp [get, paneIds]

variable (layer : FloatingLayer)

/-- The floats are hidden or shown by class alone. -/
theorem mem_visible_iff
    (float : FloatingPane) :
    float ∈ layer.visible ↔
      float ∈ layer.panes ∧
        (float.pinned = true ∨ layer.ordinaryVisible = true) := by
  simp [visible]

/-- Nothing is visible exactly when every float belongs to the hidden class. -/
theorem visible_eq_nil_iff (layer : FloatingLayer) :
    layer.visible = [] ↔
      ∀ entry ∈ layer.classes,
        ¬(entry.2 = true ∨ layer.ordinaryVisible = true) := by
  simp only [visible, List.filter_eq_nil_iff, classes, List.mem_map,
    Bool.or_eq_true]
  constructor
  · rintro hidden _ ⟨float, present, rfl⟩
    exact hidden float present
  · intro hidden float present
    exact hidden _ ⟨float, present, rfl⟩

/-- The focus candidate is a visible float. -/
theorem focusCandidate_mem
    {layer : FloatingLayer}
    {pane : PaneId}
    (found : layer.focusCandidate = some pane) : pane ∈ layer.paneIds := by
  obtain ⟨float, last, rfl⟩ := Option.map_eq_some_iff.mp found
  have shown := List.mem_of_getLast? last
  exact List.mem_map_of_mem ((mem_visible_iff layer float).mp shown).1

/-- A focus candidate exists as soon as one float is visible. -/
theorem focusCandidate_eq_none_iff (layer : FloatingLayer) :
    layer.focusCandidate = none ↔ layer.visible = [] := by
  simp [focusCandidate]

theorem perm_paneIds_insert
    (paneId : PaneId)
    (area : Rect)
    (widthPercent heightPercent : Nat) :
    (layer.insert paneId area widthPercent heightPercent).paneIds.Perm
      (paneId :: layer.paneIds) := by
  have within : firstPinnedIndex layer.panes ≤ layer.panes.length :=
    List.findIdx_le_length
  exact (List.perm_insertIdx _ layer.panes within).map FloatingPane.paneId

theorem paneIds_remove (layer : FloatingLayer) (pane : PaneId) :
    (layer.remove pane).1.paneIds =
      layer.paneIds.filter fun id => id ≠ pane := by
  simp only [remove, paneIds, List.filter_map]
  congr 1
  refine List.filter_congr fun float _ => ?_
  by_cases same : float.paneId = pane <;> simp [same]

theorem classes_remove (layer : FloatingLayer) (pane : PaneId) :
    (layer.remove pane).1.classes =
      layer.classes.filter fun entry => entry.1 ≠ pane := by
  simp only [remove, classes, List.filter_map]
  congr 1
  refine List.filter_congr fun float _ => ?_
  by_cases same : float.paneId = pane <;> simp [same]

/-- Removal reports whether the pane was a float. -/
theorem remove_reports (layer : FloatingLayer) (pane : PaneId) :
    (layer.remove pane).2 = true ↔ pane ∈ layer.paneIds := by
  have absent : (layer.panes.filter fun float =>
      float.paneId != pane).length = layer.panes.length ↔
        pane ∉ layer.paneIds := by
    rw [List.length_filter_eq_length_iff]
    simp [paneIds, bne]
  simp only [remove, bne_iff_ne, ne_eq, absent, not_not]

/-- Lifting permutes the layer after rewriting the lifted float. -/
theorem perm_lift
    (pane : PaneId)
    (rewrite : FloatingPane → FloatingPane) :
    (layer.lift pane rewrite = layer) ∨
      ∃ index found,
        layer.panes[index]? = some found ∧ found.paneId = pane ∧
          (layer.lift pane rewrite).ordinaryVisible = layer.ordinaryVisible ∧
          (layer.lift pane rewrite).panes.Perm
            (layer.panes.set index (rewrite found)) := by
  unfold lift
  cases position : layer.panes.findIdx? fun float => float.paneId == pane with
  | none => exact .inl rfl
  | some index =>
      obtain ⟨within, named, _⟩ := List.findIdx?_eq_some_iff_getElem.mp position
      have found := List.getElem?_eq_getElem within
      right
      refine ⟨index, layer.panes[index], found, by simpa using named, ?_⟩
      simp only [found]
      refine ⟨trivial, ?_⟩
      have rewritten : (layer.panes.set index (rewrite layer.panes[index])).Perm
          (rewrite layer.panes[index] :: layer.panes.eraseIdx index) :=
        List.set_perm_cons_eraseIdx within _
      refine (List.perm_insertIdx _ _ ?_).trans rewritten.symm
      split_ifs
      · exact le_refl _
      · exact List.findIdx_le_length

/-- Raising reorders the layer and changes nothing else. -/
theorem perm_classes_raise (layer : FloatingLayer) (pane : PaneId) :
    (layer.raise pane).classes.Perm layer.classes ∧
      (layer.raise pane).ordinaryVisible = layer.ordinaryVisible := by
  unfold raise
  rcases layer.perm_lift pane id with same | ⟨index, found, stored, _, shown, moved⟩
  · rw [same]
    exact ⟨List.Perm.refl _, rfl⟩
  · refine ⟨?_, shown⟩
    obtain ⟨within, rfl⟩ := List.getElem?_eq_some_iff.mp stored
    rw [id, List.set_getElem_self] at moved
    exact moved.map _

/-- Pinning keeps the panes of the layer and its visibility flag. -/
theorem perm_paneIds_setPinned
    (pane : PaneId)
    (pinned : Bool) :
    (layer.setPinned pane pinned).paneIds.Perm layer.paneIds ∧
      (layer.setPinned pane pinned).ordinaryVisible =
        layer.ordinaryVisible := by
  unfold setPinned
  rcases layer.perm_lift pane (fun float => { float with pinned }) with
    same | ⟨index, found, stored, _, shown, moved⟩
  · rw [same]
    exact ⟨List.Perm.refl _, rfl⟩
  · refine ⟨?_, shown⟩
    obtain ⟨within, rfl⟩ := List.getElem?_eq_some_iff.mp stored
    have renamed := moved.map FloatingPane.paneId
    rw [List.map_set] at renamed
    have unchanged : (layer.panes.map FloatingPane.paneId).set index
        layer.panes[index].paneId = layer.panes.map FloatingPane.paneId := by
      have stored' := List.getElem_map FloatingPane.paneId
        (l := layer.panes) (i := index) (h := by simpa using within)
      rw [← stored', List.set_getElem_self]
    rw [unchanged] at renamed
    exact renamed

/-- Rewriting a rectangle keeps the panes and their classes. -/
theorem classes_updateRect
    (pane : PaneId)
    (area : Rect)
    (apply : Rect → Rect) :
    (layer.updateRect pane area apply).1.classes = layer.classes ∧
      (layer.updateRect pane area apply).1.ordinaryVisible =
        layer.ordinaryVisible := by
  unfold updateRect
  cases position : layer.panes.findIdx? fun float => float.paneId == pane with
  | none => exact ⟨rfl, rfl⟩
  | some index =>
      obtain ⟨within, _, _⟩ := List.findIdx?_eq_some_iff_getElem.mp position
      simp only [List.getElem?_eq_getElem within, classes, List.map_set,
        and_true]
      refine List.ext_getElem (by simp) fun other _ inBounds => ?_
      rw [List.getElem_set]
      split_ifs with same
      · subst same
        simp
      · rfl

theorem classes_clampAll (layer : FloatingLayer) (area : Rect) :
    (layer.clampAll area).classes = layer.classes ∧
      (layer.clampAll area).ordinaryVisible = layer.ordinaryVisible := by
  simp [clampAll, classes, Function.comp_def]

end FloatingLayer

end Layout
end Vvmux
