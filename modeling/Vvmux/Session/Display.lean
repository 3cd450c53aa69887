import Vvmux.Layout.Rect

/-!
# Host display

The host reports its size in columns and rows. The session clamps both before
it lays panes out and reserves one row for a visible status line.
-/

namespace Vvmux
namespace Session

open Library
open Layout

structure DisplayMetrics where
  columns : Nat
  rows : Nat
  cellWidth : Nat
  cellHeight : Nat
  deriving DecidableEq, Repr

/-- A visible status row is outside the pane area, so five host rows are
retained with it and four without. -/
def normalizedDisplay
    (display : DisplayMetrics)
    (statusVisible : Bool) : DisplayMetrics :=
  { display with
    columns := max 10 (min display.columns 1000)
    rows := max (if statusVisible then 5 else 4) (min display.rows 500) }

/-- Pane area of a display. -/
def areaOfDisplay (display : DisplayMetrics) (statusVisible : Bool) : Rect where
  x := 0
  y := 0
  width := max display.columns 1
  height := max (display.rows - statusVisible.toNat) 1

/-- A content area that the session admits for some reported host size. -/
def HostArea (area : Rect) : Prop :=
  ∃ display statusVisible,
    area = areaOfDisplay (normalizedDisplay display statusVisible) statusVisible

/-- Every admitted content area has 10 to 1000 columns and 4 to 500 rows and
starts at the origin. -/
theorem HostArea.bounds
    {area : Rect}
    (admitted : HostArea area) :
    area.x = 0 ∧ area.y = 0 ∧ 10 ≤ area.width ∧ area.width ≤ 1000 ∧
      4 ≤ area.height ∧ area.height ≤ 500 := by
  obtain ⟨display, statusVisible, rfl⟩ := admitted
  cases statusVisible <;>
    simp only [areaOfDisplay, normalizedDisplay, Bool.toNat_true,
      Bool.toNat_false, if_true, Bool.false_eq_true, if_false, true_and] <;>
    omega

end Session
end Vvmux
