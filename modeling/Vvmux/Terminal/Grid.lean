import Vvmux.Screen.Buffer
import Mathlib.Data.List.Basic

/-!
# Cells and rows of a pane's terminal

The functions of `vvmux-terminal` that work on one row or on one grid of
cells.  Rows are lists of cells; the terminal keeps every row at its own
number of columns, so an index that the source computes is in range.
-/

namespace Vvmux

open Screen (Cell TerminalColor UnderlineStyle TerminalHyperlink)

namespace Terminal

/-- `UnicodeWidthChar::width` of the crate `unicode-width`: no width for a
control character, at most two columns otherwise, one column for a space. -/
structure UnicodeWidth where
  width : Char → Option Nat
  width_le_two : ∀ ch columns, width ch = some columns → columns ≤ 2
  width_space : width ' ' = some 1

/-- `c.width().unwrap_or(1)`. -/
def UnicodeWidth.columns (unicode : UnicodeWidth) (ch : Char) : Nat :=
  (unicode.width ch).getD 1

theorem UnicodeWidth.columns_le_two
    (unicode : UnicodeWidth)
    (ch : Char) : unicode.columns ch ≤ 2 := by
  unfold UnicodeWidth.columns
  cases known : unicode.width ch with
  | none => simp
  | some columns => exact unicode.width_le_two ch columns known

@[simp] theorem UnicodeWidth.columns_space
    (unicode : UnicodeWidth) : unicode.columns ' ' = 1 := by
  simp [UnicodeWidth.columns, unicode.width_space]

/-- The widths of Latin letters, combining marks and Han characters. -/
def latinAndHan : UnicodeWidth where
  width ch :=
    if Screen.isControl ch then none
    else if 0x300 ≤ ch.toNat ∧ ch.toNat < 0x370 then some 0
    else if 0x4e00 ≤ ch.toNat ∧ ch.toNat < 0xa000 then some 2
    else some 1
  width_le_two := by
    intro ch columns known
    split at known
    · simp at known
    · split at known
      · have zero : 0 = columns := by simpa using known
        omega
      · split at known
        · have two : 2 = columns := by simpa using known
          omega
        · have one : 1 = columns := by simpa using known
          omega
  width_space := by decide

/-- A cell of the grid.  `writtenBy` is not in the source: it numbers the
`input` call that put the cell's glyph, or the second column of the glyph,
into the grid, and is zero for every other cell. -/
structure GridCell extends Cell where
  writtenBy : Nat := 0
deriving DecidableEq

abbrev Row := List GridCell

/-- `blank_grid`. -/
def blankGrid (rows cols : Nat) : List Row :=
  List.replicate rows (List.replicate cols {})

/-- `Vec::resize` with `fill` for new entries. -/
def resized
    {Item : Type}
    (items : List Item)
    (length : Nat)
    (fill : Item) : List Item :=
  items.take length ++ List.replicate (length - items.length) fill

/-- `resize_grid`. -/
def resizeGrid (grid : List Row) (rows cols : Nat) : List Row :=
  (resized grid rows (List.replicate cols {})).map
    fun row => resized row cols {}

/-- `default_tab_stops`. -/
def defaultTabStops (cols interval : Nat) : List Bool :=
  (List.range cols).map fun column => 0 < column && column % interval == 0

/-- `cell.tab_width = None`. -/
def GridCell.dropTab (cell : GridCell) : GridCell :=
  { cell with tabWidth := none }

namespace Row

/-- Forget the tabs that satisfy `covers`, given their columns and widths. -/
def dropTabs (row : Row) (covers : Nat → Nat → Bool) : Row :=
  row.mapIdx fun column cell =>
    match cell.tabWidth with
    | some width => if covers column width.toNat then cell.dropTab else cell
    | none => cell

/-- The row part of `clear_row_range`. -/
def clearRange (row : Row) (start stop : Nat) (blank : GridCell) : Row :=
  (row.dropTabs fun column width => column < stop && start < column + width)
    |>.mapIdx fun column cell =>
      if start ≤ column ∧ column < stop then blank else cell

/-- The row part of `invalidate_tab_at`. -/
def invalidateTabAt (row : Row) (column : Nat) : Row :=
  row.dropTabs fun start width => start ≤ column && column < start + width

/-- The row part of `insert_blank`.  The source moves the cells from the right
end, so that each one is read before it is overwritten. -/
def insertBlank (row : Row) (cursor count : Nat) (blank : GridCell) : Row :=
  let plain := row.map GridCell.dropTab
  plain.take cursor ++ List.replicate count blank ++
    (plain.drop cursor).take (row.length - count - cursor)

/-- The row part of `delete_chars`. -/
def deleteChars (row : Row) (cursor count : Nat) (blank : GridCell) : Row :=
  let plain := row.map GridCell.dropTab
  plain.take cursor ++ plain.drop (cursor + count) ++
    List.replicate count blank

end Row

end Terminal
end Vvmux
