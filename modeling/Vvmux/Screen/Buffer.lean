import Mathlib.Data.Nat.Basic

/-!
# Screen buffers

The composed cells of one frame (`vvmux_terminal::Cell`,
`screen::ScreenBuffer`) and the part of a cell that the outer terminal is
told about (`screen::Style`).
-/

namespace Vvmux
namespace Screen

inductive TerminalColor where
  | default
  | indexed (index : UInt8)
  | rgb (red green blue : UInt8)
deriving DecidableEq

inductive UnderlineStyle where
  | none
  | single
  | double
  | curl
  | dotted
  | dashed
deriving DecidableEq

structure TerminalHyperlink where
  id : Option String
  uri : String
deriving DecidableEq

/-- One composed cell.  The defaults are those of `Cell::default`. -/
structure Cell where
  ch : Char := ' '
  combining : String := ""
  foreground : TerminalColor := .default
  background : TerminalColor := .default
  bold : Bool := false
  dim : Bool := false
  italic : Bool := false
  underline : Bool := false
  underlineStyle : UnderlineStyle := .none
  underlineColor : Option TerminalColor := none
  blink : Bool := false
  inverse : Bool := false
  hidden : Bool := false
  strikeout : Bool := false
  wideContinuation : Bool := false
  leadingWideSpacer : Bool := false
  tabWidth : Option UInt16 := none
  hyperlink : Option TerminalHyperlink := none
deriving DecidableEq

/-- A frame.  The source keeps `cells` at `rows * columns` entries (`new`
allocates them, `set` replaces one), and indexes it under that assumption. -/
structure ScreenBuffer where
  rows : UInt16
  columns : UInt16
  cells : List Cell
  cursor : Option (UInt16 × UInt16)
  sized : cells.length = columns.toNat * rows.toNat

/-- `ScreenBuffer::new`. -/
def ScreenBuffer.new (columns rows : UInt16) : ScreenBuffer where
  rows := rows
  columns := columns
  cells := List.replicate (columns.toNat * rows.toNat) {}
  cursor := none
  sized := by simp

/-- The index of a cell in `cells`. -/
def ScreenBuffer.index (buffer : ScreenBuffer) (row column : Nat) : Nat :=
  row * buffer.columns.toNat + column

/-- `cells[index]`; by `sized` every index below the size is in range. -/
def ScreenBuffer.cellAt (buffer : ScreenBuffer) (row column : Nat) : Cell :=
  buffer.cells.getD (buffer.index row column) {}

/-- What the outer terminal is told about a cell besides its text. -/
structure Style where
  foreground : TerminalColor
  background : TerminalColor
  bold : Bool
  dim : Bool
  italic : Bool
  underline : UnderlineStyle
  underlineColor : Option TerminalColor
  blink : Bool
  inverse : Bool
  hidden : Bool
  strikeout : Bool
  hyperlink : Option TerminalHyperlink
deriving DecidableEq

/-- `char::is_control`: the general category Cc. -/
def isControl (ch : Char) : Bool :=
  ch.toNat < 0x20 || (0x7f ≤ ch.toNat && ch.toNat ≤ 0x9f)

/-- Whether a hyperlink can be forwarded without breaking its sequence. -/
def forwardable (link : TerminalHyperlink) : Bool :=
  !link.uri.toList.any isControl &&
    link.id.all fun id => !id.toList.any isControl && !id.toList.contains ';'

/-- `Style::from`. -/
def Style.ofCell (cell : Cell) : Style where
  foreground := cell.foreground
  background := cell.background
  bold := cell.bold
  dim := cell.dim
  italic := cell.italic
  underline := cell.underlineStyle
  underlineColor := cell.underlineColor
  blink := cell.blink
  inverse := cell.inverse
  hidden := cell.hidden
  strikeout := cell.strikeout
  hyperlink := cell.hyperlink.filter forwardable

/-- A buffer whose cells are narrow glyphs, or wide glyphs directly followed
in their row by a continuation cell, under the glyph widths of the outer
terminal. -/
structure ScreenBuffer.Paired
    (buffer : ScreenBuffer)
    (width : Char → Nat) : Prop where
  glyph : ∀ row < buffer.rows.toNat, ∀ column < buffer.columns.toNat,
    (buffer.cellAt row column).wideContinuation = false →
      width (buffer.cellAt row column).ch = 1 ∨
      width (buffer.cellAt row column).ch = 2 ∧
        column + 1 < buffer.columns.toNat ∧
        (buffer.cellAt row (column + 1)).wideContinuation = true
  continuation : ∀ row < buffer.rows.toNat,
    ∀ column < buffer.columns.toNat,
    (buffer.cellAt row column).wideContinuation = true →
      ∃ leading, column = leading + 1 ∧
        (buffer.cellAt row leading).wideContinuation = false ∧
        width (buffer.cellAt row leading).ch = 2

end Screen
end Vvmux
