import Vvmux.Screen.Buffer

/-!
# The bytes of a frame

`screen::ansi_diff` as the list of sequences it appends to its output.  A
`Control` is one escape sequence or one glyph with its combining marks; the
parameters of an SGR sequence stay apart as the source appends them.
-/

namespace Vvmux
namespace Screen

/-- One parameter group of an SGR sequence. -/
inductive SgrParam where
  /-- `;code` -/
  | code (code : Nat)
  /-- `;4:kind` -/
  | underline (kind : Nat)
  /-- `;selector;5;index` -/
  | indexed (selector : Nat) (index : UInt8)
  /-- `;selector;2;red;green;blue` -/
  | rgb (selector : Nat) (red green blue : UInt8)
deriving DecidableEq

/-- One sequence of the output. -/
inductive Control where
  /-- `ESC [ row ; column H`, counted from one. -/
  | address (row column : Nat)
  /-- `ESC [ 0 parameters m` -/
  | sgr (parameters : List SgrParam)
  /-- `ESC ] 8 ; id=id ; uri ST` -/
  | hyperlink (id : Option String) (uri : String)
  /-- `ESC [ ? 25 h`, or `l` -/
  | cursorVisible (visible : Bool)
  | print (ch : Char) (combining : String)
deriving DecidableEq

/-- `write_color`. -/
def writeColor (color : TerminalColor) (foreground : Bool) : SgrParam :=
  match color with
  | .default => .code (if foreground then 39 else 49)
  | .indexed index =>
      if index < 8 then
        .code (if foreground then 30 + index.toNat else 40 + index.toNat)
      else if index < 16 then
        .code
          (if foreground then 90 + index.toNat - 8 else 100 + index.toNat - 8)
      else
        .indexed (if foreground then 38 else 48) index
  | .rgb red green blue => .rgb (if foreground then 38 else 48) red green blue

/-- `write_underline_color`. -/
def writeUnderlineColor (color : Option TerminalColor) : SgrParam :=
  match color with
  | none => .code 59
  | some .default => .code 59
  | some (.indexed index) => .indexed 58 index
  | some (.rgb red green blue) => .rgb 58 red green blue

/-- The parameter of one attribute of the style. -/
def writeFlag (flag : Bool) (code : Nat) : List SgrParam :=
  if flag then [.code code] else []

/-- The parameter of the underline style. -/
def writeUnderline (underline : UnderlineStyle) : List SgrParam :=
  match underline with
  | .none => []
  | .single => [.code 4]
  | .double => [.underline 2]
  | .curl => [.underline 3]
  | .dotted => [.underline 4]
  | .dashed => [.underline 5]

/-- The SGR parameters of a style, in the order of `write_style`. -/
def Style.parameters (style : Style) : List SgrParam :=
  writeFlag style.bold 1 ++ writeFlag style.dim 2 ++
    writeFlag style.italic 3 ++ writeUnderline style.underline ++
    writeFlag style.blink 5 ++ writeFlag style.inverse 7 ++
    writeFlag style.hidden 8 ++ writeFlag style.strikeout 9 ++
    [writeColor style.foreground true, writeColor style.background false,
      writeUnderlineColor style.underlineColor]

/-- `write_style`. -/
def writeStyle (style : Style) : List Control :=
  [.hyperlink none "", .sgr style.parameters] ++
    match style.hyperlink with
    | none => []
    | some link => [.hyperlink link.id link.uri]

/-- Whether the whole frame is repainted. -/
def repaintsAll
    (previous : Option ScreenBuffer)
    (current : ScreenBuffer)
    (forceFull : Bool) : Bool :=
  forceFull || previous.isNone ||
    previous.any fun old =>
      old.rows != current.rows || old.columns != current.columns

/-- The outer loop's test: the cell at this place is repainted. -/
def changed
    (full : Bool)
    (previous : Option ScreenBuffer)
    (current : ScreenBuffer)
    (row column : Nat) : Bool :=
  full || previous.all fun old =>
    old.cellAt row column != current.cellAt row column

/-- The inner loop's test: the run of repainted cells ends here. -/
def runEnds
    (full : Bool)
    (previous : Option ScreenBuffer)
    (current : ScreenBuffer)
    (row column : Nat) : Bool :=
  !full && previous.any fun old =>
    old.cellAt row column == current.cellAt row column

/-- The style sequences of a cell, none when the cached style is its own. -/
def styleChange (style : Option Style) (next : Style) : List Control :=
  if style = some next then [] else writeStyle next

/-- The text of a cell; a continuation cell has none. -/
def cellText (cell : Cell) : List Control :=
  if cell.wideContinuation then [] else [.print cell.ch cell.combining]

/-- What a loop over columns returns: its output, the cached style and the
column it stopped at. -/
structure Painted where
  output : List Control
  style : Option Style
  column : Nat

/-- The inner loop of `ansi_diff`, over at most `remaining` columns. -/
def paintRun
    (full : Bool)
    (previous : Option ScreenBuffer)
    (current : ScreenBuffer)
    (row : Nat) :
    Nat → Nat → Option Style → Painted
  | 0, column, style => ⟨[], style, column⟩
  | remaining + 1, column, style =>
      if runEnds full previous current row column then
        ⟨[], style, column⟩
      else
        let cell := current.cellAt row column
        let next := Style.ofCell cell
        let rest := paintRun full previous current row remaining
          (column + 1) (some next)
        { rest with
          output := styleChange style next ++ cellText cell ++ rest.output }

/-- The loop of `ansi_diff` over one row.  Every round moves at least one
column to the right, so `current.columns` rounds are enough. -/
def paintRow
    (full : Bool)
    (previous : Option ScreenBuffer)
    (current : ScreenBuffer)
    (row : Nat) :
    Nat → Nat → Option Style → List Control × Option Style
  | 0, _, style => ([], style)
  | rounds + 1, column, style =>
      if column < current.columns.toNat then
        if changed full previous current row column then
          let run := paintRun full previous current row
            (current.columns.toNat - column) column style
          let rest := paintRow full previous current row rounds
            run.column run.style
          (.address (row + 1) (column + 1) :: run.output ++ rest.1, rest.2)
        else
          paintRow full previous current row rounds (column + 1) style
      else
        ([], style)

/-- The loop of `ansi_diff` over the rows from `row` on. -/
def paintRows
    (full : Bool)
    (previous : Option ScreenBuffer)
    (current : ScreenBuffer) :
    Nat → Nat → Option Style → List Control
  | 0, _, _ => []
  | remaining + 1, row, style =>
      let painted := paintRow full previous current row
        current.columns.toNat 0 style
      painted.1 ++ paintRows full previous current remaining (row + 1) painted.2

/-- The sequences ahead of a full frame. -/
def frameStart (full : Bool) : List Control :=
  if full then [.sgr [], .cursorVisible false, .address 1 1] else []

/-- The sequences that end a frame.  `y + 1` and `x + 1` are `u16` sums. -/
def frameEnd (cursor : Option (UInt16 × UInt16)) : List Control :=
  [.hyperlink none "", .sgr []] ++
    match cursor with
    | some (x, y) =>
        [.address (y + 1).toNat (x + 1).toNat, .cursorVisible true]
    | none => [.cursorVisible false]

/-- `ansi_diff`. -/
def ansiDiff
    (previous : Option ScreenBuffer)
    (current : ScreenBuffer)
    (forceFull : Bool) : List Control :=
  let full := repaintsAll previous current forceFull
  frameStart full ++
    paintRows full previous current current.rows.toNat 0 none ++
    frameEnd current.cursor

/-- The two loops test the same thing. -/
theorem runEnds_eq_not_changed
    (full : Bool)
    (previous : Option ScreenBuffer)
    (current : ScreenBuffer)
    (row column : Nat) :
    runEnds full previous current row column =
      !changed full previous current row column := by
  cases previous <;> cases full <;> simp [runEnds, changed, bne]

/-- A run never goes back. -/
theorem paintRun_column
    (full : Bool)
    (previous : Option ScreenBuffer)
    (current : ScreenBuffer)
    (row remaining column : Nat)
    (style : Option Style) :
    column ≤ (paintRun full previous current row remaining column style).column ∧
      (paintRun full previous current row remaining column style).column ≤
        column + remaining := by
  induction remaining generalizing column style with
  | zero => simp [paintRun]
  | succ remaining ih =>
      simp only [paintRun]
      split
      · simp
      · have rest := ih (column + 1)
          (some (Style.ofCell (current.cellAt row column)))
        simp only
        omega

end Screen
end Vvmux
