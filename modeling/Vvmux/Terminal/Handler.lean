import Vvmux.Terminal.Grid
import Mathlib.Logic.Function.Iterate

/-!
# The terminal of a pane

`Terminal` of `vvmux-terminal` with the methods that the escape sequence
parser calls on it.  The parser itself (the crate `vte`) and the scanner for
media markers are not part of the model: `Call` lists what they can ask for.
-/

namespace Vvmux

open Screen (Cell TerminalColor UnderlineStyle TerminalHyperlink)

namespace Terminal

structure TerminalModes where
  applicationCursor : Bool := false
  bracketedPaste : Bool := false
  mouseClicks : Bool := false
  mouseMotion : Bool := false
  sgrMouse : Bool := false
  focusReporting : Bool := false
  cursorVisible : Bool := false
  applicationKeypad : Bool := false
deriving DecidableEq

inductive TerminalEvent where
  | damage
  | title (title : Option String)
  | bell
  | ptyWrite (bytes : String)
  | modeChange (modes : TerminalModes)
  | vividMarker (marker : String) (row column : Nat)
  | gridScroll (count : Int)
  | clear
deriving DecidableEq

/-- `vte::ansi::Color`; a named color is its discriminant. -/
inductive Color where
  | named (index : Nat)
  | spec (red green blue : UInt8)
  | indexed (index : UInt8)

/-- `NamedColor::Foreground as usize`. -/
def namedForeground : Nat := 256

/-- `NamedColor::Background as usize`. -/
def namedBackground : Nat := 257

/-- `convert_color`. -/
def convertColor (color : Color) (foreground : Bool) : TerminalColor :=
  match color with
  | .indexed index => .indexed index
  | .spec red green blue => .rgb red green blue
  | .named index =>
      if index = namedForeground ∧ foreground then .default
      else if index = namedBackground ∧ !foreground then .default
      else if index < 16 then .indexed (UInt8.ofNat index)
      else .default

/-- `vte::ansi::Attr`. -/
inductive Attr where
  | reset
  | bold
  | dim
  | cancelBold
  | cancelBoldDim
  | italic
  | cancelItalic
  | underline
  | doubleUnderline
  | undercurl
  | dottedUnderline
  | dashedUnderline
  | cancelUnderline
  | underlineColor (color : Option Color)
  | blinkSlow
  | blinkFast
  | cancelBlink
  | reverse
  | cancelReverse
  | hidden
  | cancelHidden
  | strike
  | cancelStrike
  | foreground (color : Color)
  | background (color : Color)

inductive LineClearMode where
  | right
  | left
  | all

inductive ClearMode where
  | below
  | above
  | all
  | saved

inductive TabulationClearMode where
  | current
  | all

end Terminal

open Terminal in
/-- The state of a pane's terminal.  `inputs` is not in the source: it counts
the `input` calls that put a glyph, to number what they write. -/
structure Terminal where
  rows : Nat
  cols : Nat
  grid : List Row
  alternateGrid : List Row
  gridWrapped : List Bool
  alternateGridWrapped : List Bool
  history : List Row
  historyWrapped : List Bool
  historyLimit : Nat
  cursorRow : Nat
  cursorCol : Nat
  savedCursor : Nat × Nat
  scrollTop : Nat
  scrollBottom : Nat
  template : Cell
  events : List TerminalEvent
  modes : TerminalModes
  title : Option String
  alternateScreen : Bool
  tabStops : List Bool
  tabStopsCustomized : Bool
  inputs : Nat
deriving DecidableEq

namespace Terminal

/-- `Terminal::new`. -/
def new (rows cols historyLimit : Nat) : Terminal :=
  let rows := max rows 1
  let cols := max cols 1
  { rows := rows
    cols := cols
    grid := blankGrid rows cols
    alternateGrid := blankGrid rows cols
    gridWrapped := List.replicate rows false
    alternateGridWrapped := List.replicate rows false
    history := []
    historyWrapped := []
    historyLimit := historyLimit
    cursorRow := 0
    cursorCol := 0
    savedCursor := (0, 0)
    scrollTop := 0
    scrollBottom := rows
    template := {}
    events := []
    modes := { cursorVisible := true }
    title := none
    alternateScreen := false
    tabStops := defaultTabStops cols 8
    tabStopsCustomized := false
    inputs := 0 }

/-- `Terminal::viewport_line`. -/
def viewportLine (terminal : Terminal) (line : Int) : Option Row :=
  if line < 0 then
    let index := terminal.history.length + line
    if 0 ≤ index then terminal.history[index.toNat]? else none
  else
    terminal.grid[line.toNat]?

/-- `Terminal::line_wrapped`. -/
def lineWrapped (terminal : Terminal) (line : Int) : Option Bool :=
  if line < 0 then
    let index := terminal.history.length + line
    if 0 ≤ index then terminal.historyWrapped[index.toNat]? else none
  else
    terminal.gridWrapped[line.toNat]?

/-- `self.events.push`. -/
def push (terminal : Terminal) (event : TerminalEvent) : Terminal :=
  { terminal with events := terminal.events ++ [event] }

/-- `Terminal::damage`. -/
def damage (terminal : Terminal) : Terminal :=
  if terminal.events.contains .damage then terminal
  else terminal.push .damage

/-- `Terminal::blank`. -/
def blank (terminal : Terminal) : GridCell :=
  { terminal.template with
    ch := ' '
    combining := ""
    wideContinuation := false
    leadingWideSpacer := false
    tabWidth := none }

/-- Change one row of the grid. -/
def modifyRow
    (terminal : Terminal)
    (row : Nat)
    (change : Row → Row) : Terminal :=
  { terminal with grid := terminal.grid.modify row change }

/-- `self.grid_wrapped[row] = true`. -/
def markWrapped (terminal : Terminal) (row : Nat) : Terminal :=
  { terminal with gridWrapped := terminal.gridWrapped.set row true }

/-- `Terminal::resize`. -/
def resize (terminal : Terminal) (rows cols : Nat) : Terminal :=
  let rows := max rows 1
  let cols := max cols 1
  { terminal with
    grid := resizeGrid terminal.grid rows cols
    alternateGrid := resizeGrid terminal.alternateGrid rows cols
    gridWrapped := resized terminal.gridWrapped rows false
    alternateGridWrapped := resized terminal.alternateGridWrapped rows false
    tabStops :=
      if terminal.tabStopsCustomized then resized terminal.tabStops cols false
      else defaultTabStops cols 8
    rows := rows
    cols := cols
    cursorRow := min terminal.cursorRow (rows - 1)
    cursorCol := min terminal.cursorCol (cols - 1)
    scrollTop := 0
    scrollBottom := rows
    events := terminal.events ++ [.damage] }

/-- One turn of the loop of `scroll_region_up`. -/
def scrollUpOnce (terminal : Terminal) : Terminal :=
  let removed := terminal.grid.getD terminal.scrollTop []
  let removedWrapped := terminal.gridWrapped.getD terminal.scrollTop false
  let grid := terminal.grid.eraseIdx terminal.scrollTop
  let gridWrapped := terminal.gridWrapped.eraseIdx terminal.scrollTop
  let retains := terminal.scrollTop = 0 ∧
    terminal.scrollBottom = terminal.rows ∧ terminal.alternateScreen = false
  let history :=
    if retains then terminal.history ++ [removed] else terminal.history
  let historyWrapped :=
    if retains then terminal.historyWrapped ++ [removedWrapped]
    else terminal.historyWrapped
  -- Only a row that was just pushed can exceed the limit.
  let excess := if retains then history.length - terminal.historyLimit else 0
  { terminal with
    history := history.drop excess
    historyWrapped := historyWrapped.drop excess
    grid := grid.insertIdx (terminal.scrollBottom - 1)
      (List.replicate terminal.cols terminal.blank)
    gridWrapped := gridWrapped.insertIdx (terminal.scrollBottom - 1) false }

/-- `Terminal::scroll_region_up`. -/
def scrollRegionUp (terminal : Terminal) (count : Nat) : Terminal :=
  let count := min count (terminal.scrollBottom - terminal.scrollTop)
  let scrolled := scrollUpOnce^[count] terminal
  if 0 < count then (scrolled.push (.gridScroll count)).damage else scrolled

/-- One turn of the loop of `scroll_region_down`. -/
def scrollDownOnce (terminal : Terminal) : Terminal :=
  { terminal with
    grid := (terminal.grid.eraseIdx (terminal.scrollBottom - 1)).insertIdx
      terminal.scrollTop (List.replicate terminal.cols terminal.blank)
    gridWrapped :=
      (terminal.gridWrapped.eraseIdx (terminal.scrollBottom - 1)).insertIdx
        terminal.scrollTop false }

/-- `Terminal::scroll_region_down`. -/
def scrollRegionDown (terminal : Terminal) (count : Nat) : Terminal :=
  let count := min count (terminal.scrollBottom - terminal.scrollTop)
  let scrolled := scrollDownOnce^[count] terminal
  if 0 < count then (scrolled.push (.gridScroll (-count))).damage else scrolled

/-- `Terminal::line_feed`. -/
def lineFeed (terminal : Terminal) : Terminal :=
  if terminal.scrollBottom ≤ terminal.cursorRow + 1 then
    terminal.scrollRegionUp 1
  else
    { terminal with
      cursorRow := min (terminal.cursorRow + 1) (terminal.rows - 1) }

/-- `Terminal::clear_row_range`. -/
def clearRowRange (terminal : Terminal) (row start stop : Nat) : Terminal :=
  let start := min start terminal.cols
  let stop := min stop terminal.cols
  (terminal.modifyRow row
    fun cells => cells.clearRange start stop terminal.blank).damage

/-- `Terminal::invalidate_tab_at`. -/
def invalidateTabAt (terminal : Terminal) (row column : Nat) : Terminal :=
  terminal.modifyRow row fun cells => cells.invalidateTabAt column

/-- The combining branch of `input`. -/
def combine (terminal : Terminal) (ch : Char) : Terminal :=
  (terminal.modifyRow terminal.cursorRow fun cells =>
    cells.modify (terminal.cursorCol - 1) fun cell =>
      { cell with combining := cell.combining.push ch }).damage

/-- `input` continues in the next row. -/
def nextRow (terminal : Terminal) : Terminal :=
  { terminal.markWrapped terminal.cursorRow with cursorCol := 0 }.lineFeed

/-- The first wrap of `input`: the cursor stands behind the last column. -/
def wrapPending (terminal : Terminal) : Terminal :=
  if terminal.cols ≤ terminal.cursorCol then terminal.nextRow else terminal

/-- The second wrap of `input`: a wide glyph does not fit into the row. -/
def wrapWide (terminal : Terminal) (width : Nat) : Terminal :=
  if width = 2 ∧ terminal.cols ≤ terminal.cursorCol + 1 then
    ((terminal.invalidateTabAt terminal.cursorRow terminal.cursorCol).modifyRow
      terminal.cursorRow fun cells =>
        cells.set terminal.cursorCol
          { terminal.blank with leadingWideSpacer := true }).nextRow
  else
    terminal

/-- The cell of a glyph. -/
def glyph (terminal : Terminal) (ch : Char) : GridCell :=
  { terminal.template with
    ch := ch
    combining := ""
    wideContinuation := false
    leadingWideSpacer := false
    writtenBy := terminal.inputs + 1 }

/-- The second column of a wide glyph. -/
def continuation (terminal : Terminal) : GridCell :=
  { terminal.blank with
    wideContinuation := true
    writtenBy := terminal.inputs + 1 }

/-- `input` forgets the tabs that the glyph is going to cover. -/
def untabGlyph (terminal : Terminal) (width : Nat) : Terminal :=
  let untabbed :=
    terminal.invalidateTabAt terminal.cursorRow terminal.cursorCol
  if width = 2 then
    untabbed.invalidateTabAt terminal.cursorRow (terminal.cursorCol + 1)
  else
    untabbed

/-- The last part of `input`: write the glyph under the cursor. -/
def putGlyph (terminal : Terminal) (ch : Char) (width : Nat) : Terminal :=
  let written :=
    (terminal.untabGlyph width).modifyRow terminal.cursorRow fun cells =>
      cells.set terminal.cursorCol (terminal.glyph ch)
  let column := terminal.cursorCol + 1
  if width = 2 ∧ column < terminal.cols then
    { written.modifyRow terminal.cursorRow fun cells =>
        cells.set column terminal.continuation with
      cursorCol := column + 1
      inputs := terminal.inputs + 1 }
  else
    { written with
      cursorCol := column
      inputs := terminal.inputs + 1 }

/-- `Handler::input`. -/
def input
    (unicode : UnicodeWidth)
    (terminal : Terminal)
    (ch : Char) : Terminal :=
  let width := unicode.columns ch
  if width = 0 then
    terminal.combine ch
  else
    ((terminal.wrapPending.wrapWide width).putGlyph ch width).damage

/-- `Handler::goto`. -/
def goto (terminal : Terminal) (line : Int) (col : Nat) : Terminal :=
  { terminal with
    cursorRow := min line.toNat (terminal.rows - 1)
    cursorCol := min col (terminal.cols - 1) }

/-- `Handler::move_up`. -/
def moveUp (terminal : Terminal) (rows : Nat) : Terminal :=
  { terminal with
    cursorRow := max (terminal.cursorRow - rows) terminal.scrollTop }

/-- `Handler::move_down`. -/
def moveDown (terminal : Terminal) (rows : Nat) : Terminal :=
  { terminal with
    cursorRow := min (terminal.cursorRow + rows) (terminal.scrollBottom - 1) }

/-- `self.cursor_col = 0`. -/
def carriageReturn (terminal : Terminal) : Terminal :=
  { terminal with cursorCol := 0 }

/-- The next tab stop behind a column, or the last column. -/
def nextTabStop (terminal : Terminal) (start : Nat) : Nat :=
  ((List.range terminal.cols).find? fun column =>
    start < column && terminal.tabStops.getD column false).getD
      (terminal.cols - 1)

/-- One turn of the loop of `put_tab`. -/
def putTabOnce (terminal : Terminal) : Terminal :=
  let start := terminal.cursorCol
  let next := terminal.nextTabStop start
  let tabbed :=
    if start < next then
      terminal.modifyRow terminal.cursorRow fun cells =>
        cells.modify start fun cell =>
          { cell with
            tabWidth :=
              if next - start < 65536 then some (UInt16.ofNat (next - start))
              else none }
    else
      terminal
  { tabbed with cursorCol := next }

/-- `Handler::put_tab`. -/
def putTab (terminal : Terminal) (count : Nat) : Terminal :=
  putTabOnce^[count] terminal

/-- `Handler::set_horizontal_tabstop`. -/
def setHorizontalTabstop (terminal : Terminal) : Terminal :=
  { terminal with
    tabStopsCustomized := true
    tabStops := terminal.tabStops.set terminal.cursorCol true }

/-- `Handler::clear_tabs`. -/
def clearTabs (terminal : Terminal) (mode : TabulationClearMode) : Terminal :=
  { terminal with
    tabStopsCustomized := true
    tabStops :=
      match mode with
      | .current => terminal.tabStops.set terminal.cursorCol false
      | .all => terminal.tabStops.map fun _ => false }

/-- `Handler::set_tabs`. -/
def setTabs (terminal : Terminal) (interval : Nat) : Terminal :=
  { terminal with
    tabStopsCustomized := true
    tabStops := defaultTabStops terminal.cols (max interval 1) }

/-- `Handler::insert_blank`. -/
def insertBlank (terminal : Terminal) (count : Nat) : Terminal :=
  let count := min count (terminal.cols - terminal.cursorCol)
  (terminal.modifyRow terminal.cursorRow fun cells =>
    cells.insertBlank terminal.cursorCol count terminal.blank).damage

/-- `Handler::delete_chars`. -/
def deleteChars (terminal : Terminal) (count : Nat) : Terminal :=
  let count := min count (terminal.cols - terminal.cursorCol)
  (terminal.modifyRow terminal.cursorRow fun cells =>
    cells.deleteChars terminal.cursorCol count terminal.blank).damage

/-- `Handler::erase_chars`. -/
def eraseChars (terminal : Terminal) (count : Nat) : Terminal :=
  terminal.clearRowRange terminal.cursorRow terminal.cursorCol
    (min (terminal.cursorCol + count) terminal.cols)

/-- `Handler::clear_line`. -/
def clearLine (terminal : Terminal) (mode : LineClearMode) : Terminal :=
  match mode with
  | .right =>
      terminal.clearRowRange terminal.cursorRow terminal.cursorCol terminal.cols
  | .left =>
      terminal.clearRowRange terminal.cursorRow 0 (terminal.cursorCol + 1)
  | .all => terminal.clearRowRange terminal.cursorRow 0 terminal.cols

/-- `for row in start..stop { self.clear_row_range(row, 0, self.cols) }`. -/
def clearRows (terminal : Terminal) (start stop : Nat) : Terminal :=
  (List.range' start (stop - start)).foldl
    (fun cleared row => cleared.clearRowRange row 0 cleared.cols) terminal

/-- `Handler::clear_screen`. -/
def clearScreen (terminal : Terminal) (mode : ClearMode) : Terminal :=
  match mode with
  | .below =>
      (terminal.clearRowRange terminal.cursorRow terminal.cursorCol
        terminal.cols).clearRows (terminal.cursorRow + 1) terminal.rows
  | .above =>
      (terminal.clearRows 0 terminal.cursorRow).clearRowRange
        terminal.cursorRow 0 (terminal.cursorCol + 1)
  | .all =>
      ({ terminal with
        grid := blankGrid terminal.rows terminal.cols
        gridWrapped := terminal.gridWrapped.map fun _ => false }.push
          .clear).damage
  | .saved =>
      let purged := { terminal with history := [], historyWrapped := [] }
      if terminal.grid.all fun row =>
          row.all fun cell => cell.ch == ' ' && cell.combining.isEmpty then
        purged.push .clear
      else
        purged

/-- `Handler::insert_blank_lines`. -/
def insertBlankLines (terminal : Terminal) (rows : Nat) : Terminal :=
  { { terminal with scrollTop := terminal.cursorRow }.scrollRegionDown rows with
    scrollTop := terminal.scrollTop }

/-- `Handler::delete_lines`. -/
def deleteLines (terminal : Terminal) (rows : Nat) : Terminal :=
  { { terminal with scrollTop := terminal.cursorRow }.scrollRegionUp rows with
    scrollTop := terminal.scrollTop }

/-- `Handler::set_scrolling_region`. -/
def setScrollingRegion
    (terminal : Terminal)
    (top : Nat)
    (bottom : Option Nat) : Terminal :=
  let scrollTop := min (top - 1) (terminal.rows - 1)
  { terminal with
    scrollTop := scrollTop
    scrollBottom :=
      min (max (bottom.getD terminal.rows) (scrollTop + 1)) terminal.rows }
    |>.goto 0 0

/-- `Handler::restore_cursor_position`. -/
def restoreCursorPosition (terminal : Terminal) : Terminal :=
  { terminal with
    cursorRow := min terminal.savedCursor.1 (terminal.rows - 1)
    cursorCol := min terminal.savedCursor.2 (terminal.cols - 1) }

/-- `Handler::reverse_index`. -/
def reverseIndex (terminal : Terminal) : Terminal :=
  if terminal.cursorRow = terminal.scrollTop then terminal.scrollRegionDown 1
  else { terminal with cursorRow := terminal.cursorRow - 1 }

/-- `Handler::reset_state`. -/
def resetState (terminal : Terminal) : Terminal :=
  ({ terminal with
    grid := blankGrid terminal.rows terminal.cols
    alternateGrid := blankGrid terminal.rows terminal.cols
    gridWrapped := terminal.gridWrapped.map fun _ => false
    alternateGridWrapped := terminal.alternateGridWrapped.map fun _ => false
    history := []
    historyWrapped := []
    cursorRow := 0
    cursorCol := 0
    scrollTop := 0
    scrollBottom := terminal.rows
    template := {}
    tabStops := defaultTabStops terminal.cols 8
    tabStopsCustomized := false
    modes := { cursorVisible := true } }.push .clear).damage

/-- `Terminal::set_underline`. -/
def setUnderline (template : Cell) (style : UnderlineStyle) : Cell :=
  { template with
    underline := style ≠ .none
    underlineStyle := style }

/-- The template after `Handler::terminal_attribute`. -/
def applyAttr (template : Cell) (attr : Attr) : Cell :=
  match attr with
  | .reset => { hyperlink := template.hyperlink }
  | .bold => { template with bold := true }
  | .dim => { template with dim := true }
  | .cancelBold => { template with bold := false }
  | .cancelBoldDim => { template with bold := false, dim := false }
  | .italic => { template with italic := true }
  | .cancelItalic => { template with italic := false }
  | .underline => setUnderline template .single
  | .doubleUnderline => setUnderline template .double
  | .undercurl => setUnderline template .curl
  | .dottedUnderline => setUnderline template .dotted
  | .dashedUnderline => setUnderline template .dashed
  | .cancelUnderline => setUnderline template .none
  | .underlineColor color =>
      { template with
        underlineColor := color.map fun color => convertColor color true }
  | .blinkSlow => { template with blink := true }
  | .blinkFast => { template with blink := true }
  | .cancelBlink => { template with blink := false }
  | .reverse => { template with inverse := true }
  | .cancelReverse => { template with inverse := false }
  | .hidden => { template with hidden := true }
  | .cancelHidden => { template with hidden := false }
  | .strike => { template with strikeout := true }
  | .cancelStrike => { template with strikeout := false }
  | .foreground color =>
      { template with foreground := convertColor color true }
  | .background color =>
      { template with background := convertColor color false }

/-- `Terminal::update_private_mode`. -/
def updatePrivateMode
    (terminal : Terminal)
    (mode : Nat)
    (enabled : Bool) : Terminal :=
  let modes := terminal.modes
  let updated :=
    match mode with
    | 1 => { terminal with modes := { modes with applicationCursor := enabled } }
    | 2004 => { terminal with modes := { modes with bracketedPaste := enabled } }
    | 1000 => { terminal with modes := { modes with mouseClicks := enabled } }
    | 1002 => { terminal with modes := { modes with mouseMotion := enabled } }
    | 1003 => { terminal with modes := { modes with mouseMotion := enabled } }
    | 1006 => { terminal with modes := { modes with sgrMouse := enabled } }
    | 1004 => { terminal with modes := { modes with focusReporting := enabled } }
    | 25 => { terminal with modes := { modes with cursorVisible := enabled } }
    | 1049 =>
        if enabled ≠ terminal.alternateScreen then
          { terminal with
            grid := terminal.alternateGrid
            alternateGrid := terminal.grid
            gridWrapped := terminal.alternateGridWrapped
            alternateGridWrapped := terminal.gridWrapped
            alternateScreen := enabled
            cursorRow := 0
            cursorCol := 0 }.damage
        else
          terminal
    | _ => terminal
  updated.push (.modeChange updated.modes)

/-- `Handler::set_keypad_application_mode` and its opposite. -/
def setKeypad (terminal : Terminal) (enabled : Bool) : Terminal :=
  let updated :=
    { terminal with
      modes := { terminal.modes with applicationKeypad := enabled } }
  updated.push (.modeChange updated.modes)

/-- `Handler::device_status`. -/
def deviceStatus (terminal : Terminal) (status : Nat) : Terminal :=
  match status with
  | 5 => terminal.push (.ptyWrite "\x1b[0n")
  | 6 =>
      terminal.push (.ptyWrite
        ("\x1b[" ++ toString (terminal.cursorRow + 1) ++ ";" ++
          toString (terminal.cursorCol + 1) ++ "R"))
  | _ => terminal

/-- What the parser, the marker scanner and the session ask of a terminal. -/
inductive Call where
  | input (ch : Char)
  | goto (line : Int) (col : Nat)
  | gotoLine (line : Int)
  | gotoCol (col : Nat)
  | moveUp (rows : Nat)
  | moveDown (rows : Nat)
  | moveForward (cols : Nat)
  | moveBackward (cols : Nat)
  | moveDownAndCr (rows : Nat)
  | moveUpAndCr (rows : Nat)
  | carriageReturn
  | linefeed
  | newline
  | backspace
  | putTab (count : Nat)
  | setHorizontalTabstop
  | clearTabs (mode : TabulationClearMode)
  | setTabs (interval : Nat)
  | insertBlank (count : Nat)
  | deleteChars (count : Nat)
  | eraseChars (count : Nat)
  | clearLine (mode : LineClearMode)
  | clearScreen (mode : ClearMode)
  | scrollUp (rows : Nat)
  | scrollDown (rows : Nat)
  | insertBlankLines (rows : Nat)
  | deleteLines (rows : Nat)
  | setScrollingRegion (top : Nat) (bottom : Option Nat)
  | saveCursorPosition
  | restoreCursorPosition
  | reverseIndex
  | resetState
  | terminalAttribute (attr : Attr)
  | privateMode (mode : Nat) (enabled : Bool)
  | setTitle (title : Option String)
  | setHyperlink (link : Option TerminalHyperlink)
  | keypadApplicationMode (enabled : Bool)
  | bell
  | identifyTerminal
  | deviceStatus (status : Nat)
  | marker (marker : String)
  | takeEvents
  | resize (rows cols : Nat)

/-- The terminal after a call. -/
def apply
    (unicode : UnicodeWidth)
    (terminal : Terminal)
    (call : Call) : Terminal :=
  match call with
  | .input ch => terminal.input unicode ch
  | .goto line col => terminal.goto line col
  | .gotoLine line => terminal.goto line terminal.cursorCol
  | .gotoCol col => terminal.goto terminal.cursorRow col
  | .moveUp rows => terminal.moveUp rows
  | .moveDown rows => terminal.moveDown rows
  | .moveForward cols =>
      { terminal with
        cursorCol := min (terminal.cursorCol + cols) (terminal.cols - 1) }
  | .moveBackward cols =>
      { terminal with cursorCol := terminal.cursorCol - cols }
  | .moveDownAndCr rows => (terminal.moveDown rows).carriageReturn
  | .moveUpAndCr rows => (terminal.moveUp rows).carriageReturn
  | .carriageReturn => terminal.carriageReturn
  | .linefeed => terminal.lineFeed
  | .newline => terminal.lineFeed.carriageReturn
  | .backspace => { terminal with cursorCol := terminal.cursorCol - 1 }
  | .putTab count => terminal.putTab count
  | .setHorizontalTabstop => terminal.setHorizontalTabstop
  | .clearTabs mode => terminal.clearTabs mode
  | .setTabs interval => terminal.setTabs interval
  | .insertBlank count => terminal.insertBlank count
  | .deleteChars count => terminal.deleteChars count
  | .eraseChars count => terminal.eraseChars count
  | .clearLine mode => terminal.clearLine mode
  | .clearScreen mode => terminal.clearScreen mode
  | .scrollUp rows => terminal.scrollRegionUp rows
  | .scrollDown rows => terminal.scrollRegionDown rows
  | .insertBlankLines rows => terminal.insertBlankLines rows
  | .deleteLines rows => terminal.deleteLines rows
  | .setScrollingRegion top bottom => terminal.setScrollingRegion top bottom
  | .saveCursorPosition =>
      { terminal with savedCursor := (terminal.cursorRow, terminal.cursorCol) }
  | .restoreCursorPosition => terminal.restoreCursorPosition
  | .reverseIndex => terminal.reverseIndex
  | .resetState => terminal.resetState
  | .terminalAttribute attr =>
      { terminal with template := applyAttr terminal.template attr }
  | .privateMode mode enabled => terminal.updatePrivateMode mode enabled
  | .setTitle title => { terminal with title := title }.push (.title title)
  | .setHyperlink link =>
      { terminal with template := { terminal.template with hyperlink := link } }
  | .keypadApplicationMode enabled => terminal.setKeypad enabled
  | .bell => terminal.push .bell
  | .identifyTerminal => terminal.push (.ptyWrite "\x1b[?62;4c")
  | .deviceStatus status => terminal.deviceStatus status
  | .marker marker =>
      terminal.push (.vividMarker marker terminal.cursorRow terminal.cursorCol)
  | .takeEvents => { terminal with events := [] }
  | .resize rows cols => terminal.resize rows cols

end Terminal
end Vvmux
