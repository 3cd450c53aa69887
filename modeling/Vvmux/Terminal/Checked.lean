import Vvmux.Library.Bounded
import Vvmux.Library.Vectors
import Vvmux.Terminal.History
import Vvmux.Terminal.Pairing

/-!
# The terminal with every access checked

The methods of `Terminal` access by access: each index, slice, subtraction
and clamp of the source is one that can abort, and `none` is the panic.  The
theorems show that on a terminal of consistent sizes no access aborts, and
that the methods compute what their unchecked counterparts compute.
-/

namespace Vvmux

open Library (checkedSub clamp?)
open Library.Vectors
open Screen (Cell)

namespace Terminal
namespace Checked

/-! ## The methods -/

section

variable (terminal : Terminal)

/-- `&mut self.grid[row]`, then a change of that row. -/
def updateRow
    (row : Nat)
    (change : Row → Option Row) :
    Option Terminal := do
  let grid ← update? terminal.grid row change
  some { terminal with grid := grid }

/-- `self.grid_wrapped[row] = true`. -/
def markWrapped
    (row : Nat) :
    Option Terminal := do
  let gridWrapped ← assign? terminal.gridWrapped row true
  some { terminal with gridWrapped := gridWrapped }

/-- `Terminal::resize`. -/
def resize
    (rows cols : Nat) :
    Option Terminal := do
  let rows := max rows 1
  let cols := max cols 1
  let lastRow ← checkedSub rows 1
  let lastCol ← checkedSub cols 1
  some
    { terminal with
      grid := resizeGrid terminal.grid rows cols
      alternateGrid := resizeGrid terminal.alternateGrid rows cols
      gridWrapped := resized terminal.gridWrapped rows false
      alternateGridWrapped := resized terminal.alternateGridWrapped rows false
      tabStops :=
        if terminal.tabStopsCustomized then
          resized terminal.tabStops cols false
        else
          defaultTabStops cols 8
      rows := rows
      cols := cols
      cursorRow := min terminal.cursorRow lastRow
      cursorCol := min terminal.cursorCol lastCol
      scrollTop := 0
      scrollBottom := rows
      events := terminal.events ++ [.damage] }

/-- One turn of the loop of `scroll_region_up`. -/
def scrollUpOnce :
    Option Terminal := do
  let (removed, grid) ← remove? terminal.grid terminal.scrollTop
  let (removedWrapped, gridWrapped) ←
    remove? terminal.gridWrapped terminal.scrollTop
  let retains := terminal.scrollTop = 0 ∧
    terminal.scrollBottom = terminal.rows ∧ terminal.alternateScreen = false
  let history :=
    if retains then terminal.history ++ [removed] else terminal.history
  let historyWrapped :=
    if retains then terminal.historyWrapped ++ [removedWrapped]
    else terminal.historyWrapped
  let excess := if retains then history.length - terminal.historyLimit else 0
  let last ← checkedSub terminal.scrollBottom 1
  let grid ← insert? grid last (List.replicate terminal.cols terminal.blank)
  let gridWrapped ← insert? gridWrapped last false
  some
    { terminal with
      history := history.drop excess
      historyWrapped := historyWrapped.drop excess
      grid := grid
      gridWrapped := gridWrapped }

/-- `Terminal::scroll_region_up`. -/
def scrollRegionUp
    (count : Nat) :
    Option Terminal := do
  let count := min count (terminal.scrollBottom - terminal.scrollTop)
  let scrolled ← repeat? scrollUpOnce count terminal
  some
    (if 0 < count then (scrolled.push (.gridScroll count)).damage
    else scrolled)

/-- One turn of the loop of `scroll_region_down`. -/
def scrollDownOnce :
    Option Terminal := do
  let last ← checkedSub terminal.scrollBottom 1
  let (_, grid) ← remove? terminal.grid last
  let (_, gridWrapped) ← remove? terminal.gridWrapped last
  let grid ← insert? grid terminal.scrollTop
    (List.replicate terminal.cols terminal.blank)
  let gridWrapped ← insert? gridWrapped terminal.scrollTop false
  some { terminal with grid := grid, gridWrapped := gridWrapped }

/-- `Terminal::scroll_region_down`. -/
def scrollRegionDown
    (count : Nat) :
    Option Terminal := do
  let count := min count (terminal.scrollBottom - terminal.scrollTop)
  let scrolled ← repeat? scrollDownOnce count terminal
  some
    (if 0 < count then (scrolled.push (.gridScroll (-count))).damage
    else scrolled)

end

/-- `Terminal::line_feed`. -/
def lineFeed (terminal : Terminal) : Option Terminal :=
  if terminal.scrollBottom ≤ terminal.cursorRow + 1 then
    scrollRegionUp terminal 1
  else do
    let lastRow ← checkedSub terminal.rows 1
    some { terminal with cursorRow := min (terminal.cursorRow + 1) lastRow }

/-- `self.grid[row][column].tab_width = None` if the tab satisfies `covers`. -/
def dropTab
    (covers : Nat → Nat → Bool)
    (cells : Row)
    (column : Nat) :
    Option Row := do
  let cell ← cells[column]?
  match cell.tabWidth with
  | some width =>
      if covers column width.toNat then
        update? cells column fun cell => some cell.dropTab
      else
        some cells
  | none => some cells

section

variable (terminal : Terminal)

/-- The loop over the columns of a row that forgets tabs. -/
def dropTabs
    (row : Nat)
    (covers : Nat → Nat → Bool) :
    Option Terminal := do
  let grid ← each? (List.range terminal.cols)
    (fun grid column =>
      update? grid row fun cells => dropTab covers cells column)
    terminal.grid
  some { terminal with grid := grid }

/-- `Terminal::clear_row_range`. -/
def clearRowRange
    (row start stop : Nat) :
    Option Terminal := do
  let start := min start terminal.cols
  let stop := min stop terminal.cols
  let untabbed ← dropTabs terminal row fun column width =>
    column < stop && start < column + width
  let written ← updateRow untabbed row fun cells =>
    fill? cells start stop terminal.blank
  some written.damage

/-- `Terminal::invalidate_tab_at`. -/
def invalidateTabAt
    (row column : Nat) : Option Terminal :=
  dropTabs terminal row fun start width =>
    start ≤ column && column < start + width

/-- `self.grid[row][column] = cell`. -/
def writeCell
    (row column : Nat)
    (cell : GridCell) : Option Terminal :=
  updateRow terminal row fun cells => assign? cells column cell

/-- The combining branch of `input`. -/
def combine
    (ch : Char) :
    Option Terminal := do
  let column := terminal.cursorCol - 1
  let written ← updateRow terminal terminal.cursorRow fun cells =>
    update? cells column fun cell =>
      some { cell with combining := cell.combining.push ch }
  some written.damage

/-- `input` continues in the next row. -/
def nextRow :
    Option Terminal := do
  let marked ← markWrapped terminal terminal.cursorRow
  lineFeed { marked with cursorCol := 0 }

end

/-- The first wrap of `input`. -/
def wrapPending (terminal : Terminal) : Option Terminal :=
  if terminal.cols ≤ terminal.cursorCol then nextRow terminal
  else some terminal

/-- The second wrap of `input`. -/
def wrapWide (terminal : Terminal) (width : Nat) : Option Terminal :=
  if width = 2 ∧ terminal.cols ≤ terminal.cursorCol + 1 then do
    let untabbed ←
      invalidateTabAt terminal terminal.cursorRow terminal.cursorCol
    let spaced ← writeCell untabbed terminal.cursorRow terminal.cursorCol
      { terminal.blank with leadingWideSpacer := true }
    nextRow spaced
  else
    some terminal

section

variable (terminal : Terminal)

/-- `input` forgets the tabs that the glyph is going to cover. -/
def untabGlyph
    (width : Nat) :
    Option Terminal := do
  let untabbed ←
    invalidateTabAt terminal terminal.cursorRow terminal.cursorCol
  if width = 2 then
    invalidateTabAt untabbed terminal.cursorRow (terminal.cursorCol + 1)
  else
    some untabbed

/-- The last part of `input`: write the glyph under the cursor. -/
def putGlyph
    (ch : Char)
    (width : Nat) :
    Option Terminal := do
  let untabbed ← untabGlyph terminal width
  let written ← writeCell untabbed terminal.cursorRow terminal.cursorCol
    (terminal.glyph ch)
  let column := terminal.cursorCol + 1
  if width = 2 ∧ column < terminal.cols then do
    let continued ←
      writeCell written terminal.cursorRow column terminal.continuation
    some
      { continued with
        cursorCol := column + 1
        inputs := terminal.inputs + 1 }
  else
    some { written with cursorCol := column, inputs := terminal.inputs + 1 }

/-- `Handler::input`. -/
def input
    (unicode : UnicodeWidth)
    (terminal : Terminal)
    (ch : Char) : Option Terminal :=
  let width := unicode.columns ch
  if width = 0 then
    combine terminal ch
  else do
    let pending ← wrapPending terminal
    let wrapped ← wrapWide pending width
    let written ← putGlyph wrapped ch width
    some written.damage

/-- `Handler::goto`. -/
def goto
    (line : Int)
    (col : Nat) :
    Option Terminal := do
  let lastRow ← checkedSub terminal.rows 1
  let lastCol ← checkedSub terminal.cols 1
  some
    { terminal with
      cursorRow := min line.toNat lastRow
      cursorCol := min col lastCol }

/-- `Handler::move_forward`. -/
def moveForward
    (cols : Nat) :
    Option Terminal := do
  let lastCol ← checkedSub terminal.cols 1
  some { terminal with cursorCol := min (terminal.cursorCol + cols) lastCol }

/-- One turn of the loop of `put_tab`. -/
def putTabOnce :
    Option Terminal := do
  let start := terminal.cursorCol
  let lastCol ← checkedSub terminal.cols 1
  let next := ((List.range terminal.cols).find? fun column =>
    start < column && terminal.tabStops.getD column false).getD lastCol
  let tabbed ←
    if start < next then do
      let width ← checkedSub next start
      updateRow terminal terminal.cursorRow fun cells =>
        update? cells start fun cell =>
          some
            { cell with
              tabWidth :=
                if width < 65536 then some (UInt16.ofNat width) else none }
    else
      some terminal
  some { tabbed with cursorCol := next }

end

/-- `Handler::put_tab`. -/
def putTab (terminal : Terminal) (count : Nat) : Option Terminal :=
  repeat? putTabOnce count terminal

/-- `Handler::insert_blank`: the cells move from the right end. -/
def insertBlank
    (terminal : Terminal)
    (count : Nat) :
    Option Terminal := do
  let room ← checkedSub terminal.cols terminal.cursorCol
  let count := min count room
  let stop ← checkedSub terminal.cols count
  let written ← updateRow terminal terminal.cursorRow fun cells => do
    let plain := cells.map GridCell.dropTab
    let moved ← each?
      (List.range' terminal.cursorCol (stop - terminal.cursorCol)).reverse
      (fun cells column => do
        let cell ← cells[column]?
        assign? cells (column + count) cell)
      plain
    fill? moved terminal.cursorCol (terminal.cursorCol + count) terminal.blank
  some written.damage

/-- `Handler::delete_chars`. -/
def deleteChars
    (terminal : Terminal)
    (count : Nat) :
    Option Terminal := do
  let room ← checkedSub terminal.cols terminal.cursorCol
  let count := min count room
  let stop ← checkedSub terminal.cols count
  let written ← updateRow terminal terminal.cursorRow fun cells => do
    let plain := cells.map GridCell.dropTab
    let moved ← each?
      (List.range' terminal.cursorCol (stop - terminal.cursorCol))
      (fun cells column => do
        let cell ← cells[column + count]?
        assign? cells column cell)
      plain
    fill? moved stop moved.length terminal.blank
  some written.damage

/-- `Handler::erase_chars`. -/
def eraseChars (terminal : Terminal) (count : Nat) : Option Terminal :=
  clearRowRange terminal terminal.cursorRow terminal.cursorCol
    (min (terminal.cursorCol + count) terminal.cols)

/-- `Handler::clear_line`. -/
def clearLine (terminal : Terminal) (mode : LineClearMode) : Option Terminal :=
  match mode with
  | .right =>
      clearRowRange terminal terminal.cursorRow terminal.cursorCol terminal.cols
  | .left =>
      clearRowRange terminal terminal.cursorRow 0 (terminal.cursorCol + 1)
  | .all => clearRowRange terminal terminal.cursorRow 0 terminal.cols

/-- `for row in start..stop { self.clear_row_range(row, 0, self.cols) }`. -/
def clearRows (terminal : Terminal) (start stop : Nat) : Option Terminal :=
  each? (List.range' start (stop - start))
    (fun cleared row => clearRowRange cleared row 0 cleared.cols) terminal

/-- `Handler::clear_screen`. -/
def clearScreen (terminal : Terminal) (mode : ClearMode) : Option Terminal :=
  match mode with
  | .below => do
      let here ← clearRowRange terminal terminal.cursorRow terminal.cursorCol
        terminal.cols
      clearRows here (terminal.cursorRow + 1) terminal.rows
  | .above => do
      let before ← clearRows terminal 0 terminal.cursorRow
      clearRowRange before terminal.cursorRow 0 (terminal.cursorCol + 1)
  | .all => some (terminal.clearScreen .all)
  | .saved => some (terminal.clearScreen .saved)

/-- `Handler::insert_blank_lines`. -/
def insertBlankLines
    (terminal : Terminal)
    (rows : Nat) :
    Option Terminal := do
  let scrolled ← scrollRegionDown
    { terminal with scrollTop := terminal.cursorRow } rows
  some { scrolled with scrollTop := terminal.scrollTop }

/-- `Handler::delete_lines`. -/
def deleteLines
    (terminal : Terminal)
    (rows : Nat) :
    Option Terminal := do
  let scrolled ← scrollRegionUp
    { terminal with scrollTop := terminal.cursorRow } rows
  some { scrolled with scrollTop := terminal.scrollTop }

/-- `Handler::set_scrolling_region`. -/
def setScrollingRegion
    (terminal : Terminal)
    (top : Nat)
    (bottom : Option Nat) :
    Option Terminal := do
  let lastRow ← checkedSub terminal.rows 1
  let scrollTop := min (top - 1) lastRow
  let scrollBottom ←
    clamp? (bottom.getD terminal.rows) (scrollTop + 1) terminal.rows
  goto { terminal with scrollTop := scrollTop, scrollBottom := scrollBottom }
    0 0

/-- `Handler::restore_cursor_position`. -/
def restoreCursorPosition
    (terminal : Terminal) :
    Option Terminal := do
  let lastRow ← checkedSub terminal.rows 1
  let lastCol ← checkedSub terminal.cols 1
  some
    { terminal with
      cursorRow := min terminal.savedCursor.1 lastRow
      cursorCol := min terminal.savedCursor.2 lastCol }

/-- `Handler::reverse_index`. -/
def reverseIndex (terminal : Terminal) : Option Terminal :=
  if terminal.cursorRow = terminal.scrollTop then scrollRegionDown terminal 1
  else some { terminal with cursorRow := terminal.cursorRow - 1 }

/-- The terminal after a call, or a panic.  The calls that are left to the
unchecked `apply` read and write fields only, with saturating subtractions
and lookups that tolerate an index out of range. -/
def apply
    (unicode : UnicodeWidth)
    (terminal : Terminal)
    (call : Call) : Option Terminal :=
  match call with
  | .input ch => input unicode terminal ch
  | .goto line col => goto terminal line col
  | .gotoLine line => goto terminal line terminal.cursorCol
  | .gotoCol col => goto terminal terminal.cursorRow col
  | .moveForward cols => moveForward terminal cols
  | .linefeed => lineFeed terminal
  | .newline => do
      let fed ← lineFeed terminal
      some fed.carriageReturn
  | .putTab count => putTab terminal count
  | .insertBlank count => insertBlank terminal count
  | .deleteChars count => deleteChars terminal count
  | .eraseChars count => eraseChars terminal count
  | .clearLine mode => clearLine terminal mode
  | .clearScreen mode => clearScreen terminal mode
  | .scrollUp rows => scrollRegionUp terminal rows
  | .scrollDown rows => scrollRegionDown terminal rows
  | .insertBlankLines rows => insertBlankLines terminal rows
  | .deleteLines rows => deleteLines terminal rows
  | .setScrollingRegion top bottom => setScrollingRegion terminal top bottom
  | .restoreCursorPosition => restoreCursorPosition terminal
  | .reverseIndex => reverseIndex terminal
  | .resize rows cols => resize terminal rows cols
  | _ => some (terminal.apply unicode call)

/-! ## No access of a method aborts -/

variable {terminal : Terminal}

variable {row : Nat}

/-- Changing a row of the grid. -/
theorem updateRow_eq
    (sized : WellSized terminal)
    (inside : row < terminal.rows)
    {change : Row → Option Row}
    (plain : Row → Row)
    (changes : ∀ cells : Row, cells.length = terminal.cols →
      change cells = some (plain cells)) :
    updateRow terminal row change = some (terminal.modifyRow row plain) := by
  have length := sized.grid
  unfold updateRow
  rw [@update?_eq_modify _ terminal.grid row (by omega) change plain]
  · rfl
  · intro cells known
    exact changes cells (sized.gridCols cells (List.mem_of_getElem? known))

theorem markWrapped_eq
    (sized : WellSized terminal)
    (inside : row < terminal.rows) :
    markWrapped terminal row = some (terminal.markWrapped row) := by
  have length := sized.gridWrapped
  unfold markWrapped
  rw [assign?_of_lt (by omega)]
  rfl

theorem resize_eq
    (terminal : Terminal)
    (rows cols : Nat) :
    resize terminal rows cols = some (terminal.resize rows cols) := by
  unfold resize
  dsimp only
  rw [Library.checkedSub_eq_some (show 1 ≤ max rows 1 by omega),
    Library.checkedSub_eq_some (show 1 ≤ max cols 1 by omega)]
  rfl

section

variable (sized : WellSized terminal)
include sized

theorem scrollUpOnce_eq :
    scrollUpOnce terminal = some terminal.scrollUpOnce := by
  have top := sized.scrollTop
  have bottom := sized.scrollBottom
  have grid := sized.grid
  have wrapped := sized.gridWrapped
  have shorter : (terminal.grid.eraseIdx terminal.scrollTop).length =
      terminal.grid.length - 1 := List.length_eraseIdx_of_lt (by omega)
  have shorterWrapped :
      (terminal.gridWrapped.eraseIdx terminal.scrollTop).length =
        terminal.gridWrapped.length - 1 := List.length_eraseIdx_of_lt (by omega)
  unfold scrollUpOnce
  rw [@remove?_of_lt _ terminal.grid _ (by omega) [],
    @remove?_of_lt _ terminal.gridWrapped _ (by omega) false,
    Library.checkedSub_eq_some (show 1 ≤ terminal.scrollBottom by omega)]
  simp only [Option.bind_eq_bind, Option.bind_some]
  rw [insert?_of_le (by omega), insert?_of_le (by omega)]
  rfl

theorem scrollDownOnce_eq :
    scrollDownOnce terminal = some terminal.scrollDownOnce := by
  have top := sized.scrollTop
  have bottom := sized.scrollBottom
  have grid := sized.grid
  have wrapped := sized.gridWrapped
  have shorter : (terminal.grid.eraseIdx (terminal.scrollBottom - 1)).length =
      terminal.grid.length - 1 := List.length_eraseIdx_of_lt (by omega)
  have shorterWrapped :
      (terminal.gridWrapped.eraseIdx (terminal.scrollBottom - 1)).length =
        terminal.gridWrapped.length - 1 := List.length_eraseIdx_of_lt (by omega)
  unfold scrollDownOnce
  rw [Library.checkedSub_eq_some (show 1 ≤ terminal.scrollBottom by omega)]
  simp only [Option.bind_eq_bind, Option.bind_some]
  rw [@remove?_of_lt _ terminal.grid _ (by omega) [],
    @remove?_of_lt _ terminal.gridWrapped _ (by omega) false]
  simp only [Option.bind_some]
  rw [insert?_of_le (by omega), insert?_of_le (by omega)]
  rfl

theorem scrollRegionUp_eq
    (count : Nat) :
    scrollRegionUp terminal count = some (terminal.scrollRegionUp count) := by
  unfold scrollRegionUp
  dsimp only
  rw [repeat?_eq_iterate WellSized
    (fun _ held => ⟨scrollUpOnce_eq held, held.scrollUpOnce⟩) _ sized]
  rfl

theorem scrollRegionDown_eq
    (count : Nat) :
    scrollRegionDown terminal count =
      some (terminal.scrollRegionDown count) := by
  unfold scrollRegionDown
  dsimp only
  rw [repeat?_eq_iterate WellSized
    (fun _ held => ⟨scrollDownOnce_eq held, held.scrollDownOnce⟩) _ sized]
  rfl

theorem lineFeed_eq :
    lineFeed terminal = some terminal.lineFeed := by
  unfold lineFeed Terminal.lineFeed
  split
  · exact scrollRegionUp_eq sized 1
  · rw [Library.checkedSub_eq_some (show 1 ≤ terminal.rows from sized.rows)]
    rfl

end

section

variable (sized : WellSized terminal)
include sized

/-- The loop that forgets tabs. -/
theorem dropTabs_eq
    (inside : row < terminal.rows)
    (covers : Nat → Nat → Bool) :
    dropTabs terminal row covers =
      some (terminal.modifyRow row fun cells => cells.dropTabs covers) := by
  have length := sized.grid
  have once : ∀ (cells : Row) (column : Nat) (cell : GridCell),
      cells[column]? = some cell →
      dropTab covers cells column = some (cells.set column
        (match cell.tabWidth with
        | some width => if covers column width.toNat then cell.dropTab else cell
        | none => cell)) := by
    intro cells column cell known
    have kept : cells.set column cell = cells := by
      obtain ⟨long, equal⟩ := List.getElem?_eq_some_iff.1 known
      rw [← equal, List.set_getElem_self]
    unfold dropTab
    rw [known]
    simp only [Option.bind_eq_bind, Option.bind_some]
    cases cell.tabWidth with
    | none => simp only [kept]
    | some width =>
        dsimp only
        split
        · exact update?_of_getElem? known rfl
        · rw [kept]
  have whole : ∀ cells : Row, cells.length = terminal.cols →
      each? (List.range terminal.cols) (dropTab covers) cells =
        some (cells.dropTabs covers) := by
    intro cells cols
    rw [each?_rewrite once terminal.cols (by omega), Row.dropTabs]
    congr 1
    apply List.ext_getElem?
    intro column
    rw [List.getElem?_mapIdx, List.getElem?_mapIdx]
    cases known : cells[column]? with
    | none => rfl
    | some cell =>
        have fits : column < terminal.cols := by
          rw [← cols]
          exact (List.getElem?_eq_some_iff.1 known).1
        cases tabs : cell.tabWidth with
        | none | some width => simp only [Option.map_some, fits, if_true, tabs]
  unfold dropTabs
  rw [@each?_update? _ terminal.grid row (by omega) _ (dropTab covers)
    (fun cells => cells.dropTabs covers)]
  · rfl
  · intro cells known
    exact whole cells (sized.gridCols cells (List.mem_of_getElem? known))

theorem invalidateTabAt_eq
    (inside : row < terminal.rows)
    (column : Nat) :
    invalidateTabAt terminal row column =
      some (terminal.invalidateTabAt row column) :=
  dropTabs_eq sized inside _

theorem clearRowRange_eq
    {row start stop : Nat}
    (inside : row < terminal.rows)
    (ordered : min start terminal.cols ≤ min stop terminal.cols) :
    clearRowRange terminal row start stop =
      some (terminal.clearRowRange row start stop) := by
  have dropped := @WellSized.modifyRow terminal sized row
    (fun cells => cells.dropTabs fun column width =>
      column < min stop terminal.cols && min start terminal.cols < column + width)
    (by
      intro cells length
      simpa using length)
  unfold clearRowRange
  dsimp only
  rw [dropTabs_eq sized inside]
  simp only [Option.bind_eq_bind, Option.bind_some]
  rw [updateRow_eq dropped inside (fun cells =>
    cells.mapIdx fun column cell =>
      if min start terminal.cols ≤ column ∧ column < min stop terminal.cols
      then terminal.blank else cell)]
  · simp only [Option.bind_some, Terminal.clearRowRange, modifyRow,
      List.modify_modify_eq]
    rfl
  · intro cells length
    have cols : cells.length = terminal.cols := length
    rw [fill?_of_le ordered (by omega),
      clearRange_eq_splice ordered (by omega)]

theorem writeCell_eq
    {row column : Nat}
    (rowInside : row < terminal.rows)
    (columnInside : column < terminal.cols)
    (cell : GridCell) :
    writeCell terminal row column cell =
      some (terminal.modifyRow row fun cells => cells.set column cell) := by
  apply updateRow_eq sized rowInside
  intro cells length
  exact assign?_of_lt (by omega) cell

theorem combine_eq
    (ch : Char) : combine terminal ch = some (terminal.combine ch) := by
  have column := sized.cursorCol
  have cols := sized.cols
  unfold combine
  dsimp only
  rw [updateRow_eq sized sized.cursorRow (fun cells =>
    cells.modify (terminal.cursorCol - 1) fun cell =>
      { cell with combining := cell.combining.push ch })]
  · rfl
  · intro cells length
    exact update?_eq_modify (by omega) fun _ _ => rfl

end

theorem nextRow_eq
    (sized : WellSized terminal) :
    nextRow terminal = some terminal.nextRow := by
  unfold nextRow
  rw [markWrapped_eq sized sized.cursorRow]
  exact lineFeed_eq (sized.markWrapped _).carriageReturn

theorem wrapPending_eq
    (sized : WellSized terminal) :
    wrapPending terminal = some terminal.wrapPending := by
  unfold wrapPending Terminal.wrapPending
  split
  · exact nextRow_eq sized
  · rfl

section

variable (sized : WellSized terminal)
include sized

theorem wrapWide_eq
    (inside : terminal.cursorCol < terminal.cols)
    (width : Nat) :
    wrapWide terminal width = some (terminal.wrapWide width) := by
  unfold wrapWide Terminal.wrapWide
  split
  · have untabbed := sized.invalidateTabAt terminal.cursorRow terminal.cursorCol
    rw [invalidateTabAt_eq sized sized.cursorRow]
    simp only [Option.bind_eq_bind, Option.bind_some]
    rw [writeCell_eq untabbed sized.cursorRow inside]
    exact nextRow_eq (untabbed.setCell _ _ _)
  · rfl

theorem untabGlyph_eq
    (width : Nat) :
    untabGlyph terminal width = some (terminal.untabGlyph width) := by
  unfold untabGlyph Terminal.untabGlyph
  rw [invalidateTabAt_eq sized sized.cursorRow]
  simp only [Option.bind_eq_bind, Option.bind_some]
  split
  · exact invalidateTabAt_eq (sized.invalidateTabAt _ _) sized.cursorRow _
  · rfl

theorem putGlyph_eq
    (inside : terminal.cursorCol < terminal.cols)
    (ch : Char)
    (width : Nat) :
    putGlyph terminal ch width = some (terminal.putGlyph ch width) := by
  have untabbed := sized.untabGlyph width
  have row := untabGlyph_cursorRow terminal width
  have cols := untabGlyph_cols terminal width
  have rowInside : terminal.cursorRow < (terminal.untabGlyph width).rows := by
    rw [← row]
    exact untabbed.cursorRow
  have written := untabbed.setCell terminal.cursorRow terminal.cursorCol
    (terminal.glyph ch)
  unfold putGlyph Terminal.putGlyph
  rw [untabGlyph_eq sized]
  simp only [Option.bind_eq_bind, Option.bind_some]
  rw [writeCell_eq untabbed rowInside (by omega)]
  simp only [Option.bind_some]
  split
  · next fits =>
      rw [writeCell_eq written rowInside (by
        show terminal.cursorCol + 1 < (terminal.untabGlyph width).cols
        omega)]
      rfl
  · rfl

theorem input_eq
    (unicode : UnicodeWidth)
    (ch : Char) :
    input unicode terminal ch = some (terminal.input unicode ch) := by
  have pending := wrapPending_inside sized.cols
  have wide := wrapWide_inside pending (unicode.columns ch)
  unfold input Terminal.input
  dsimp only
  split
  · exact combine_eq sized ch
  · rw [wrapPending_eq sized]
    simp only [Option.bind_eq_bind, Option.bind_some]
    rw [wrapWide_eq sized.wrapPending pending]
    simp only [Option.bind_some]
    rw [putGlyph_eq (sized.wrapPending.wrapWide _) wide.1]
    rfl

theorem goto_eq
    (line : Int)
    (col : Nat) : goto terminal line col = some (terminal.goto line col) := by
  unfold goto
  rw [Library.checkedSub_eq_some (show 1 ≤ terminal.rows from sized.rows),
    Library.checkedSub_eq_some (show 1 ≤ terminal.cols from sized.cols)]
  rfl

end

theorem putTabOnce_eq
    (sized : WellSized terminal) :
    putTabOnce terminal = some terminal.putTabOnce := by
  have next := sized.nextTabStop_lt terminal.cursorCol
  unfold putTabOnce Terminal.putTabOnce
  rw [Library.checkedSub_eq_some (show 1 ≤ terminal.cols from sized.cols)]
  simp only [Option.bind_eq_bind, Option.bind_some]
  have isNext : ((List.range terminal.cols).find? fun column =>
      terminal.cursorCol < column && terminal.tabStops.getD column false).getD
        (terminal.cols - 1) = terminal.nextTabStop terminal.cursorCol := rfl
  rw [isNext]
  by_cases further : terminal.cursorCol <
      terminal.nextTabStop terminal.cursorCol
  · rw [if_pos further, if_pos further,
      Library.checkedSub_eq_some (Nat.le_of_lt further)]
    simp only [Option.bind_some]
    rw [updateRow_eq sized sized.cursorRow (fun cells =>
      cells.modify terminal.cursorCol fun cell =>
        { cell with
          tabWidth :=
            if terminal.nextTabStop terminal.cursorCol - terminal.cursorCol <
                65536 then
              some (UInt16.ofNat
                (terminal.nextTabStop terminal.cursorCol - terminal.cursorCol))
            else none })]
    · rfl
    · intro cells length
      exact update?_eq_modify (by omega) fun _ _ => rfl
  · rw [if_neg further, if_neg further]

theorem putTab_eq
    (sized : WellSized terminal)
    (count : Nat) : putTab terminal count = some (terminal.putTab count) :=
  repeat?_eq_iterate WellSized
    (fun _ held => ⟨putTabOnce_eq held, held.putTabOnce⟩) count sized

/-- The loop of `insert_blank` moves the cells behind the cursor to the
right, from the last one on. -/
theorem shiftRight
    {body : Row → Nat → Option Row}
    {count : Nat}
    (moves : ∀ (cells : Row) column,
      body cells column = do
        let cell ← cells[column]?
        assign? cells (column + count) cell)
    (start moved : Nat)
    (cells : Row)
    (inside : start + moved + count ≤ cells.length) :
    ∃ result, each? (List.range' start moved).reverse body cells =
        some result ∧ result.length = cells.length ∧
      ∀ column, result[column]? =
        if start + count ≤ column ∧ column < start + moved + count then
          cells[column - count]?
        else
          cells[column]? := by
  induction moved generalizing cells with
  | zero =>
      refine ⟨cells, rfl, rfl, ?_⟩
      intro column
      rw [if_neg (by omega)]
  | succ moved ih =>
      have here : cells[start + moved]? = some cells[start + moved] :=
        List.getElem?_eq_getElem (by omega)
      obtain ⟨result, runs, length, known⟩ := ih
        (cells.set (start + moved + count) cells[start + moved])
        (by rw [List.length_set]; omega)
      have once : body cells (start + moved) =
          some (cells.set (start + moved + count) cells[start + moved]) := by
        rw [moves, here]
        exact assign?_of_lt (by omega) _
      refine ⟨result, ?_, by rw [length, List.length_set], ?_⟩
      · unfold each? at runs ⊢
        rw [List.range'_concat, List.reverse_append, Nat.one_mul]
        simp only [List.reverse_cons, List.reverse_nil, List.nil_append,
          List.cons_append, List.foldlM_cons]
        rw [once]
        exact runs
      · intro column
        rw [known, List.getElem?_set, List.getElem?_set]
        rcases Nat.lt_trichotomy column (start + moved + count) with
          before | same | after
        · by_cases covered : start + count ≤ column
          · rw [if_pos ⟨covered, before⟩, if_neg (by omega),
              if_pos ⟨covered, by omega⟩]
          · rw [if_neg (by omega), if_neg (by omega), if_neg (by omega)]
        · rw [if_neg (by omega), if_pos same.symm, if_pos (by omega),
            if_pos (by omega), same, Nat.add_sub_cancel, here]
        · rw [if_neg (by omega), if_neg (by omega), if_neg (by omega)]

/-- The loop of `delete_chars` moves them to the left, from the first on. -/
theorem shiftLeft
    {body : Row → Nat → Option Row}
    {count : Nat}
    (moves : ∀ (cells : Row) column,
      body cells column = do
        let cell ← cells[column + count]?
        assign? cells column cell)
    (start moved : Nat)
    (cells : Row)
    (inside : start + moved + count ≤ cells.length) :
    ∃ result, each? (List.range' start moved) body cells = some result ∧
      result.length = cells.length ∧
      ∀ column, result[column]? =
        if start ≤ column ∧ column < start + moved then
          cells[column + count]?
        else
          cells[column]? := by
  induction moved with
  | zero =>
      refine ⟨cells, rfl, rfl, ?_⟩
      intro column
      rw [if_neg (by omega)]
  | succ moved ih =>
      obtain ⟨result, runs, length, known⟩ := ih (by omega)
      have here : result[start + moved + count]? =
          some cells[start + moved + count] := by
        rw [known, if_neg (by omega), List.getElem?_eq_getElem (by omega)]
      have long : start + moved < result.length := by omega
      have once : body result (start + moved) =
          some (result.set (start + moved) cells[start + moved + count]) := by
        rw [moves, here]
        exact assign?_of_lt long _
      refine ⟨result.set (start + moved) cells[start + moved + count], ?_,
        by rw [List.length_set, length], ?_⟩
      · unfold each? at runs ⊢
        rw [List.range'_concat, List.foldlM_append, runs, Nat.one_mul]
        simp only [Option.bind_eq_bind, Option.bind_some, List.foldlM_cons,
          List.foldlM_nil]
        rw [once]
        rfl
      · intro column
        rw [List.getElem?_set, known]
        by_cases same : start + moved = column
        · rw [if_pos same, if_pos long, if_pos (by omega), ← same,
            List.getElem?_eq_getElem (by omega)]
        · rw [if_neg same]
          by_cases covered : start ≤ column ∧ column < start + moved
          · rw [if_pos covered, if_pos (by omega)]
          · rw [if_neg covered, if_neg (by omega)]

section

variable (sized : WellSized terminal)
include sized

theorem insertBlank_eq
    (count : Nat) :
    insertBlank terminal count = some (terminal.insertBlank count) := by
  have column := sized.cursorCol
  unfold insertBlank
  rw [Library.checkedSub_eq_some column]
  simp only [Option.bind_eq_bind, Option.bind_some]
  generalize isCount : min count (terminal.cols - terminal.cursorCol) = blanks
  rw [Library.checkedSub_eq_some (show blanks ≤ terminal.cols by omega)]
  simp only [Option.bind_some]
  rw [updateRow_eq sized sized.cursorRow (fun cells =>
    cells.insertBlank terminal.cursorCol blanks terminal.blank)]
  · rw [← isCount]
    rfl
  · intro cells length
    obtain ⟨moved, runs, movedLength, known⟩ := @shiftRight _ blanks (fun _ _ => rfl)
      terminal.cursorCol (terminal.cols - blanks - terminal.cursorCol)
      (cells.map GridCell.dropTab) (by rw [List.length_map]; omega)
    simp only [Option.bind_eq_bind] at runs
    rw [List.length_map, length] at movedLength
    rw [runs]
    simp only [Option.bind_some]
    rw [fill?_of_le (by omega) (by omega), Nat.add_sub_cancel_left]
    unfold Row.insertBlank
    congr 1
    congr 1
    · congr 1
      apply List.ext_getElem?
      intro position
      rw [List.getElem?_take, List.getElem?_take]
      split
      · rw [known, if_neg (by omega)]
      · rfl
    · apply List.ext_getElem?
      intro position
      rw [List.getElem?_drop, List.getElem?_take, List.getElem?_drop, known]
      rcases Nat.lt_or_ge position (terminal.cols - blanks - terminal.cursorCol)
        with inside | outside
      · have source : terminal.cursorCol + blanks + position - blanks =
            terminal.cursorCol + position := by omega
        rw [if_pos (by omega), if_pos (by rw [length]; exact inside), source]
      · rw [if_neg (by omega), if_neg (by rw [length]; omega),
          List.getElem?_eq_none_iff, List.length_map]
        omega

theorem deleteChars_eq
    (count : Nat) :
    deleteChars terminal count = some (terminal.deleteChars count) := by
  have column := sized.cursorCol
  unfold deleteChars
  rw [Library.checkedSub_eq_some column]
  simp only [Option.bind_eq_bind, Option.bind_some]
  generalize isCount : min count (terminal.cols - terminal.cursorCol) = blanks
  rw [Library.checkedSub_eq_some (show blanks ≤ terminal.cols by omega)]
  simp only [Option.bind_some]
  rw [updateRow_eq sized sized.cursorRow (fun cells =>
    cells.deleteChars terminal.cursorCol blanks terminal.blank)]
  · rw [← isCount]
    rfl
  · intro cells length
    obtain ⟨moved, runs, movedLength, known⟩ := @shiftLeft _ blanks (fun _ _ => rfl)
      terminal.cursorCol (terminal.cols - blanks - terminal.cursorCol)
      (cells.map GridCell.dropTab) (by rw [List.length_map]; omega)
    simp only [Option.bind_eq_bind] at runs
    rw [List.length_map, length] at movedLength
    rw [runs]
    simp only [Option.bind_some]
    rw [fill?_of_le (by omega) le_rfl, movedLength]
    have rest : terminal.cols - (terminal.cols - blanks) = blanks := by omega
    unfold Row.deleteChars
    rw [rest, List.drop_of_length_le (by omega), List.append_nil]
    congr 1
    congr 1
    apply List.ext_getElem?
    intro position
    rw [List.getElem?_take, known, List.getElem?_append, List.length_take,
      List.length_map, List.getElem?_take, List.getElem?_drop]
    rcases Nat.lt_or_ge position terminal.cursorCol with before | after
    · rw [if_pos (by omega), if_neg (by omega), if_pos (by omega),
        if_pos before]
    · have source : terminal.cursorCol + blanks +
          (position - min terminal.cursorCol cells.length) =
            position + blanks := by omega
      rw [if_neg (show ¬ position < min terminal.cursorCol cells.length by
        omega), source]
      rcases Nat.lt_or_ge position (terminal.cols - blanks) with
        inside | outside
      · rw [if_pos inside, if_pos (by omega)]
      · rw [if_neg (by omega), eq_comm, List.getElem?_eq_none_iff,
          List.length_map]
        omega

theorem clearLine_eq
    (mode : LineClearMode) :
    clearLine terminal mode = some (terminal.clearLine mode) := by
  have column := sized.cursorCol
  cases mode with
  | right | left | all =>
      exact clearRowRange_eq sized sized.cursorRow (by omega)

theorem clearRows_eq
    {start stop : Nat}
    (inside : stop ≤ terminal.rows) :
    clearRows terminal start stop = some (terminal.clearRows start stop) := by
  unfold clearRows
  have loop := @each?_eq_foldl Terminal (List.range' start (stop - start))
    (fun cleared row => clearRowRange cleared row 0 cleared.cols)
    (fun cleared row => cleared.clearRowRange row 0 cleared.cols)
    (fun cleared => WellSized cleared ∧ cleared.rows = terminal.rows)
    (by
      intro cleared row held member
      obtain ⟨clearedSized, rows⟩ := held
      obtain ⟨position, bound, same⟩ := List.mem_range'.1 member
      refine ⟨clearRowRange_eq clearedSized (by omega) (by omega),
        clearedSized.clearRowRange _ _ _, ?_⟩
      rw [(sameSize_clearRowRange cleared row 0 cleared.cols).rows, rows])
    terminal ⟨sized, rfl⟩
  exact loop.1

theorem clearScreen_eq
    (mode : ClearMode) :
    clearScreen terminal mode = some (terminal.clearScreen mode) := by
  have column := sized.cursorCol
  have row := sized.cursorRow
  cases mode with
  | below =>
      unfold clearScreen
      dsimp only
      rw [clearRowRange_eq sized row (by omega)]
      have same := sameSize_clearRowRange terminal terminal.cursorRow
        terminal.cursorCol terminal.cols
      exact clearRows_eq (sized.clearRowRange _ _ _) (by rw [same.rows])
  | above =>
      unfold clearScreen
      dsimp only
      rw [clearRows_eq sized (by omega)]
      have same := sameSize_clearRows terminal 0 terminal.cursorRow
      exact clearRowRange_eq (sized.clearRows _ _) (by rw [same.rows]; exact row)
        (by omega)
  | all => rfl
  | saved => rfl

/-- Below the region the loop of a scroll from the cursor makes no turn. -/
theorem insertBlankLines_eq
    (rows : Nat) :
    insertBlankLines terminal rows = some (terminal.insertBlankLines rows) := by
  unfold insertBlankLines Terminal.insertBlankLines
  rcases Nat.lt_or_ge terminal.cursorRow terminal.scrollBottom with
    inside | below
  · have region : WellSized { terminal with scrollTop := terminal.cursorRow } :=
      { sized with scrollTop := inside }
    rw [scrollRegionDown_eq region]
    rfl
  · rw [scrollRegionDown_of_empty below]
    unfold scrollRegionDown
    simp only [Nat.sub_eq_zero_of_le below, Nat.min_zero]
    rfl

theorem deleteLines_eq
    (rows : Nat) :
    deleteLines terminal rows = some (terminal.deleteLines rows) := by
  unfold deleteLines Terminal.deleteLines
  rcases Nat.lt_or_ge terminal.cursorRow terminal.scrollBottom with
    inside | below
  · have region : WellSized { terminal with scrollTop := terminal.cursorRow } :=
      { sized with scrollTop := inside }
    rw [scrollRegionUp_eq region]
    rfl
  · rw [scrollRegionUp_of_empty below]
    unfold scrollRegionUp
    simp only [Nat.sub_eq_zero_of_le below, Nat.min_zero]
    rfl

theorem setScrollingRegion_eq
    (top : Nat)
    (bottom : Option Nat) :
    setScrollingRegion terminal top bottom =
      some (terminal.setScrollingRegion top bottom) := by
  have rows := sized.rows
  unfold setScrollingRegion Terminal.setScrollingRegion
  rw [Library.checkedSub_eq_some (show 1 ≤ terminal.rows from rows)]
  simp only [Option.bind_eq_bind, Option.bind_some]
  rw [Library.clamp?_eq_some (by omega)]
  simp only [Option.bind_some]
  have bounds : max (min (top - 1) (terminal.rows - 1) + 1)
      (min (bottom.getD terminal.rows) terminal.rows) =
        min (max (bottom.getD terminal.rows)
          (min (top - 1) (terminal.rows - 1) + 1)) terminal.rows := by
    omega
  rw [bounds]
  apply goto_eq
  exact { sized with
    scrollTop := by
      show min (top - 1) (terminal.rows - 1) < min _ terminal.rows
      omega
    scrollBottom := Nat.min_le_right _ _ }

end

theorem restoreCursorPosition_eq
    (sized : WellSized terminal) :
    restoreCursorPosition terminal = some terminal.restoreCursorPosition := by
  unfold restoreCursorPosition
  rw [Library.checkedSub_eq_some (show 1 ≤ terminal.rows from sized.rows),
    Library.checkedSub_eq_some (show 1 ≤ terminal.cols from sized.cols)]
  rfl

theorem reverseIndex_eq
    (sized : WellSized terminal) :
    reverseIndex terminal = some terminal.reverseIndex := by
  unfold reverseIndex Terminal.reverseIndex
  split
  · exact scrollRegionDown_eq sized 1
  · rfl

/-- No access of a call aborts, and the call does what the unchecked one
does. -/
theorem apply_eq
    (sized : WellSized terminal)
    (unicode : UnicodeWidth)
    (call : Call) :
    apply unicode terminal call = some (terminal.apply unicode call) := by
  cases call with
  | input ch => exact input_eq sized unicode ch
  | goto line col => exact goto_eq sized line col
  | gotoLine line => exact goto_eq sized line _
  | gotoCol col => exact goto_eq sized _ col
  | moveForward cols =>
      simp only [apply, moveForward]
      rw [Library.checkedSub_eq_some (show 1 ≤ terminal.cols from sized.cols)]
      rfl
  | linefeed => exact lineFeed_eq sized
  | newline =>
      simp only [apply]
      rw [lineFeed_eq sized]
      rfl
  | putTab count => exact putTab_eq sized count
  | insertBlank count => exact insertBlank_eq sized count
  | deleteChars count => exact deleteChars_eq sized count
  | eraseChars count =>
      have column := sized.cursorCol
      exact clearRowRange_eq sized sized.cursorRow (by omega)
  | clearLine mode => exact clearLine_eq sized mode
  | clearScreen mode => exact clearScreen_eq sized mode
  | scrollUp rows => exact scrollRegionUp_eq sized rows
  | scrollDown rows => exact scrollRegionDown_eq sized rows
  | insertBlankLines rows => exact insertBlankLines_eq sized rows
  | deleteLines rows => exact deleteLines_eq sized rows
  | setScrollingRegion top bottom =>
      exact setScrollingRegion_eq sized top bottom
  | restoreCursorPosition => exact restoreCursorPosition_eq sized
  | reverseIndex => exact reverseIndex_eq sized
  | resize rows cols => exact resize_eq terminal rows cols
  | _ => rfl

end Checked

/-! ## Runs -/

/-- The sizes that the rest of the program relies on. -/
structure StructurallySound (terminal : Terminal) : Prop where
  grid : terminal.grid.length = terminal.rows
  gridCols : ∀ row ∈ terminal.grid, row.length = terminal.cols
  alternateGrid : terminal.alternateGrid.length = terminal.rows
  alternateCols : ∀ row ∈ terminal.alternateGrid, row.length = terminal.cols
  gridWrapped : terminal.gridWrapped.length = terminal.rows
  alternateGridWrapped : terminal.alternateGridWrapped.length = terminal.rows
  historyWrapped : terminal.historyWrapped.length = terminal.history.length
  history : terminal.history.length ≤ terminal.historyLimit
  cursorRow : terminal.cursorRow < terminal.rows
  cursorCol : terminal.cursorCol ≤ terminal.cols
  scrollTop : terminal.scrollTop < terminal.scrollBottom
  scrollBottom : terminal.scrollBottom ≤ terminal.rows

theorem StructurallySound.of
    {terminal : Terminal}
    (sized : WellSized terminal)
    (within : terminal.history.length ≤ terminal.historyLimit) :
    StructurallySound terminal where
  grid := sized.grid
  gridCols := sized.gridCols
  alternateGrid := sized.alternateGrid
  alternateCols := sized.alternateCols
  gridWrapped := sized.gridWrapped
  alternateGridWrapped := sized.alternateWrapped
  historyWrapped := sized.historyWrapped
  history := within
  cursorRow := sized.cursorRow
  cursorCol := sized.cursorCol
  scrollTop := sized.scrollTop
  scrollBottom := sized.scrollBottom

/-- The terminal after a sequence of calls, or a panic of one of them. -/
def runChecked
    (unicode : UnicodeWidth)
    (terminal : Terminal)
    (calls : List Call) : Option Terminal :=
  calls.foldlM (Checked.apply unicode) terminal

theorem runChecked_sound
    {terminal : Terminal}
    (sized : WellSized terminal)
    (within : terminal.history.length ≤ terminal.historyLimit)
    (unicode : UnicodeWidth)
    (calls : List Call) :
    ∃ after, runChecked unicode terminal calls = some after ∧
      after = calls.foldl (apply unicode) terminal ∧
      StructurallySound after := by
  induction calls generalizing terminal with
  | nil => exact ⟨terminal, rfl, rfl, .of sized within⟩
  | cons call rest ih =>
      obtain ⟨after, runs, same, sound⟩ := ih
        (sized.apply unicode call)
        ((KeepsLimit.apply unicode terminal call).within within)
      refine ⟨after, ?_, same, sound⟩
      unfold runChecked at runs ⊢
      rw [List.foldlM_cons, Checked.apply_eq sized]
      exact runs

/-- From every initial size and history limit, no sequence of calls panics,
and every terminal on the way is structurally sound. -/
theorem calls_never_panic
    (unicode : UnicodeWidth)
    (rows cols historyLimit : Nat)
    (calls : List Call) :
    ∃ after,
      runChecked unicode (Terminal.new rows cols historyLimit) calls =
        some after ∧
      after = calls.foldl (apply unicode)
        (Terminal.new rows cols historyLimit) ∧
      StructurallySound after :=
  runChecked_sound (WellSized.new rows cols historyLimit) (Nat.zero_le _)
    unicode calls

end Terminal
end Vvmux
