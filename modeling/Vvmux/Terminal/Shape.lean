import Vvmux.Terminal.Handler
import Vvmux.Library.Machine
import Mathlib.Data.List.InsertIdx

/-!
# The shape of a terminal

Which rows a call leaves in the grids and in the history, and the sizes that
every call keeps: both grids have one row of the terminal's columns for each
of its rows, the cursor stands in the grid or directly behind its row, and the
scroll region lies inside the grid.
-/

namespace Vvmux

open Screen (Cell)

namespace Terminal

/-! ## The lists behind the grid -/

@[simp] theorem length_resized
    {Item : Type}
    (items : List Item)
    (length : Nat)
    (fill : Item) : (resized items length fill).length = length := by
  simp [resized]
  omega

@[simp] theorem length_blankGrid
    (rows cols : Nat) : (blankGrid rows cols).length = rows := by
  simp [blankGrid]

variable {rows cols : Nat}

theorem mem_blankGrid
    {row : Row}
    (member : row ∈ blankGrid rows cols) : row = List.replicate cols {} :=
  List.eq_of_mem_replicate member

@[simp] theorem length_resizeGrid
    (grid : List Row)
    (rows cols : Nat) : (resizeGrid grid rows cols).length = rows := by
  simp [resizeGrid]

theorem mem_resizeGrid
    {grid : List Row}
    {row : Row}
    (member : row ∈ resizeGrid grid rows cols) :
    (∃ old ∈ grid.take rows, row = resized old cols {}) ∨
      row = List.replicate cols {} := by
  obtain ⟨old, known, same⟩ := List.mem_map.1 member
  subst same
  rcases List.mem_append.1 known with kept | added
  · exact Or.inl ⟨old, kept, rfl⟩
  · rw [List.eq_of_mem_replicate added]
    simp [resized]

@[simp] theorem length_defaultTabStops
    (cols interval : Nat) : (defaultTabStops cols interval).length = cols := by
  simp [defaultTabStops]

theorem mem_modify
    {rows : List Row}
    {index : Nat}
    {change : Row → Row}
    {row : Row}
    (member : row ∈ rows.modify index change) :
    row ∈ rows ∨ ∃ old, rows[index]? = some old ∧ row = change old := by
  obtain ⟨position, here⟩ := List.mem_iff_getElem?.1 member
  rw [List.getElem?_modify] at here
  obtain ⟨old, known, changed⟩ := Option.map_eq_some_iff.1 here
  by_cases same : index = position
  · subst same
    exact Or.inr ⟨old, known, by simpa using changed.symm⟩
  · have unchanged : old = row := by simpa [same] using changed
    exact Or.inl (unchanged ▸ List.mem_of_getElem? known)

variable {erased inserted : Nat}

theorem mem_eraseIdx_insertIdx
    {rows : List Row}
    {fresh row : Row}
    (member : row ∈ (rows.eraseIdx erased).insertIdx inserted fresh) :
    row ∈ rows ∨ row = fresh := by
  rcases List.eq_or_mem_of_mem_insertIdx member with same | kept
  · exact Or.inr same
  · exact Or.inl (List.mem_of_mem_eraseIdx kept)

theorem length_eraseIdx_insertIdx
    {Item : Type}
    {items : List Item}
    (fresh : Item)
    (erasedInside : erased < items.length)
    (insertedInside : inserted < items.length) :
    ((items.eraseIdx erased).insertIdx inserted fresh).length =
      items.length := by
  have shorter : (items.eraseIdx erased).length = items.length - 1 :=
    List.length_eraseIdx_of_lt erasedInside
  rw [List.length_insertIdx_of_le_length (by omega), shorter]
  omega

namespace Row

variable (row : Row)

@[simp] theorem length_dropTabs
    (covers : Nat → Nat → Bool) :
    (row.dropTabs covers).length = row.length := by
  simp [dropTabs]

@[simp] theorem length_clearRange
    (start stop : Nat)
    (blank : GridCell) :
    (row.clearRange start stop blank).length = row.length := by
  simp [clearRange]

@[simp] theorem length_invalidateTabAt
    (column : Nat) : (row.invalidateTabAt column).length = row.length := by
  simp [invalidateTabAt]

theorem length_insertBlank
    (cursor count : Nat)
    (blank : GridCell)
    (fits : cursor + count ≤ row.length) :
    (row.insertBlank cursor count blank).length = row.length := by
  simp [insertBlank]
  omega

theorem length_deleteChars
    (cursor count : Nat)
    (blank : GridCell)
    (fits : cursor + count ≤ row.length) :
    (row.deleteChars cursor count blank).length = row.length := by
  simp [deleteChars]
  omega

end Row

/-! ## What the primitives leave alone -/

/-- Only the event list tells whether damage was recorded. -/
theorem damage_eq
    (terminal : Terminal) :
    terminal.damage = { terminal with events := terminal.damage.events } := by
  unfold damage
  split
  · rfl
  · rfl

/-- A cell without text: what blanks and the template are. -/
structure Plain (cell : Cell) : Prop where
  ch : cell.ch = ' '
  combining : cell.combining = ""
  wideContinuation : cell.wideContinuation = false
  leadingWideSpacer : cell.leadingWideSpacer = false
  tabWidth : cell.tabWidth = none

theorem plain_blank (terminal : Terminal) : Plain terminal.blank.toCell :=
  ⟨rfl, rfl, rfl, rfl, rfl⟩

variable {template : Cell}

theorem Plain.applyAttr
    (plain : Plain template)
    (attr : Attr) : Plain (applyAttr template attr) := by
  obtain ⟨ch, combining, wideContinuation, leadingWideSpacer, tabWidth⟩ := plain
  cases attr with
  | reset => exact ⟨rfl, rfl, rfl, rfl, rfl⟩
  | _ => exact ⟨ch, combining, wideContinuation, leadingWideSpacer, tabWidth⟩

/-- Scrolling writes the rows, their wrap flags, the history and events. -/
structure Scrolled (before after : Terminal) : Prop where
  frame : after =
    { before with
      grid := after.grid
      gridWrapped := after.gridWrapped
      history := after.history
      historyWrapped := after.historyWrapped
      events := after.events }

theorem Scrolled.refl (terminal : Terminal) : Scrolled terminal terminal :=
  ⟨rfl⟩

variable {first second third : Terminal}

theorem Scrolled.trans
    (before : Scrolled first second)
    (after : Scrolled second third) : Scrolled first third := by
  constructor
  rw [after.frame, before.frame]

variable {before after : Terminal}

theorem Scrolled.pushDamage
    (scrolled : Scrolled before after)
    (event : TerminalEvent) : Scrolled before (after.push event).damage := by
  constructor
  rw [damage_eq, push, scrolled.frame]

theorem scrolled_scrollUpOnce
    (terminal : Terminal) : Scrolled terminal terminal.scrollUpOnce :=
  ⟨rfl⟩

theorem scrolled_scrollDownOnce
    (terminal : Terminal) : Scrolled terminal terminal.scrollDownOnce :=
  ⟨rfl⟩

/-- A loop of scrolls writes the rows, their wrap flags and the history. -/
theorem scrolled_iterate
    {once : Terminal → Terminal}
    (step : ∀ terminal, Scrolled terminal (once terminal))
    (terminal : Terminal)
    (turns : Nat) : Scrolled terminal (once^[turns] terminal) :=
  Function.Iterate.rec (Scrolled terminal) (Scrolled.refl terminal)
    (fun _ earlier => earlier.trans (step _)) turns

/-- Scrolling a region keeps what each turn and an event keep. -/
theorem scroll_rule
    (Holds : Terminal → Prop)
    {once : Terminal → Terminal}
    {terminal : Terminal}
    (held : Holds terminal)
    (step : ∀ terminal, Holds terminal → Holds (once terminal))
    (announced : ∀ terminal event,
      Holds terminal → Holds (terminal.push event).damage)
    (turns : Nat)
    (event : TerminalEvent) :
    Holds
      (if 0 < turns then ((once^[turns] terminal).push event).damage
      else once^[turns] terminal) := by
  have turned := Function.Iterate.rec Holds held step turns
  split
  · exact announced _ event turned
  · exact turned

theorem scrolled_scrollRegionUp
    (terminal : Terminal)
    (count : Nat) : Scrolled terminal (terminal.scrollRegionUp count) :=
  scroll_rule (Scrolled terminal) (.refl terminal)
    (fun _ earlier => earlier.trans (scrolled_scrollUpOnce _))
    (fun _ event earlier => earlier.pushDamage event) _ _

theorem scrolled_scrollRegionDown
    (terminal : Terminal)
    (count : Nat) : Scrolled terminal (terminal.scrollRegionDown count) :=
  scroll_rule (Scrolled terminal) (.refl terminal)
    (fun _ earlier => earlier.trans (scrolled_scrollDownOnce _))
    (fun _ event earlier => earlier.pushDamage event) _ _

/-- An empty region does not scroll. -/
theorem scrollRegionUp_of_empty
    {terminal : Terminal}
    (empty : terminal.scrollBottom ≤ terminal.scrollTop)
    (count : Nat) : terminal.scrollRegionUp count = terminal := by
  simp [scrollRegionUp, Nat.sub_eq_zero_of_le empty]

theorem scrollRegionDown_of_empty
    {terminal : Terminal}
    (empty : terminal.scrollBottom ≤ terminal.scrollTop)
    (count : Nat) : terminal.scrollRegionDown count = terminal := by
  simp [scrollRegionDown, Nat.sub_eq_zero_of_le empty]

/-- The size of a terminal and the limit of its history stay. -/
structure SameSize (before after : Terminal) : Prop where
  rows : after.rows = before.rows
  cols : after.cols = before.cols
  historyLimit : after.historyLimit = before.historyLimit

theorem SameSize.refl (terminal : Terminal) : SameSize terminal terminal :=
  ⟨rfl, rfl, rfl⟩

theorem SameSize.trans
    (before : SameSize first second)
    (after : SameSize second third) : SameSize first third :=
  ⟨after.rows.trans before.rows, after.cols.trans before.cols,
    after.historyLimit.trans before.historyLimit⟩

theorem Scrolled.sameSize
    (scrolled : Scrolled before after) : SameSize before after := by
  rw [scrolled.frame]
  exact ⟨rfl, rfl, rfl⟩

section

variable (terminal : Terminal)

theorem sameSize_damage : SameSize terminal terminal.damage := by
  rw [damage_eq]
  exact ⟨rfl, rfl, rfl⟩

theorem nextRow_cursorCol : terminal.nextRow.cursorCol = 0 := by
  unfold nextRow lineFeed
  split
  · rw [(scrolled_scrollRegionUp _ _).frame]
  · rfl

theorem sameSize_nextRow : SameSize terminal terminal.nextRow := by
  have marked : SameSize terminal
      { terminal.markWrapped terminal.cursorRow with cursorCol := 0 } :=
    ⟨rfl, rfl, rfl⟩
  unfold nextRow lineFeed
  split
  · exact marked.trans (scrolled_scrollRegionUp _ _).sameSize
  · exact ⟨rfl, rfl, rfl⟩

theorem sameSize_wrapPending : SameSize terminal terminal.wrapPending := by
  unfold wrapPending
  split
  · exact sameSize_nextRow terminal
  · exact SameSize.refl terminal

theorem sameSize_wrapWide
    (width : Nat) : SameSize terminal (terminal.wrapWide width) := by
  unfold wrapWide
  split
  · refine SameSize.trans ?_ (sameSize_nextRow _)
    exact ⟨rfl, rfl, rfl⟩
  · exact SameSize.refl terminal

theorem sameSize_putGlyph
    (ch : Char)
    (width : Nat) : SameSize terminal (terminal.putGlyph ch width) := by
  have untabbed : SameSize terminal (terminal.untabGlyph width) := by
    unfold untabGlyph
    split <;> exact ⟨rfl, rfl, rfl⟩
  unfold putGlyph
  dsimp only
  split
  · exact untabbed.trans ⟨rfl, rfl, rfl⟩
  · exact untabbed.trans ⟨rfl, rfl, rfl⟩

theorem sameSize_input
    (unicode : UnicodeWidth)
    (terminal : Terminal)
    (ch : Char) : SameSize terminal (terminal.input unicode ch) := by
  unfold input
  dsimp only
  split
  · refine SameSize.trans ?_ (sameSize_damage _)
    exact ⟨rfl, rfl, rfl⟩
  · exact ((sameSize_wrapPending terminal).trans (sameSize_wrapWide _ _)).trans
      ((sameSize_putGlyph _ _ _).trans (sameSize_damage _))

theorem untabGlyph_cols
    (width : Nat) : (terminal.untabGlyph width).cols = terminal.cols := by
  unfold untabGlyph
  split <;> rfl

theorem untabGlyph_cursorRow
    (width : Nat) :
    (terminal.untabGlyph width).cursorRow = terminal.cursorRow := by
  unfold untabGlyph
  split <;> rfl

end

/-- After the first wrap the cursor stands on a cell. -/
theorem wrapPending_inside
    {terminal : Terminal}
    (cols : 0 < terminal.cols) :
    terminal.wrapPending.cursorCol < terminal.wrapPending.cols := by
  rw [(sameSize_wrapPending terminal).cols]
  unfold wrapPending
  split
  · rw [nextRow_cursorCol]
    exact cols
  · omega

/-- The second wrap keeps it there, with room for a wide glyph if the row has
two columns at all. -/
theorem wrapWide_inside
    {terminal : Terminal}
    (inside : terminal.cursorCol < terminal.cols)
    (width : Nat) :
    (terminal.wrapWide width).cursorCol < (terminal.wrapWide width).cols ∧
      (width = 2 → 1 < terminal.cols →
        (terminal.wrapWide width).cursorCol + 1 <
          (terminal.wrapWide width).cols) := by
  rw [(sameSize_wrapWide terminal width).cols]
  unfold wrapWide
  split
  · rw [nextRow_cursorCol]
    omega
  · omega

/-! ## Sizes -/

/-- The sizes that every call keeps. -/
structure WellSized (terminal : Terminal) : Prop where
  rows : 0 < terminal.rows
  cols : 0 < terminal.cols
  grid : terminal.grid.length = terminal.rows
  alternateGrid : terminal.alternateGrid.length = terminal.rows
  gridCols : ∀ row ∈ terminal.grid, row.length = terminal.cols
  alternateCols : ∀ row ∈ terminal.alternateGrid, row.length = terminal.cols
  gridWrapped : terminal.gridWrapped.length = terminal.rows
  alternateWrapped : terminal.alternateGridWrapped.length = terminal.rows
  historyWrapped :
    terminal.historyWrapped.length = terminal.history.length
  cursorRow : terminal.cursorRow < terminal.rows
  cursorCol : terminal.cursorCol ≤ terminal.cols
  scrollTop : terminal.scrollTop < terminal.scrollBottom
  scrollBottom : terminal.scrollBottom ≤ terminal.rows
  tabStops : terminal.tabStops.length = terminal.cols
  template : Plain terminal.template

namespace WellSized

variable {terminal : Terminal}

theorem new
    (rows cols historyLimit : Nat) :
    WellSized (Terminal.new rows cols historyLimit) where
  rows := Nat.lt_of_lt_of_le Nat.one_pos (Nat.le_max_right _ _)
  cols := Nat.lt_of_lt_of_le Nat.one_pos (Nat.le_max_right _ _)
  grid := by simp [Terminal.new]
  alternateGrid := by simp [Terminal.new]
  gridCols := by
    intro row member
    rw [mem_blankGrid member]
    simp [Terminal.new]
  alternateCols := by
    intro row member
    rw [mem_blankGrid member]
    simp [Terminal.new]
  gridWrapped := by simp [Terminal.new]
  alternateWrapped := by simp [Terminal.new]
  historyWrapped := rfl
  cursorRow := Nat.lt_of_lt_of_le Nat.one_pos (Nat.le_max_right _ _)
  cursorCol := Nat.zero_le _
  scrollTop := Nat.lt_of_lt_of_le Nat.one_pos (Nat.le_max_right _ _)
  scrollBottom := by simp [Terminal.new]
  tabStops := by simp [Terminal.new]
  template := ⟨rfl, rfl, rfl, rfl, rfl⟩

theorem withEvents
    (sized : WellSized terminal)
    (events : List TerminalEvent) :
    WellSized { terminal with events := events } :=
  { sized with }

theorem damage (sized : WellSized terminal) : WellSized terminal.damage := by
  rw [damage_eq]
  exact sized.withEvents _

section

variable (sized : WellSized terminal)
include sized

theorem push (event : TerminalEvent) : WellSized (terminal.push event) :=
  sized.withEvents _

theorem withModes
    (modes : TerminalModes) : WellSized { terminal with modes := modes } :=
  { sized with }

theorem withTemplate
    (plain : Plain template) :
    WellSized { terminal with template := template } :=
  { sized with template := plain }

theorem withCursor
    {row column : Nat}
    (rowInside : row < terminal.rows)
    (columnInside : column ≤ terminal.cols) :
    WellSized { terminal with cursorRow := row, cursorCol := column } :=
  { sized with cursorRow := rowInside, cursorCol := columnInside }

theorem withTabStops
    {tabStops : List Bool}
    (length : tabStops.length = terminal.cols) :
    WellSized
      { terminal with tabStopsCustomized := true, tabStops := tabStops } :=
  { sized with tabStops := length }

end

/-- Changes of a row that keep its length. -/
theorem modifyRow
    (sized : WellSized terminal)
    {index : Nat}
    {change : Row → Row}
    (keepsLength : ∀ row, row.length = terminal.cols →
      (change row).length = terminal.cols) :
    WellSized (terminal.modifyRow index change) :=
  { sized with
    grid := by simpa [Terminal.modifyRow] using sized.grid
    gridCols := by
      intro row member
      rcases mem_modify member with kept | ⟨old, known, changed⟩
      · exact sized.gridCols row kept
      · subst changed
        exact keepsLength old
          (sized.gridCols old (List.mem_of_getElem? known)) }

theorem markWrapped
    (sized : WellSized terminal)
    (row : Nat) : WellSized (terminal.markWrapped row) :=
  { sized with
    gridWrapped := by simpa [Terminal.markWrapped] using sized.gridWrapped }

theorem clearRowRange
    (sized : WellSized terminal)
    (row start stop : Nat) :
    WellSized (terminal.clearRowRange row start stop) := by
  apply WellSized.damage
  apply sized.modifyRow
  intro row length
  simpa using length

theorem invalidateTabAt
    (sized : WellSized terminal)
    (row column : Nat) : WellSized (terminal.invalidateTabAt row column) := by
  apply sized.modifyRow
  intro row length
  simpa using length

/-- One row of the grid makes room for a blank one. -/
theorem turnRow
    (sized : WellSized terminal)
    {removed inserted : Nat}
    (removes : removed < terminal.rows)
    (inserts : inserted < terminal.rows) :
    WellSized
      { terminal with
        grid := (terminal.grid.eraseIdx removed).insertIdx inserted
          (List.replicate terminal.cols terminal.blank)
        gridWrapped :=
          (terminal.gridWrapped.eraseIdx removed).insertIdx inserted false } :=
  { sized with
    grid := (length_eraseIdx_insertIdx _ (by rwa [sized.grid])
      (by rwa [sized.grid])).trans sized.grid
    gridWrapped := (length_eraseIdx_insertIdx _ (by rwa [sized.gridWrapped])
      (by rwa [sized.gridWrapped])).trans sized.gridWrapped
    gridCols := by
      intro row member
      rcases mem_eraseIdx_insertIdx member with kept | fresh
      · exact sized.gridCols row kept
      · rw [fresh, List.length_replicate] }

theorem scrollUpOnce
    (sized : WellSized terminal) : WellSized terminal.scrollUpOnce := by
  have top := sized.scrollTop
  have bottom := sized.scrollBottom
  have turned := @turnRow _ sized terminal.scrollTop (terminal.scrollBottom - 1)
    (by omega) (by omega)
  exact
  { turned with
    historyWrapped := by
      have same := sized.historyWrapped
      simp only [Terminal.scrollUpOnce]
      split
      · simp [same]
      · simpa using same }

theorem scrollDownOnce
    (sized : WellSized terminal) : WellSized terminal.scrollDownOnce := by
  have top := sized.scrollTop
  have bottom := sized.scrollBottom
  exact sized.turnRow (by omega) (by omega)

theorem scrollRegionUp
    (sized : WellSized terminal)
    (count : Nat) : WellSized (terminal.scrollRegionUp count) :=
  scroll_rule WellSized sized (fun _ held => held.scrollUpOnce)
    (fun _ event held => (held.push event).damage) _ _

theorem scrollRegionDown
    (sized : WellSized terminal)
    (count : Nat) : WellSized (terminal.scrollRegionDown count) :=
  scroll_rule WellSized sized (fun _ held => held.scrollDownOnce)
    (fun _ event held => (held.push event).damage) _ _

theorem lineFeed
    (sized : WellSized terminal) : WellSized terminal.lineFeed := by
  unfold Terminal.lineFeed
  split
  · exact sized.scrollRegionUp 1
  · have rows := sized.rows
    exact sized.withCursor (by omega) sized.cursorCol

theorem nextRow (sized : WellSized terminal) : WellSized terminal.nextRow :=
  ((sized.markWrapped _).withCursor sized.cursorRow (Nat.zero_le _)).lineFeed

theorem wrapPending
    (sized : WellSized terminal) : WellSized terminal.wrapPending := by
  unfold Terminal.wrapPending
  split
  · exact sized.nextRow
  · exact sized

section

variable (sized : WellSized terminal)
include sized

theorem setCell
    (row column : Nat)
    (cell : GridCell) :
    WellSized (terminal.modifyRow row fun cells => cells.set column cell) := by
  apply sized.modifyRow
  intro row length
  simpa using length

theorem modifyCell
    (row column : Nat)
    (change : GridCell → GridCell) :
    WellSized
      (terminal.modifyRow row fun cells => cells.modify column change) := by
  apply sized.modifyRow
  intro row length
  simpa using length

theorem wrapWide (width : Nat) : WellSized (terminal.wrapWide width) := by
  unfold Terminal.wrapWide
  split
  · exact ((sized.invalidateTabAt _ _).setCell _ _ _).nextRow
  · exact sized

theorem untabGlyph (width : Nat) : WellSized (terminal.untabGlyph width) := by
  unfold Terminal.untabGlyph
  dsimp only
  split
  · exact (sized.invalidateTabAt _ _).invalidateTabAt _ _
  · exact sized.invalidateTabAt _ _

theorem putGlyph
    (ch : Char)
    (width : Nat)
    (inside : terminal.cursorCol < terminal.cols) :
    WellSized (terminal.putGlyph ch width) := by
  have written := (sized.untabGlyph width).setCell terminal.cursorRow
    terminal.cursorCol (terminal.glyph ch)
  have cols := untabGlyph_cols terminal width
  unfold Terminal.putGlyph
  dsimp only
  split
  · next fits =>
      have continued := written.setCell terminal.cursorRow
        (terminal.cursorCol + 1) terminal.continuation
      have bound :
          terminal.cursorCol + 1 + 1 ≤ (terminal.untabGlyph width).cols := by
        omega
      exact { continued with cursorCol := bound }
  · have bound :
        terminal.cursorCol + 1 ≤ (terminal.untabGlyph width).cols := by
      omega
    exact { written with cursorCol := bound }

theorem input
    (unicode : UnicodeWidth)
    (ch : Char) : WellSized (terminal.input unicode ch) := by
  unfold Terminal.input
  dsimp only
  split
  · exact (sized.modifyCell _ _ _).damage
  · have pending := wrapPending_inside sized.cols
    have wide := wrapWide_inside pending (unicode.columns ch)
    exact ((sized.wrapPending.wrapWide _).putGlyph ch _ wide.1).damage

theorem goto (line : Int) (col : Nat) : WellSized (terminal.goto line col) := by
  have rows := sized.rows
  exact sized.withCursor (by omega) (by omega)

theorem moveUp (rows : Nat) : WellSized (terminal.moveUp rows) := by
  have top := sized.scrollTop
  have bottom := sized.scrollBottom
  have row := sized.cursorRow
  exact sized.withCursor (by omega) sized.cursorCol

theorem moveDown (rows : Nat) : WellSized (terminal.moveDown rows) := by
  have top := sized.scrollTop
  have bottom := sized.scrollBottom
  exact sized.withCursor (by omega) sized.cursorCol

end

theorem carriageReturn
    (sized : WellSized terminal) : WellSized terminal.carriageReturn :=
  sized.withCursor sized.cursorRow (Nat.zero_le _)

theorem nextTabStop_lt
    (sized : WellSized terminal)
    (start : Nat) : terminal.nextTabStop start < terminal.cols := by
  have cols := sized.cols
  unfold Terminal.nextTabStop
  cases found : (List.range terminal.cols).find? fun column =>
      start < column && terminal.tabStops.getD column false with
  | none =>
      rw [Option.getD_none]
      omega
  | some column =>
      rw [Option.getD_some]
      exact List.mem_range.1 (List.mem_of_find?_eq_some found)

theorem putTabOnce
    (sized : WellSized terminal) : WellSized terminal.putTabOnce := by
  have next := Nat.le_of_lt (sized.nextTabStop_lt terminal.cursorCol)
  unfold Terminal.putTabOnce
  dsimp only
  split
  · exact (sized.modifyCell _ _ _).withCursor sized.cursorRow next
  · exact sized.withCursor sized.cursorRow next

section

variable (sized : WellSized terminal)
include sized

theorem putTab (count : Nat) : WellSized (terminal.putTab count) :=
  Function.Iterate.rec WellSized sized (fun _ held => held.putTabOnce) count

theorem clearTabs
    (mode : TabulationClearMode) : WellSized (terminal.clearTabs mode) := by
  apply sized.withTabStops
  cases mode with
  | current => simpa using sized.tabStops
  | all => simpa using sized.tabStops

theorem insertBlank (count : Nat) : WellSized (terminal.insertBlank count) := by
  have column := sized.cursorCol
  apply WellSized.damage
  apply sized.modifyRow
  intro row length
  rw [Row.length_insertBlank _ _ _ _ (by omega), length]

theorem deleteChars (count : Nat) : WellSized (terminal.deleteChars count) := by
  have column := sized.cursorCol
  apply WellSized.damage
  apply sized.modifyRow
  intro row length
  rw [Row.length_deleteChars _ _ _ _ (by omega), length]

theorem clearLine
    (mode : LineClearMode) : WellSized (terminal.clearLine mode) := by
  cases mode with
  | right | left | all => exact sized.clearRowRange _ _ _

theorem clearRows
    (start stop : Nat) : WellSized (terminal.clearRows start stop) := by
  unfold Terminal.clearRows
  generalize List.range' start (stop - start) = rows
  induction rows generalizing terminal with
  | nil => exact sized
  | cons row rest ih =>
      exact ih (sized.clearRowRange _ _ _)

theorem clearScreen
    (mode : ClearMode) : WellSized (terminal.clearScreen mode) := by
  cases mode with
  | below => exact (sized.clearRowRange _ _ _).clearRows _ _
  | above => exact (sized.clearRows _ _).clearRowRange _ _ _
  | all =>
      apply WellSized.damage
      apply WellSized.push
      exact { sized with
        grid := length_blankGrid _ _
        gridCols := by
          intro row member
          rw [mem_blankGrid member, List.length_replicate]
        gridWrapped := by simpa using sized.gridWrapped }
  | saved =>
      have purged :
          WellSized { terminal with history := [], historyWrapped := [] } :=
        { sized with historyWrapped := rfl }
      unfold Terminal.clearScreen
      dsimp only
      split
      · exact purged.push _
      · exact purged

/-- Scrolling below the cursor: the region starts at the cursor's row, and is
empty when the cursor stands below it. -/
theorem insertBlankLines
    (rows : Nat) : WellSized (terminal.insertBlankLines rows) := by
  unfold Terminal.insertBlankLines
  rcases Nat.lt_or_ge terminal.cursorRow terminal.scrollBottom with
    inside | below
  · have region : WellSized { terminal with scrollTop := terminal.cursorRow } :=
      { sized with scrollTop := inside }
    have scrolled := region.scrollRegionDown rows
    rw [(scrolled_scrollRegionDown _ rows).frame] at scrolled ⊢
    exact { scrolled with scrollTop := sized.scrollTop }
  · rw [scrollRegionDown_of_empty below]
    exact sized

theorem deleteLines (rows : Nat) : WellSized (terminal.deleteLines rows) := by
  unfold Terminal.deleteLines
  rcases Nat.lt_or_ge terminal.cursorRow terminal.scrollBottom with
    inside | below
  · have region : WellSized { terminal with scrollTop := terminal.cursorRow } :=
      { sized with scrollTop := inside }
    have scrolled := region.scrollRegionUp rows
    rw [(scrolled_scrollRegionUp _ rows).frame] at scrolled ⊢
    exact { scrolled with scrollTop := sized.scrollTop }
  · rw [scrollRegionUp_of_empty below]
    exact sized

theorem setScrollingRegion
    (top : Nat)
    (bottom : Option Nat) :
    WellSized (terminal.setScrollingRegion top bottom) := by
  have rows := sized.rows
  apply WellSized.goto
  exact { sized with
    scrollTop := by
      show min (top - 1) (terminal.rows - 1) < min _ terminal.rows
      omega
    scrollBottom := Nat.min_le_right _ _ }

end

theorem reverseIndex
    (sized : WellSized terminal) : WellSized terminal.reverseIndex := by
  have row := sized.cursorRow
  unfold Terminal.reverseIndex
  split
  · exact sized.scrollRegionDown 1
  · exact sized.withCursor (by omega) sized.cursorCol

theorem resetState
    (sized : WellSized terminal) : WellSized terminal.resetState := by
  apply WellSized.damage
  apply WellSized.push
  have blank : ∀ row ∈ blankGrid terminal.rows terminal.cols,
      row.length = terminal.cols := by
    intro row member
    rw [mem_blankGrid member, List.length_replicate]
  exact
  { rows := sized.rows
    cols := sized.cols
    grid := length_blankGrid _ _
    alternateGrid := length_blankGrid _ _
    gridCols := blank
    alternateCols := blank
    gridWrapped := by simpa using sized.gridWrapped
    alternateWrapped := by simpa using sized.alternateWrapped
    historyWrapped := rfl
    cursorRow := sized.rows
    cursorCol := Nat.zero_le _
    scrollTop := sized.rows
    scrollBottom := Nat.le_refl _
    tabStops := length_defaultTabStops _ _
    template := ⟨rfl, rfl, rfl, rfl, rfl⟩ }

section

variable (sized : WellSized terminal)
include sized

theorem updatePrivateMode
    (mode : Nat)
    (enabled : Bool) : WellSized (terminal.updatePrivateMode mode enabled) := by
  unfold Terminal.updatePrivateMode
  apply WellSized.push
  split
  case h_9 =>
    split
    · apply WellSized.damage
      exact { sized with
        grid := sized.alternateGrid
        alternateGrid := sized.grid
        gridCols := sized.alternateCols
        alternateCols := sized.gridCols
        gridWrapped := sized.alternateWrapped
        alternateWrapped := sized.gridWrapped
        cursorRow := sized.rows
        cursorCol := Nat.zero_le _ }
    · exact sized
  case h_10 => exact sized
  all_goals exact sized.withModes _

theorem resize (rows cols : Nat) : WellSized (terminal.resize rows cols) := by
  have positiveRows : 0 < max rows 1 :=
    Nat.lt_of_lt_of_le Nat.one_pos (Nat.le_max_right _ _)
  have positiveCols : 0 < max cols 1 :=
    Nat.lt_of_lt_of_le Nat.one_pos (Nat.le_max_right _ _)
  have length : ∀ grid : List Row,
      ∀ row ∈ resizeGrid grid (max rows 1) (max cols 1),
        row.length = max cols 1 := by
    intro grid row member
    rcases mem_resizeGrid member with ⟨old, _, same⟩ | same
    · rw [same, length_resized]
    · rw [same, List.length_replicate]
  exact
  { rows := positiveRows
    cols := positiveCols
    grid := length_resizeGrid _ _ _
    alternateGrid := length_resizeGrid _ _ _
    gridCols := length _
    alternateCols := length _
    gridWrapped := length_resized _ _ _
    alternateWrapped := length_resized _ _ _
    historyWrapped := sized.historyWrapped
    cursorRow := by
      show min terminal.cursorRow (max rows 1 - 1) < max rows 1
      omega
    cursorCol := by
      show min terminal.cursorCol (max cols 1 - 1) ≤ max cols 1
      omega
    scrollTop := positiveRows
    scrollBottom := Nat.le_refl _
    tabStops := by
      simp only [Terminal.resize]
      split
      · exact length_resized _ _ _
      · exact length_defaultTabStops _ _
    template := sized.template }

theorem deviceStatus
    (status : Nat) : WellSized (terminal.deviceStatus status) := by
  unfold Terminal.deviceStatus
  split
  · exact sized.push _
  · exact sized.push _
  · exact sized

/-- Every call keeps the sizes. -/
theorem apply
    (unicode : UnicodeWidth)
    (call : Call) : WellSized (terminal.apply unicode call) := by
  have rows := sized.rows
  have column := sized.cursorCol
  cases call with
  | input ch => exact sized.input unicode ch
  | goto line col => exact sized.goto line col
  | gotoLine line => exact sized.goto line _
  | gotoCol col => exact sized.goto _ col
  | moveUp rows => exact sized.moveUp rows
  | moveDown rows => exact sized.moveDown rows
  | moveForward cols | moveBackward cols =>
      exact sized.withCursor sized.cursorRow (by omega)
  | moveDownAndCr rows => exact (sized.moveDown rows).carriageReturn
  | moveUpAndCr rows => exact (sized.moveUp rows).carriageReturn
  | carriageReturn => exact sized.carriageReturn
  | linefeed => exact sized.lineFeed
  | newline => exact sized.lineFeed.carriageReturn
  | backspace => exact sized.withCursor sized.cursorRow (by omega)
  | putTab count => exact sized.putTab count
  | setHorizontalTabstop =>
      exact sized.withTabStops (by simpa using sized.tabStops)
  | clearTabs mode => exact sized.clearTabs mode
  | setTabs interval => exact sized.withTabStops (length_defaultTabStops _ _)
  | insertBlank count => exact sized.insertBlank count
  | deleteChars count => exact sized.deleteChars count
  | eraseChars count => exact sized.clearRowRange _ _ _
  | clearLine mode => exact sized.clearLine mode
  | clearScreen mode => exact sized.clearScreen mode
  | scrollUp rows => exact sized.scrollRegionUp rows
  | scrollDown rows => exact sized.scrollRegionDown rows
  | insertBlankLines rows => exact sized.insertBlankLines rows
  | deleteLines rows => exact sized.deleteLines rows
  | setScrollingRegion top bottom => exact sized.setScrollingRegion top bottom
  | saveCursorPosition => exact { sized with }
  | restoreCursorPosition => exact sized.withCursor (by omega) (by omega)
  | reverseIndex => exact sized.reverseIndex
  | resetState => exact sized.resetState
  | terminalAttribute attr =>
      exact sized.withTemplate (sized.template.applyAttr attr)
  | privateMode mode enabled => exact sized.updatePrivateMode mode enabled
  | setTitle title =>
      have titled : WellSized { terminal with title := title } :=
        { sized with }
      exact titled.push _
  | setHyperlink link => exact sized.withTemplate { sized.template with }
  | keypadApplicationMode enabled => exact (sized.withModes _).push _
  | bell => exact sized.push _
  | identifyTerminal => exact sized.push _
  | deviceStatus status =>
      exact sized.deviceStatus status
  | marker marker => exact sized.push _
  | takeEvents => exact sized.withEvents _
  | resize rows cols => exact sized.resize rows cols

end

end WellSized

/-! ## The size under output -/

/-- The calls that the parser and the marker scanner make. -/
def Call.isOutput :
    Call → Bool
  | .takeEvents => false
  | .resize _ _ => false
  | _ => true

section

variable (terminal : Terminal)

theorem sameSize_clearRowRange
    (row start stop : Nat) :
    SameSize terminal (terminal.clearRowRange row start stop) := by
  refine SameSize.trans ?_ (sameSize_damage _)
  exact ⟨rfl, rfl, rfl⟩

theorem sameSize_clearRows
    (start stop : Nat) : SameSize terminal (terminal.clearRows start stop) := by
  unfold clearRows
  generalize List.range' start (stop - start) = rows
  induction rows generalizing terminal with
  | nil => exact SameSize.refl terminal
  | cons row rest ih =>
      exact (sameSize_clearRowRange terminal row 0 _).trans
        (ih _)

theorem sameSize_lineFeed : SameSize terminal terminal.lineFeed := by
  unfold lineFeed
  split
  · exact (scrolled_scrollRegionUp _ _).sameSize
  · exact ⟨rfl, rfl, rfl⟩

theorem sameSize_putTab
    (count : Nat) : SameSize terminal (terminal.putTab count) := by
  unfold putTab
  induction count generalizing terminal with
  | zero => exact SameSize.refl terminal
  | succ count ih =>
      have once : SameSize terminal terminal.putTabOnce := by
        unfold putTabOnce
        dsimp only
        split <;> exact ⟨rfl, rfl, rfl⟩
      exact once.trans (ih _)

theorem sameSize_updatePrivateMode
    (mode : Nat)
    (enabled : Bool) :
    SameSize terminal (terminal.updatePrivateMode mode enabled) := by
  have pushed : ∀ updated : Terminal, SameSize terminal updated →
      SameSize terminal (updated.push (.modeChange updated.modes)) :=
    fun _ same => same.trans ⟨rfl, rfl, rfl⟩
  unfold updatePrivateMode
  apply pushed
  split
  case h_9 =>
    split
    · refine SameSize.trans ?_ (sameSize_damage _)
      exact ⟨rfl, rfl, rfl⟩
    · exact SameSize.refl terminal
  all_goals exact ⟨rfl, rfl, rfl⟩

end

/-- Output does not change the size. -/
theorem sameSize_apply
    (unicode : UnicodeWidth)
    (terminal : Terminal)
    {call : Call}
    (output : call.isOutput = true) :
    SameSize terminal (terminal.apply unicode call) := by
  have damaged : ∀ {after : Terminal}, SameSize terminal after →
      SameSize terminal after.damage :=
    fun same => same.trans (sameSize_damage _)
  cases call with
  | input ch => exact sameSize_input unicode terminal ch
  | linefeed => exact sameSize_lineFeed terminal
  | newline => exact (sameSize_lineFeed terminal).trans ⟨rfl, rfl, rfl⟩
  | putTab count => exact sameSize_putTab terminal count
  | insertBlank count | deleteChars count => exact damaged ⟨rfl, rfl, rfl⟩
  | eraseChars count => exact sameSize_clearRowRange terminal _ _ _
  | clearLine mode =>
      cases mode <;> exact sameSize_clearRowRange terminal _ _ _
  | clearScreen mode =>
      cases mode with
      | below =>
          exact (sameSize_clearRowRange terminal _ _ _).trans
            (sameSize_clearRows _ _ _)
      | above =>
          exact (sameSize_clearRows terminal _ _).trans
            (sameSize_clearRowRange _ _ _ _)
      | all => exact damaged ⟨rfl, rfl, rfl⟩
      | saved =>
          simp only [apply, clearScreen]
          split <;> exact ⟨rfl, rfl, rfl⟩
  | scrollUp rows => exact (scrolled_scrollRegionUp _ _).sameSize
  | scrollDown rows => exact (scrolled_scrollRegionDown _ _).sameSize
  | insertBlankLines rows =>
      have scrolled := (scrolled_scrollRegionDown
        { terminal with scrollTop := terminal.cursorRow } rows).sameSize
      exact { scrolled with }
  | deleteLines rows =>
      have scrolled := (scrolled_scrollRegionUp
        { terminal with scrollTop := terminal.cursorRow } rows).sameSize
      exact { scrolled with }
  | reverseIndex =>
      simp only [apply, reverseIndex]
      split
      · exact (scrolled_scrollRegionDown _ _).sameSize
      · exact ⟨rfl, rfl, rfl⟩
  | resetState => exact damaged ⟨rfl, rfl, rfl⟩
  | privateMode mode enabled =>
      exact sameSize_updatePrivateMode terminal mode enabled
  | deviceStatus status =>
      simp only [apply, deviceStatus]
      split <;> exact ⟨rfl, rfl, rfl⟩
  | takeEvents => cases output
  | resize rows cols => cases output
  | _ => exact ⟨rfl, rfl, rfl⟩

/-! ## Runs -/

/-- The terminals of all sizes, under every sequence of calls. -/
def machine (unicode : UnicodeWidth) : Library.Machine Terminal Call where
  initial terminal :=
    ∃ rows cols historyLimit, terminal = Terminal.new rows cols historyLimit
  step before call after := after = before.apply unicode call

variable {guard : Terminal → Call → Prop} {unicode : UnicodeWidth}

theorem reachable_apply
    {terminal : Terminal}
    (reachable : (machine unicode).Reachable guard terminal)
    (call : Call)
    (allowed : guard terminal call) :
    (machine unicode).Reachable guard (terminal.apply unicode call) :=
  .step reachable allowed rfl

/-- The sizes hold in every state of every run. -/
theorem wellSized_of_reachable
    {terminal : Terminal}
    (reachable : (machine unicode).Reachable guard terminal) :
    WellSized terminal := by
  apply reachable.invariant
  · intro start isNew
    obtain ⟨rows, cols, historyLimit, same⟩ := isNew
    exact same ▸ WellSized.new rows cols historyLimit
  · intro before call after sized _ stepped
    exact stepped ▸ sized.apply unicode call

end Terminal
end Vvmux
