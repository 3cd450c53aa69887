import Vvmux.Screen.Drawing
import Vvmux.Terminal.LineBreaks

/-!
# Combining marks

`input` adds a zero-width character to the cell left of the cursor.  Behind a
narrow glyph that is the glyph's cell.  Behind a wide glyph it is the second
column of the glyph, whose text neither `extract_rows` nor a repaint shows.
-/

namespace Vvmux

open Screen (Cell ScreenBuffer ansiDiff glyphs repaintsAll)

namespace Terminal

/-! ## The text around a column -/

namespace Row

/-- The text of the cells before a column. -/
def textBefore (row : Row) (column : Nat) : List Char :=
  row.textFrom column column 0

/-- The text of the cells behind a column. -/
def textBehind (row : Row) (column : Nat) : List Char :=
  row.textFrom row.usedEnd (row.usedEnd - (column + 1)) (column + 1)

/-- No tab in the columns before one reaches it. -/
def ClearOfTabs (row : Row) (column : Nat) : Prop :=
  ∀ start cell width, start < column → row[start]? = some cell →
    cell.tabWidth = some width → start + width.toNat ≤ column

variable {stop column : Nat} {row : Row} {cell : GridCell}

theorem textFrom_of_le
    (row : Row)
    (done : stop ≤ column)
    (fuel : Nat) : row.textFrom stop fuel column = [] := by
  cases fuel with
  | zero => rfl
  | succ fuel => rw [textFrom, if_neg (by omega)]

/-- Any number of turns that is enough gives the same text. -/
theorem textFrom_enough
    (row : Row)
    (first second : Nat)
    (enough : stop ≤ column + first)
    (alsoEnough : stop ≤ column + second) :
    row.textFrom stop first column = row.textFrom stop second column := by
  induction first generalizing column second with
  | zero =>
      rw [textFrom_of_le row (by omega), textFrom_of_le row (by omega)]
  | succ first ih =>
      rcases Nat.lt_or_ge column stop with more | done
      · obtain ⟨turns, isSucc⟩ : ∃ turns, second = turns + 1 :=
          ⟨second - 1, by omega⟩
        subst isSucc
        rw [textFrom, textFrom, if_pos more, if_pos more]
        dsimp only
        cases (row.getD column {}).tabWidth with
        | none | some width =>
            dsimp only
            rw [ih turns (by omega) (by omega)]
      · rw [textFrom_of_le row done, textFrom_of_le row done]

/-- A column that no tab covers splits the text of its row. -/
theorem textFrom_split
    (known : row[column]? = some cell)
    (untabbed : cell.tabWidth = none)
    (clear : row.ClearOfTabs column)
    (inside : column < stop)
    (fuel start : Nat)
    (before : start ≤ column)
    (enough : stop ≤ start + fuel) :
    row.textFrom stop fuel start =
      row.textFrom column (column - start) start ++ cell.text ++
        row.textFrom stop (stop - (column + 1)) (column + 1) := by
  induction fuel generalizing start with
  | zero => omega
  | succ fuel ih =>
      have here : ∀ position, position < row.length →
          row[position]? = some (row.getD position {}) := by
        intro position more
        rw [List.getD_eq_getElem?_getD, List.getElem?_eq_getElem more]
        rfl
      have long : column < row.length :=
        (List.getElem?_eq_some_iff.1 known).1
      rw [textFrom, if_pos (by omega)]
      rcases Nat.eq_or_lt_of_le before with arrived | further
      · subst arrived
        have isCell : row.getD start {} = cell :=
          Option.some.inj ((here start long).symm.trans known)
        rw [isCell]
        dsimp only
        rw [untabbed, Nat.sub_self]
        dsimp only
        rw [textFrom_enough row fuel (stop - (start + 1)) (by omega)
          (by omega)]
        rfl
      · obtain ⟨turns, isSucc⟩ : ∃ turns, column - start = turns + 1 :=
          ⟨column - start - 1, by omega⟩
        rw [isSucc, textFrom, if_pos further]
        dsimp only
        cases tab : (row.getD start {}).tabWidth with
        | none =>
            dsimp only
            rw [ih (start + 1) (by omega) (by omega),
              textFrom_enough row turns (column - (start + 1)) (by omega)
                (by omega)]
            simp only [List.append_assoc]
        | some width =>
            have reach := clear start _ width further
              (here start (by omega)) tab
            dsimp only
            rw [ih (start + max width.toNat 1) (by omega)
                (by omega),
              textFrom_enough row turns
                (column - (start + max width.toNat 1)) (by omega)
                (by omega)]
            simp only [List.cons_append, List.append_assoc]

theorem lt_usedEnd
    (known : row[column]? = some cell)
    (used : cell.used = true) : column < row.usedEnd := by
  induction row using List.reverseRecOn with
  | nil => cases known
  | append_singleton row last ih =>
      have long : column < row.length + 1 := by
        have inside := (List.getElem?_eq_some_iff.1 known).1
        simpa using inside
      cases lastUsed : last.used with
      | true =>
          rw [usedEnd_concat_of_used row lastUsed]
          exact long
      | false =>
          rw [usedEnd_concat_of_unused row lastUsed]
          rcases Nat.lt_or_ge column row.length with inside | atEnd
          · rw [List.getElem?_append_left inside] at known
            exact ih known
          · have isLast : column = row.length := by omega
            rw [isLast, List.getElem?_append_right le_rfl, Nat.sub_self]
              at known
            obtain rfl := Option.some.inj known
            rw [used] at lastUsed
            cases lastUsed

/-- The text of a row around a used cell that no tab covers. -/
theorem text_split
    (known : row[column]? = some cell)
    (untabbed : cell.tabWidth = none)
    (clear : row.ClearOfTabs column)
    (used : cell.used = true) :
    row.text = row.textBefore column ++ cell.text ++ row.textBehind column := by
  unfold text textBefore textBehind
  rw [textFrom_split known untabbed clear (lt_usedEnd known used) _ 0
    (by omega) (by omega), Nat.sub_zero]

/-- Forgetting the tabs that cover a column clears it of tabs. -/
theorem clearOfTabs_invalidateTabAt
    (row : Row)
    (column : Nat) : (row.invalidateTabAt column).ClearOfTabs column := by
  intro start cell width before known tab
  rw [invalidateTabAt, dropTabs, List.getElem?_mapIdx] at known
  obtain ⟨old, _, changed⟩ := Option.map_eq_some_iff.1 known
  subst changed
  cases oldTab : old.tabWidth with
  | none =>
      simp only [oldTab] at tab
      cases tab
  | some oldWidth =>
      simp only [oldTab] at tab
      split at tab
      · cases tab
      · next uncovered =>
          rw [oldTab] at tab
          obtain rfl := Option.some.inj tab
          simp only [Bool.and_eq_true, decide_eq_true_eq, not_and,
            Nat.not_lt] at uncovered
          exact uncovered (by omega)

/-- Writing a cell without a tab keeps the columns before one clear. -/
theorem ClearOfTabs.set
    (clear : row.ClearOfTabs column)
    (position : Nat)
    {written : GridCell}
    (untabbed : written.tabWidth = none) :
    Row.ClearOfTabs (List.set row position written) column := by
  intro start cell width before known tab
  rw [List.getElem?_set] at known
  split at known
  · split at known
    · obtain rfl := Option.some.inj known
      rw [untabbed] at tab
      cases tab
    · cases known
  · exact clear start cell width before known tab

/-- So does forgetting more tabs. -/
theorem ClearOfTabs.dropTabs
    (clear : row.ClearOfTabs column)
    (covers : Nat → Nat → Bool) : (row.dropTabs covers).ClearOfTabs column := by
  intro start cell width before known tab
  rw [Row.dropTabs, List.getElem?_mapIdx] at known
  obtain ⟨old, oldKnown, changed⟩ := Option.map_eq_some_iff.1 known
  subst changed
  cases oldTab : old.tabWidth with
  | none =>
      simp only [oldTab] at tab
      cases tab
  | some oldWidth =>
      simp only [oldTab] at tab
      split at tab
      · cases tab
      · rw [oldTab] at tab
        obtain rfl := Option.some.inj tab
        exact clear start old _ before oldKnown oldTab

theorem ClearOfTabs.modify
    (clear : row.ClearOfTabs column)
    (change : GridCell → GridCell) :
    Row.ClearOfTabs (List.modify row column change) column := by
  intro start cell width before known tab
  have other : column ≠ start := by omega
  rw [List.getElem?_modify] at known
  simp only [other, if_false, id_map'] at known
  exact clear start cell width before known tab

end Row

/-! ## Where a glyph goes -/

/-- The terminal on which `input` writes the glyph, behind its wraps. -/
def placed
    (unicode : UnicodeWidth)
    (terminal : Terminal)
    (ch : Char) : Terminal :=
  terminal.wrapPending.wrapWide (unicode.columns ch)

theorem sized_placed
    {unicode : UnicodeWidth}
    {terminal : Terminal}
    (sized : WellSized terminal)
    (ch : Char) :
    WellSized (terminal.placed unicode ch) ∧
      (terminal.placed unicode ch).cols = terminal.cols ∧
      (terminal.placed unicode ch).cursorCol < terminal.cols ∧
      (unicode.columns ch = 2 → 1 < terminal.cols →
        (terminal.placed unicode ch).cursorCol + 1 < terminal.cols) := by
  have pending := sized.wrapPending
  have inside := wrapPending_inside sized.cols
  have cols := (sameSize_wrapPending terminal).cols
  have wideCols := (sameSize_wrapWide terminal.wrapPending
    (unicode.columns ch)).cols
  obtain ⟨stays, roomy⟩ := wrapWide_inside inside (unicode.columns ch)
  rw [wideCols, cols] at stays roomy
  exact ⟨pending.wrapWide _, wideCols.trans cols, stays, roomy⟩

variable {unicode : UnicodeWidth} {terminal : Terminal} {ch : Char}
  (cell : GridCell) {marks : List Char}

theorem input_of_placed
    (printed : unicode.columns ch ≠ 0) :
    terminal.input unicode ch =
      ((terminal.placed unicode ch).putGlyph ch (unicode.columns ch)).damage := by
  unfold input placed
  dsimp only
  rw [if_neg printed]

/-- The row of a glyph before the glyph is written into it. -/
def untabbedRow (row : Row) (column width : Nat) : Row :=
  if width = 2 then (row.invalidateTabAt column).invalidateTabAt (column + 1)
  else row.invalidateTabAt column

/-- The row of a glyph. -/
def writtenRow
    (terminal : Terminal)
    (ch : Char)
    (width : Nat)
    (row : Row) : Row :=
  let written := (untabbedRow row terminal.cursorCol width).set
    terminal.cursorCol (terminal.glyph ch)
  if width = 2 ∧ terminal.cursorCol + 1 < terminal.cols then
    written.set (terminal.cursorCol + 1) terminal.continuation
  else
    written

theorem getElem?_putGlyph
    (terminal : Terminal)
    (ch : Char)
    (width : Nat) :
    (terminal.putGlyph ch width).grid[terminal.cursorRow]? =
      terminal.grid[terminal.cursorRow]?.map
        (terminal.writtenRow ch width) := by
  unfold putGlyph untabGlyph writtenRow untabbedRow
  by_cases wide : width = 2
  · by_cases roomy : terminal.cursorCol + 1 < terminal.cols
    · simp [wide, roomy, modifyRow, invalidateTabAt, Function.comp_def]
    · simp [wide, roomy, modifyRow, invalidateTabAt, Function.comp_def]
  · simp [wide, modifyRow, invalidateTabAt, Function.comp_def]

/-- The written row holds the glyph, and no tab covers it. -/
theorem writtenRow_glyph
    {row : Row}
    (inside : terminal.cursorCol < row.length)
    (plain : Plain terminal.template)
    (ch : Char)
    (width : Nat) :
    (terminal.writtenRow ch width row)[terminal.cursorCol]? =
        some (terminal.glyph ch) ∧
      (terminal.writtenRow ch width row).ClearOfTabs terminal.cursorCol := by
  have untabbed : (untabbedRow row terminal.cursorCol width).ClearOfTabs
      terminal.cursorCol := by
    have once := Row.clearOfTabs_invalidateTabAt row terminal.cursorCol
    unfold untabbedRow
    split
    · exact once.dropTabs _
    · exact once
  have length : (untabbedRow row terminal.cursorCol width).length =
      row.length := by
    unfold untabbedRow
    split <;> simp
  have glyphTab : (terminal.glyph ch).tabWidth = none := plain.tabWidth
  have clear := untabbed.set terminal.cursorCol glyphTab
  have here : ((untabbedRow row terminal.cursorCol width).set
      terminal.cursorCol (terminal.glyph ch))[terminal.cursorCol]? =
        some (terminal.glyph ch) :=
    List.getElem?_set_self (by omega)
  unfold writtenRow
  dsimp only
  split
  · refine ⟨?_, clear.set _ rfl⟩
    rw [List.getElem?_set_ne (by omega)]
    exact here
  · exact ⟨here, clear⟩

theorem putGlyph_cursor
    (terminal : Terminal)
    (ch : Char)
    (width : Nat) :
    (terminal.putGlyph ch width).cursorCol =
      if width = 2 ∧ terminal.cursorCol + 1 < terminal.cols then
        terminal.cursorCol + 2
      else
        terminal.cursorCol + 1 := by
  unfold putGlyph
  dsimp only
  split <;> rfl

/-! ## Marks behind a glyph -/

/-- Add marks to the text of a cell. -/
def GridCell.mark (cell : GridCell) (marks : List Char) : GridCell :=
  { cell with combining := cell.combining ++ String.ofList marks }

theorem GridCell.mark_nil (cell : GridCell) : cell.mark [] = cell := by
  simp [GridCell.mark]

theorem GridCell.mark_concat
    (marks : List Char)
    (mark : Char) :
    cell.mark (marks ++ [mark]) =
      { cell.mark marks with
        combining := (cell.mark marks).combining.push mark } := by
  have text : cell.combining ++ String.ofList (marks ++ [mark]) =
      (cell.combining ++ String.ofList marks).push mark := by
    apply String.toList_inj.1
    simp
  simp only [GridCell.mark, text]

/-- Zero-width characters all go to the cell left of the cursor, in order. -/
theorem print_marks
    (terminal : Terminal)
    (marks : List Char)
    (zeroWidth : ∀ mark ∈ marks, unicode.columns mark = 0) :
    print unicode terminal marks =
      { terminal with
        grid := terminal.grid.modify terminal.cursorRow fun cells =>
          cells.modify (terminal.cursorCol - 1) fun cell => cell.mark marks
        events := (print unicode terminal marks).events } := by
  induction marks using List.reverseRecOn with
  | nil =>
      have same : (fun cells : Row => cells.modify (terminal.cursorCol - 1)
          fun cell => cell.mark []) = id := by
        funext cells
        simp only [GridCell.mark_nil]
        exact List.modify_id _ _
      rw [same]
      simp [print]
  | append_singleton marks mark ih =>
      have earlier := ih fun other member =>
        zeroWidth other (List.mem_append_left _ member)
      have combines : (print unicode terminal marks).input unicode mark =
          (print unicode terminal marks).combine mark := by
        unfold input
        dsimp only
        rw [if_pos (zeroWidth mark (by simp))]
      rw [print_concat, combines, combine, damage_eq, modifyRow, earlier]
      dsimp only
      rw [List.modify_modify_eq]
      congr 2
      funext cells
      rw [Function.comp_apply, List.modify_modify_eq]
      congr 1
      funext cell
      rw [Function.comp_apply, GridCell.mark_concat]

/-- A glyph and the zero-width characters after it. -/
def marked
    (unicode : UnicodeWidth)
    (terminal : Terminal)
    (ch : Char)
    (marks : List Char) : Terminal :=
  print unicode (terminal.input unicode ch) marks

/-- The marks stand, in order, in the cell of the glyph and in no other cell,
and the text of the row and every full repaint show them behind the glyph. -/
structure ShowsMarks
    (unicode : UnicodeWidth)
    (terminal : Terminal)
    (ch : Char)
    (marks : List Char)
    (row : Row) : Prop where
  here : (terminal.marked unicode ch marks).grid[
    (terminal.placed unicode ch).cursorRow]? = some row
  cell : row[(terminal.placed unicode ch).cursorCol]? =
    some (((terminal.placed unicode ch).glyph ch).mark marks)
  others : (terminal.marked unicode ch marks).grid =
    (terminal.input unicode ch).grid.modify
      (terminal.placed unicode ch).cursorRow fun cells =>
        cells.modify (terminal.placed unicode ch).cursorCol fun cell =>
          cell.mark marks
  -- A space without marks at the end of a row is not part of its text.
  extracted : marks ≠ [] ∨ ch ≠ ' ' →
    (terminal.marked unicode ch marks).extractRows
        (terminal.placed unicode ch).cursorRow 1 =
      row.textBefore (terminal.placed unicode ch).cursorCol ++ ch :: marks ++
        row.textBehind (terminal.placed unicode ch).cursorCol
  repainted : ∀ (columns rows : UInt16) (rect : Layout.Rect),
    rect.x + rect.width ≤ columns.toNat →
    rect.y + rect.height ≤ rows.toNat →
    (terminal.placed unicode ch).cursorRow < rect.height →
    (terminal.placed unicode ch).cursorCol < rect.width →
    ∀ buffer, buffer = (ScreenBuffer.new columns rows).drawTerminal rect
        (terminal.marked unicode ch marks) 0 →
    ∀ index, index = buffer.index
        (rect.y + (terminal.placed unicode ch).cursorRow)
        (rect.x + (terminal.placed unicode ch).cursorCol) →
    ∀ previous forceFull, repaintsAll previous buffer forceFull = true →
      glyphs (ansiDiff previous buffer forceFull) =
        (buffer.cells.take index).flatMap Cell.glyphs ++
          (ch, String.ofList marks) ::
          (buffer.cells.drop (index + 1)).flatMap Cell.glyphs

theorem GridCell.text_mark
    (isGlyph : cell.wideContinuation = false ∧
      cell.leadingWideSpacer = false ∧ cell.combining = "")
    (marks : List Char) : (cell.mark marks).text = cell.ch :: marks := by
  obtain ⟨leading, notSpacer, bare⟩ := isGlyph
  simp [GridCell.text, GridCell.mark, leading, notSpacer, bare]

theorem GridCell.used_mark
    (visible : marks ≠ [] ∨ cell.ch ≠ ' ') : (cell.mark marks).used = true := by
  rcases visible with some | other
  · have combining : cell.combining ++ String.ofList marks ≠ "" := by
      intro empty
      have texts := congrArg String.toList empty
      simp only [String.toList_append, String.toList_ofList,
        String.toList_empty, List.append_eq_nil_iff] at texts
      exact some texts.2
    simp [GridCell.used, GridCell.mark, combining]
  · simp [GridCell.used, GridCell.mark, other]

theorem extractRows_one
    {row : Nat}
    {cells : Row}
    (known : terminal.grid[row]? = some cells) :
    terminal.extractRows row 1 = Row.text (cells.take terminal.cols) := by
  have shown := viewportLine_ofNat terminal row
  rw [known] at shown
  simp [extractRows, extractRow, shown]

/-- A cell of a frame is where a full repaint prints its glyph. -/
theorem glyphs_around
    {buffer : ScreenBuffer}
    {row column : Nat}
    (inRows : row < buffer.rows.toNat)
    (inColumns : column < buffer.columns.toNat)
    (leading : (buffer.cellAt row column).wideContinuation = false)
    {previous : Option ScreenBuffer}
    {forceFull : Bool}
    (full : repaintsAll previous buffer forceFull = true) :
    glyphs (ansiDiff previous buffer forceFull) =
      (buffer.cells.take (buffer.index row column)).flatMap Cell.glyphs ++
        ((buffer.cellAt row column).ch,
          (buffer.cellAt row column).combining) ::
        (buffer.cells.drop (buffer.index row column + 1)).flatMap
          Cell.glyphs := by
  have inside := buffer.index_lt inRows inColumns
  have isCell : buffer.cellAt row column =
      buffer.cells[buffer.index row column] := by
    rw [ScreenBuffer.cellAt, List.getD_eq_getElem?_getD,
      List.getElem?_eq_getElem inside]
    rfl
  have parts : buffer.cells =
      buffer.cells.take (buffer.index row column) ++
        buffer.cellAt row column ::
          buffer.cells.drop (buffer.index row column + 1) := by
    rw [isCell, ← List.drop_eq_getElem_cons inside, List.take_append_drop]
  rw [Screen.glyphs_ansiDiff_full full]
  conv_lhs => rw [parts]
  rw [List.flatMap_append, List.flatMap_cons, Cell.glyphs, leading]
  rfl

section

variable (sized : WellSized terminal) (printed : unicode.columns ch ≠ 0)
include sized printed

/-- The glyph's row after `input`, which leaves the cursor one or two columns
behind the glyph. -/
theorem input_row :
    (terminal.input unicode ch).cursorRow =
        (terminal.placed unicode ch).cursorRow ∧
      (terminal.input unicode ch).cursorCol =
        (if unicode.columns ch = 2 ∧ 1 < terminal.cols then
          (terminal.placed unicode ch).cursorCol + 2
        else (terminal.placed unicode ch).cursorCol + 1) ∧
      ∃ row, (terminal.input unicode ch).grid[
          (terminal.placed unicode ch).cursorRow]? = some row ∧
        row.length = terminal.cols ∧
        row[(terminal.placed unicode ch).cursorCol]? =
          some ((terminal.placed unicode ch).glyph ch) ∧
        row.ClearOfTabs (terminal.placed unicode ch).cursorCol := by
  obtain ⟨placedSized, cols, inside, roomy⟩ :=
    @sized_placed unicode _ sized ch
  have after := sized.input unicode ch
  have sameCols := (sameSize_input unicode terminal ch).cols
  have typed := (typed_putGlyph (terminal.placed unicode ch) ch
    (unicode.columns ch)).frame
  rw [input_of_placed printed] at after sameCols ⊢
  rw [damage_eq] at after sameCols ⊢
  dsimp only at after sameCols ⊢
  refine ⟨by rw [typed], ?_, ?_⟩
  · rw [putGlyph_cursor, cols]
    by_cases wide : unicode.columns ch = 2 ∧ 1 < terminal.cols
    · rw [if_pos wide, if_pos ⟨wide.1, roomy wide.1 wide.2⟩]
    · rw [if_neg wide, if_neg]
      rintro ⟨isWide, room⟩
      exact wide ⟨isWide, by omega⟩
  · have rowInside := placedSized.cursorRow
    have gridLength := placedSized.grid
    obtain ⟨row, known⟩ : ∃ row, (terminal.placed unicode ch).grid[
        (terminal.placed unicode ch).cursorRow]? = some row :=
      ⟨_, List.getElem?_eq_getElem (by omega)⟩
    have length : row.length = terminal.cols := by
      rw [placedSized.gridCols row (List.mem_of_getElem? known), cols]
    obtain ⟨glyph, clear⟩ := writtenRow_glyph (by rw [length]; exact inside)
      placedSized.template ch (unicode.columns ch)
    have written := getElem?_putGlyph (terminal.placed unicode ch) ch
      (unicode.columns ch)
    rw [known] at written
    refine ⟨_, written, ?_, glyph, clear⟩
    rw [after.gridCols _ (List.mem_of_getElem? written), sameCols]

/-- Marks whose cell is the glyph's are shown behind it. -/
theorem showsMarks_of_cell
    (zeroWidth : ∀ mark ∈ marks, unicode.columns mark = 0)
    (target : marks = [] ∨ (terminal.input unicode ch).cursorCol - 1 =
      (terminal.placed unicode ch).cursorCol) :
    ∃ row, ShowsMarks unicode terminal ch marks row := by
  have printedMarks := print_marks (terminal.input unicode ch) marks zeroWidth
  have grid := congrArg Terminal.grid printedMarks
  have cols := congrArg Terminal.cols printedMarks
  dsimp only at grid cols
  obtain ⟨sameRow, _, row, known, length, glyph, clear⟩ :=
    input_row sized printed
  have sameCols := (sameSize_input unicode terminal ch).cols
  have plain := (@sized_placed unicode _ sized ch).1.template
  -- Without marks it does not matter which cell they go to.
  have others : (terminal.marked unicode ch marks).grid =
      (terminal.input unicode ch).grid.modify
        (terminal.placed unicode ch).cursorRow fun cells =>
          cells.modify (terminal.placed unicode ch).cursorCol fun cell =>
            cell.mark marks := by
    rcases target with empty | isGlyph
    · subst empty
      have same : ∀ column, (fun cells : Row => cells.modify column
          fun cell => cell.mark []) = id := by
        intro column
        funext cells
        simp only [GridCell.mark_nil]
        exact List.modify_id _ _
      rw [marked, grid, same, same, sameRow]
    · rw [marked, grid, isGlyph, sameRow]
  have here : (terminal.marked unicode ch marks).grid[
      (terminal.placed unicode ch).cursorRow]? =
        some (row.modify (terminal.placed unicode ch).cursorCol
          fun cell => cell.mark marks) := by
    rw [others, List.getElem?_modify, known]
    simp
  have cell : (row.modify (terminal.placed unicode ch).cursorCol
      fun cell => cell.mark marks)[(terminal.placed unicode ch).cursorCol]? =
        some (((terminal.placed unicode ch).glyph ch).mark marks) := by
    rw [List.getElem?_modify, glyph]
    simp
  have text := GridCell.text_mark
    ((terminal.placed unicode ch).glyph ch) ⟨rfl, rfl, rfl⟩ marks
  refine ⟨_, here, cell, others, ?_, ?_⟩
  · intro visible
    have used := GridCell.used_mark
      ((terminal.placed unicode ch).glyph ch) visible
    have untabbed : (((terminal.placed unicode ch).glyph ch).mark
        marks).tabWidth = none := plain.tabWidth
    rw [extractRows_one here, List.take_of_length_le,
      Row.text_split cell untabbed (clear.modify _) used, text]
    · rfl
    · rw [List.length_modify, length, marked, cols, sameCols]
  · intro columns rows rect inColumns inRows rowInside columnInside buffer
      isBuffer index isIndex previous forceFull full
    have drawn := ScreenBuffer.drawTerminal_cellAt columns rows inColumns
      inRows (terminal.marked unicode ch marks) 0 rowInside columnInside
      (by
        rw [Int.natCast_zero, Int.sub_zero, viewportLine_ofNat]
        exact here) cell
    rw [← isBuffer] at drawn
    have frame := ScreenBuffer.sameFrame_drawTerminal
      (ScreenBuffer.new columns rows) rect (terminal.marked unicode ch marks) 0
    rw [← isBuffer] at frame
    have sameRows : buffer.rows = rows := frame.rows
    have sameColumns : buffer.columns = columns := frame.columns
    have painted := @glyphs_around buffer
      (rect.y + (terminal.placed unicode ch).cursorRow)
      (rect.x + (terminal.placed unicode ch).cursorCol)
      (by rw [sameRows]; omega) (by rw [sameColumns]; omega)
      (by rw [drawn]; rfl)
      previous forceFull full
    rw [painted, drawn, ← isIndex]
    simp [GridCell.mark, Terminal.glyph]

/-- Marks that go to another cell than the glyph's are not in the glyph's. -/
theorem marks_eq_nil_of_showsMarks
    (zeroWidth : ∀ mark ∈ marks, unicode.columns mark = 0)
    (elsewhere : (terminal.input unicode ch).cursorCol - 1 ≠
      (terminal.placed unicode ch).cursorCol)
    {row : Row}
    (shows : ShowsMarks unicode terminal ch marks row) : marks = [] := by
  have grid := congrArg Terminal.grid
    (print_marks (terminal.input unicode ch) marks zeroWidth)
  dsimp only at grid
  obtain ⟨sameRow, _, before, known, _, glyph, _⟩ := input_row sized printed
  have here := shows.here
  rw [marked, grid, sameRow, List.getElem?_modify, known] at here
  simp only [if_true, Option.map_eq_map, Option.map_some] at here
  obtain rfl := Option.some.inj here
  have cell := shows.cell
  rw [List.getElem?_modify, glyph] at cell
  simp only [elsewhere, if_false, Option.map_eq_map, Option.map_some] at cell
  have same := congrArg GridCell.text (Option.some.inj cell)
  rw [GridCell.text_mark _ ⟨rfl, rfl, rfl⟩] at same
  have bare := GridCell.text_mark ((terminal.placed unicode ch).glyph ch)
    ⟨rfl, rfl, rfl⟩ []
  rw [GridCell.mark_nil] at bare
  rw [bare] at same
  exact ((List.cons.inj same).2).symm

end

/-- Zero-width characters stay with the glyph printed before them exactly if
the glyph has no second column. -/
theorem showsMarks_iff
    {unicode : UnicodeWidth}
    {guard : Terminal → Call → Prop}
    {terminal : Terminal}
    (reachable : (machine unicode).Reachable guard terminal)
    {ch : Char}
    (printed : unicode.columns ch = 1 ∨ unicode.columns ch = 2)
    {marks : List Char}
    (zeroWidth : ∀ mark ∈ marks, unicode.columns mark = 0) :
    (∃ row, ShowsMarks unicode terminal ch marks row) ↔
      marks = [] ∨ unicode.columns ch = 1 ∨ terminal.cols = 1 := by
  have sized := wellSized_of_reachable reachable
  have someColumn := sized.cols
  have visible : unicode.columns ch ≠ 0 := by omega
  obtain ⟨_, column, _⟩ := input_row sized visible
  constructor
  · rintro ⟨row, shows⟩
    by_contra neither
    push Not at neither
    obtain ⟨some, notNarrow, notOne⟩ := neither
    rw [if_pos (by omega)] at column
    exact some (marks_eq_nil_of_showsMarks sized visible zeroWidth
      (by omega) shows)
  · intro condition
    apply showsMarks_of_cell sized visible zeroWidth
    rcases condition with empty | single
    · exact Or.inl empty
    · right
      rw [if_neg (by omega)] at column
      omega

/-- An `e` with an acute accent. -/
theorem showsMarks_narrow :
    (∃ row, ShowsMarks latinAndHan (Terminal.new 2 4 0) 'e' ['\u0301'] row) ↔
      ['\u0301'] = [] ∨ latinAndHan.columns 'e' = 1 ∨
        (Terminal.new 2 4 0).cols = 1 :=
  @showsMarks_iff latinAndHan (fun _ _ => True) _
    (.initial ⟨2, 4, 0, rfl⟩) 'e' (Or.inl (by decide +kernel)) ['\u0301']
    (by
      intro mark member
      rw [List.mem_singleton.1 member]
      decide +kernel)

/-- The accent behind a wide glyph lands in its second column, and the text
of the row does not show it. -/
theorem mark_behind_wide_lost :
    (machine latinAndHan).Reachable (fun _ _ => True) (Terminal.new 2 4 0) ∧
      latinAndHan.columns '漢' = 2 ∧ latinAndHan.columns '\u0301' = 0 ∧
      ((Terminal.new 2 4 0).marked latinAndHan '漢' ['\u0301']).extractRows
          0 1 = ['漢'] ∧
      (¬ ∃ row, ShowsMarks latinAndHan (Terminal.new 2 4 0) '漢' ['\u0301']
        row) := by
  refine ⟨.initial ⟨2, 4, 0, rfl⟩, by decide +kernel, by decide +kernel,
    by decide +kernel, ?_⟩
  rintro ⟨row, shows⟩
  have empty := marks_eq_nil_of_showsMarks (WellSized.new 2 4 0)
    (by decide +kernel)
    (by
      intro mark member
      rw [List.mem_singleton.1 member]
      decide +kernel)
    (by decide +kernel) shows
  cases empty

end Terminal
end Vvmux
