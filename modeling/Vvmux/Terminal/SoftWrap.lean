import Mathlib.Algebra.Order.Ring.Int
import Mathlib.Data.List.DropRight
import Mathlib.Data.List.Forall2
import Vvmux.Terminal.Text

/-!
# Text that only wraps

Printing text without control characters lays it out greedily: a character
that does not fit behind the last line starts a new one.  The rows of the
terminal show the lines of that layout.  `extract_rows` trims the spaces at
the end of every row before it joins the wrapped ones, so a space that was
printed into the last column of a row is missing from the extracted text.
-/

namespace Vvmux
namespace Terminal

/-! ## The layout -/

/-- The columns a line takes. -/
def lineWidth (unicode : UnicodeWidth) (line : List Char) : Nat :=
  (line.map unicode.columns).sum

/-- Lines of printed text: the ones that wrapped and the last one. -/
structure Layout where
  full : List (List Char)
  last : List Char

namespace Layout

/-- A character that does not fit behind the last line starts a new one. -/
def put
    (unicode : UnicodeWidth)
    (cols : Nat)
    (layout : Layout)
    (ch : Char) : Layout :=
  if lineWidth unicode layout.last + unicode.columns ch ≤ cols then
    { layout with last := layout.last ++ [ch] }
  else
    { full := layout.full ++ [layout.last], last := [ch] }

/-- The layout of a text in rows of `cols` columns. -/
def ofText (unicode : UnicodeWidth) (cols : Nat) (text : List Char) : Layout :=
  text.foldl (put unicode cols) ⟨[], []⟩

section

variable (unicode : UnicodeWidth) (cols : Nat)

theorem ofText_concat
    (text : List Char)
    (ch : Char) :
    ofText unicode cols (text ++ [ch]) =
      (ofText unicode cols text).put unicode cols ch := by
  rw [ofText, List.foldl_append]
  rfl

/-- The layout only breaks the text. -/
theorem flatten_ofText
    (text : List Char) :
    (ofText unicode cols text).full.flatten ++ (ofText unicode cols text).last =
      text := by
  induction text using List.reverseRecOn with
  | nil => rfl
  | append_singleton text ch ih =>
      rw [ofText_concat, put]
      split
      · rw [← List.append_assoc, ih]
      · rw [List.flatten_append, List.flatten_singleton, ih]

/-- Only the empty text has an empty last line. -/
theorem last_ofText_concat
    (text : List Char)
    (ch : Char) :
    ∃ front, (ofText unicode cols (text ++ [ch])).last = front ++ [ch] := by
  rw [ofText_concat, put]
  split
  · exact ⟨_, rfl⟩
  · exact ⟨[], rfl⟩

theorem length_full_put
    (layout : Layout)
    (ch : Char) :
    layout.full.length ≤ (layout.put unicode cols ch).full.length := by
  unfold put
  split
  · exact Nat.le_refl _
  · simp

end

end Layout

@[simp] theorem lineWidth_nil
    (unicode : UnicodeWidth) : lineWidth unicode [] = 0 :=
  rfl

@[simp] theorem lineWidth_concat
    (unicode : UnicodeWidth)
    (line : List Char)
    (ch : Char) :
    lineWidth unicode (line ++ [ch]) =
      lineWidth unicode line + unicode.columns ch := by
  simp [lineWidth]

/-! ## Cells that show a line -/

/-- A character that text without control characters and zero-width marks
may hold. -/
structure Printable (unicode : UnicodeWidth) (ch : Char) : Prop where
  notControl : Screen.isControl ch = false
  width : unicode.columns ch = 1 ∨ unicode.columns ch = 2

instance
    (unicode : UnicodeWidth)
    (ch : Char) : Decidable (Printable unicode ch) :=
  decidable_of_iff
    (Screen.isControl ch = false ∧
      (unicode.columns ch = 1 ∨ unicode.columns ch = 2))
    ⟨fun both => ⟨both.1, both.2⟩, fun both => ⟨both.1, both.2⟩⟩

/-- A text is printable if a look at each character says so. -/
theorem printable_of_all
    {unicode : UnicodeWidth}
    {text : List Char}
    (all : text.all (fun ch => decide (Printable unicode ch)) = true)
    (ch : Char)
    (member : ch ∈ text) : Printable unicode ch :=
  of_decide_eq_true (List.all_eq_true.1 all ch member)

/-- The cell of a printed character. -/
structure ShowsGlyph (cell : GridCell) (ch : Char) : Prop where
  ch : cell.ch = ch
  combining : cell.combining = ""
  tabWidth : cell.tabWidth = none
  wideContinuation : cell.wideContinuation = false
  leadingWideSpacer : cell.leadingWideSpacer = false

/-- The second column of a printed wide character. -/
structure ShowsContinuation (cell : GridCell) : Prop where
  wideContinuation : cell.wideContinuation = true
  tabWidth : cell.tabWidth = none

/-- Cells that show the characters of a line. -/
inductive Shows
    (unicode : UnicodeWidth) : List Char → Row → Prop
  | nil : Shows unicode [] []
  | narrow {line : List Char} {cells : Row} {ch : Char} {cell : GridCell} :
      Shows unicode line cells →
      unicode.columns ch = 1 →
      ShowsGlyph cell ch →
      Shows unicode (line ++ [ch]) (cells ++ [cell])
  | wide {line : List Char} {cells : Row} {ch : Char}
      {cell continuation : GridCell} :
      Shows unicode line cells →
      unicode.columns ch = 2 →
      ShowsGlyph cell ch →
      ShowsContinuation continuation →
      Shows unicode (line ++ [ch]) (cells ++ [cell, continuation])

namespace Shows

variable {unicode : UnicodeWidth} {line : List Char} {cells : Row}

theorem length_eq
    (shows_ : Shows unicode line cells) :
    cells.length = lineWidth unicode line := by
  induction shows_ with
  | nil => rfl
  | narrow _ one _ ih =>
      simp [ih, one]
  | wide _ two _ _ ih =>
      simp [ih, two]

theorem untabbed
    (shows_ : Shows unicode line cells) :
    ∀ cell ∈ cells, cell.tabWidth = none := by
  induction shows_ with
  | nil => simp
  | narrow _ _ glyph ih =>
      intro cell member
      rcases List.mem_append.1 member with earlier | here
      · exact ih cell earlier
      · rw [List.mem_singleton.1 here]
        exact glyph.tabWidth
  | wide _ _ glyph continuation ih =>
      intro cell member
      rcases List.mem_append.1 member with earlier | here
      · exact ih cell earlier
      · rcases List.mem_cons.1 here with first | second
        · rw [first]
          exact glyph.tabWidth
        · rw [List.mem_singleton.1 second]
          exact continuation.tabWidth

theorem text_of_glyph
    {cell : GridCell}
    {ch : Char}
    (glyph : ShowsGlyph cell ch) : cell.text = [ch] := by
  simp [GridCell.text, glyph.ch, glyph.combining, glyph.wideContinuation,
    glyph.leadingWideSpacer]

theorem text_of_continuation
    {cell : GridCell}
    (continuation : ShowsContinuation cell) : cell.text = [] := by
  simp [GridCell.text, continuation.wideContinuation]

/-- Untrimmed, the cells show the whole line. -/
theorem flatMap_text
    (shows_ : Shows unicode line cells) :
    cells.flatMap GridCell.text = line := by
  induction shows_ with
  | nil => rfl
  | narrow _ _ glyph ih =>
      rw [List.flatMap_append, ih, List.flatMap_singleton, text_of_glyph glyph]
  | wide _ _ glyph continuation ih =>
      simp [ih, text_of_glyph glyph, text_of_continuation continuation]

/-- Trimmed, they show the line up to its last character that is no space. -/
theorem flatMap_text_trimmed
    (shows_ : Shows unicode line cells) :
    (cells.take cells.usedEnd).flatMap GridCell.text =
      line.rdropWhile (· == ' ') := by
  induction shows_ with
  | nil => rfl
  | @narrow line cells ch cell before _ glyph ih =>
      by_cases space : ch = ' '
      · have unused : cell.used = false := by
          simp [GridCell.used, glyph.ch, glyph.combining, glyph.tabWidth,
            glyph.wideContinuation, glyph.leadingWideSpacer, space]
        rw [Row.usedEnd_concat_of_unused _ unused,
          List.take_append_of_le_length cells.usedEnd_le_length,
          ih, List.rdropWhile_concat_pos _ _ _ (by simpa)]
      · have used : cell.used = true := by
          simp [GridCell.used, glyph.ch, space]
        rw [Row.usedEnd_concat_of_used _ used,
          List.rdropWhile_concat_neg _ _ _ (by simpa),
          List.take_of_length_le (by simp), List.flatMap_append,
          before.flatMap_text, List.flatMap_singleton, text_of_glyph glyph]
  | @wide line cells ch cell continuation before two glyph follows _ =>
      have notSpace : ch ≠ ' ' := by
        intro space
        rw [space, unicode.columns_space] at two
        omega
      have used : continuation.used = true := by
        simp [GridCell.used, follows.wideContinuation]
      have split : cells ++ [cell, continuation] =
          (cells ++ [cell]) ++ [continuation] := by simp
      rw [split, Row.usedEnd_concat_of_used _ used,
        List.rdropWhile_concat_neg _ _ _ (by simpa),
        List.take_of_length_le (by simp)]
      simp [before.flatMap_text, text_of_glyph glyph,
        text_of_continuation follows]

end Shows

/-! ## Rows of the terminal -/

/-- A row that wrapped: its cells fill it, or leave one column to a wide glyph
that did not fit. -/
structure FullRow
    (unicode : UnicodeWidth)
    (cols : Nat)
    (line : List Char)
    (row : Row) : Prop where
  shown : ∃ cells rest, Shows unicode line cells ∧ row = cells ++ rest ∧
    (rest = [] ∨ ∃ spacer : GridCell, rest = [spacer] ∧
      spacer.leadingWideSpacer = true ∧ spacer.tabWidth = none)
  length : row.length = cols

/-- The row that is being printed: nothing stands behind its cells. -/
def CurrentRow (unicode : UnicodeWidth) (line : List Char) (row : Row) : Prop :=
  ∃ cells rest, Shows unicode line cells ∧ row = cells ++ rest ∧
    ∀ cell ∈ rest, Plain cell.toCell

/-- A row nothing was printed to. -/
def BlankRow (row : Row) : Prop :=
  ∀ cell ∈ row, Plain cell.toCell

variable {row : Row} {cell : GridCell} {cols : Nat} {terminal : Terminal}

theorem BlankRow.current
    {unicode : UnicodeWidth}
    (blank : BlankRow row) : CurrentRow unicode [] row :=
  ⟨[], row, .nil, rfl, blank⟩

theorem unused_of_plain (plain : Plain cell.toCell) : cell.used = false := by
  simp [GridCell.used, plain.ch, plain.combining, plain.tabWidth,
    plain.wideContinuation, plain.leadingWideSpacer]

theorem CurrentRow.untabbed
    {unicode : UnicodeWidth}
    {line : List Char}
    (current : CurrentRow unicode line row) :
    ∀ cell ∈ row, cell.tabWidth = none := by
  obtain ⟨cells, rest, shown, same, plain⟩ := current
  subst same
  intro cell member
  rcases List.mem_append.1 member with front | back
  · exact shown.untabbed cell front
  · exact (plain cell back).tabWidth

/-- The row that is being printed shows its line without trailing spaces. -/
theorem CurrentRow.text
    {unicode : UnicodeWidth}
    {line : List Char}
    (current : CurrentRow unicode line row) :
    row.text = line.rdropWhile (· == ' ') := by
  rw [Row.text_of_untabbed current.untabbed]
  obtain ⟨cells, rest, shown, same, plain⟩ := current
  subst same
  rw [Row.usedEnd_append_of_unused cells
      fun cell member => unused_of_plain (plain cell member),
    List.take_append_of_le_length cells.usedEnd_le_length,
    shown.flatMap_text_trimmed]

/-- What a row that wrapped shows: its trailing spaces are gone unless a
spacer stands behind them. -/
def shownLine
    (unicode : UnicodeWidth)
    (cols : Nat)
    (line : List Char) : List Char :=
  if lineWidth unicode line = cols then line.rdropWhile (· == ' ') else line

theorem FullRow.text
    {unicode : UnicodeWidth}
    {line : List Char}
    (full : FullRow unicode cols line row) :
    row.text = shownLine unicode cols line := by
  have length := full.length
  obtain ⟨cells, rest, shown, same, ending⟩ := full.shown
  subst same
  have width := shown.length_eq
  rcases ending with none | ⟨spacer, one, isSpacer, untabbed⟩
  · subst none
    rw [List.append_nil] at length ⊢
    rw [shownLine, if_pos (by omega), Row.text_of_untabbed shown.untabbed,
      shown.flatMap_text_trimmed]
  · subst one
    rw [List.length_append, List.length_singleton] at length
    have used : spacer.used = true := by
      simp [GridCell.used, isSpacer]
    rw [shownLine, if_neg (by omega), Row.text_of_untabbed]
    · rw [Row.usedEnd_concat_of_used _ used, List.take_of_length_le (by simp),
        List.flatMap_append, shown.flatMap_text]
      simp [GridCell.text, isSpacer]
    · intro cell member
      rcases List.mem_append.1 member with front | back
      · exact shown.untabbed cell front
      · rw [List.mem_singleton.1 back]
        exact untabbed

/-! ## Steps on the retained rows -/

theorem retained_modifyRow
    (terminal : Terminal)
    (row : Nat)
    (change : Row → Row) :
    (terminal.modifyRow row change).retained =
      terminal.retained.modify (terminal.history.length + row) change := by
  apply List.ext_getElem?
  intro position
  unfold retained modifyRow
  dsimp only
  rw [List.getElem?_modify]
  rcases Nat.lt_or_ge position terminal.history.length with inside | outside
  · have differs : terminal.history.length + row ≠ position := by omega
    rw [List.getElem?_append_left inside, List.getElem?_append_left inside]
    simp [differs]
  · rw [List.getElem?_append_right outside, List.getElem?_append_right outside,
      List.getElem?_modify]
    have same : row = position - terminal.history.length ↔
        terminal.history.length + row = position := by omega
    simp [same]

theorem retainedWrapped_markWrapped
    (sized : WellSized terminal)
    (row : Nat) :
    (terminal.markWrapped row).retainedWrapped =
      terminal.retainedWrapped.set (terminal.history.length + row) true := by
  have length := sized.historyWrapped
  unfold retainedWrapped markWrapped
  dsimp only
  rw [List.set_append_right _ _ (by omega)]
  congr 2
  omega

/-- A line feed appends a blank row or moves to one. -/
structure FedLine (before after : Terminal) : Prop where
  rows : ∃ blanks, after.retained = before.retained ++ blanks ∧
    (∀ row ∈ blanks, BlankRow row) ∧
    after.retainedWrapped =
      before.retainedWrapped ++ List.replicate blanks.length false
  position : after.history.length + after.cursorRow =
    before.history.length + before.cursorRow + 1
  frame : after.scrollTop = before.scrollTop ∧
    after.scrollBottom = before.scrollBottom ∧ after.rows = before.rows ∧
    after.cols = before.cols ∧ after.historyLimit = before.historyLimit ∧
    after.alternateScreen = before.alternateScreen ∧
    after.cursorCol = before.cursorCol

section

variable
    (sized : WellSized terminal)
    (top : terminal.scrollTop = 0)
    (bottom : terminal.scrollBottom = terminal.rows)
    (primary : terminal.alternateScreen = false)
include sized top bottom primary

theorem scrollUpOnce_retained
    (room : terminal.history.length + 1 ≤ terminal.historyLimit) :
    terminal.scrollUpOnce.retained =
        terminal.retained ++ [List.replicate terminal.cols terminal.blank] ∧
      terminal.scrollUpOnce.retainedWrapped =
        terminal.retainedWrapped ++ [false] ∧
      terminal.scrollUpOnce.history.length = terminal.history.length + 1 := by
  have rows := sized.rows
  have grid := sized.grid
  have wrapped := sized.gridWrapped
  have nothingLost :
      terminal.history.length + 1 - terminal.historyLimit = 0 := by omega
  unfold scrollUpOnce retained retainedWrapped
  dsimp only
  simp only [top, bottom, primary, and_self, if_true, List.length_append,
    List.length_singleton, nothingLost, List.drop_zero]
  cases cells : terminal.grid with
  | nil => rw [cells] at grid; simp at grid; omega
  | cons first others =>
      cases flags : terminal.gridWrapped with
      | nil => rw [flags] at wrapped; simp at wrapped; omega
      | cons flag rest =>
          have othersLength : terminal.rows - 1 = others.length := by
            rw [cells] at grid
            simp at grid
            omega
          have restLength : others.length = rest.length := by
            rw [flags] at wrapped
            simp at wrapped
            omega
          refine ⟨?_, ?_, trivial⟩
          · rw [List.eraseIdx_cons_zero, othersLength,
              List.insertIdx_length_self]
            simp
          · rw [List.eraseIdx_cons_zero, othersLength, restLength,
              List.insertIdx_length_self]
            simp

theorem fedLine_lineFeed
    (room : terminal.history.length + terminal.cursorRow + 2 ≤
      terminal.rows + terminal.historyLimit) :
    FedLine terminal terminal.lineFeed := by
  have row := sized.cursorRow
  have rows := sized.rows
  unfold lineFeed
  split
  · next atBottom =>
      have fits : terminal.history.length + 1 ≤ terminal.historyLimit := by
        omega
      obtain ⟨retainedRows, flags, history⟩ :=
        scrollUpOnce_retained sized top bottom primary fits
      have once : min 1 (terminal.scrollBottom - terminal.scrollTop) = 1 := by
        omega
      have scrolled : terminal.scrollRegionUp 1 =
          (terminal.scrollUpOnce.push (.gridScroll 1)).damage := by
        unfold scrollRegionUp
        rw [once]
        rfl
      rw [scrolled, damage_eq]
      exact
      { rows := ⟨[List.replicate terminal.cols terminal.blank], retainedRows, by
          intro row member
          rw [List.mem_singleton.1 member]
          intro cell known
          rw [List.eq_of_mem_replicate known]
          exact plain_blank terminal, flags⟩
        position := by
          show terminal.scrollUpOnce.history.length + terminal.cursorRow = _
          omega
        frame := ⟨rfl, rfl, rfl, rfl, rfl, rfl, rfl⟩ }
  · next above =>
      have next : min (terminal.cursorRow + 1) (terminal.rows - 1) =
          terminal.cursorRow + 1 := by omega
      rw [next]
      exact
      { rows := ⟨[], by simp [retained], by simp, by simp [retainedWrapped]⟩
        position := by
          show terminal.history.length + (terminal.cursorRow + 1) = _
          omega
        frame := ⟨rfl, rfl, rfl, rfl, rfl, rfl, rfl⟩ }

end

/-! ## Printing follows the layout -/

/-- The rows retained by a terminal that only printed: the full lines, the row
under the cursor, and blank rows. -/
structure Printed
    (unicode : UnicodeWidth)
    (full : List (List Char))
    (holds : Row → Prop)
    (terminal : Terminal) : Prop where
  sized : WellSized terminal
  scrollTop : terminal.scrollTop = 0
  scrollBottom : terminal.scrollBottom = terminal.rows
  primary : terminal.alternateScreen = false
  position : terminal.history.length + terminal.cursorRow = full.length
  rows : ∃ above current below,
    terminal.retained = above ++ current :: below ∧
    List.Forall₂ (FullRow unicode terminal.cols) full above ∧
    holds current ∧
    (∀ row ∈ below, BlankRow row) ∧
    terminal.retainedWrapped = List.replicate above.length true ++
      List.replicate (below.length + 1) false

namespace Printed

variable
  {unicode : UnicodeWidth} {full : List (List Char)} {holds : Row → Prop}
  {terminal : Terminal}

/-- The row under the cursor is a row of the grid. -/
theorem current_length
    (printed : Printed unicode full holds terminal)
    {above below : List Row}
    {current : Row}
    (rows : terminal.retained = above ++ current :: below)
    (index : full.length = above.length) : current.length = terminal.cols := by
  have here : terminal.retained[above.length]? = some current := by
    rw [rows]
    simp
  have position := printed.position
  rw [← index, ← position, retained, List.getElem?_append_right (by omega),
    Nat.add_sub_cancel_left] at here
  exact printed.sized.gridCols current (List.mem_of_getElem? here)

theorem weaken
    {weaker : Row → Prop}
    (printed : Printed unicode full holds terminal)
    (implies : ∀ row, row.length = terminal.cols → holds row → weaker row) :
    Printed unicode full weaker terminal := by
  obtain ⟨above, current, below, rows, lines, known, blank, wrapped⟩ :=
    printed.rows
  have length := printed.current_length rows lines.length_eq
  exact
  { printed with
    rows := ⟨above, current, below, rows, lines,
      implies current length known, blank, wrapped⟩ }

/-- Change the row under the cursor. -/
theorem modifyRow
    (printed : Printed unicode full holds terminal)
    {change : Row → Row}
    {after : Row → Prop}
    (keepsLength : ∀ row, (change row).length = row.length)
    (changes : ∀ row, row.length = terminal.cols → holds row →
      after (change row)) :
    Printed unicode full after
      (terminal.modifyRow terminal.cursorRow change) := by
  obtain ⟨above, current, below, rows, lines, known, blank, wrapped⟩ :=
    printed.rows
  have index : terminal.history.length + terminal.cursorRow = above.length := by
    rw [printed.position, lines.length_eq]
  exact
  { sized := printed.sized.modifyRow fun row known =>
      (keepsLength row).trans known
    scrollTop := printed.scrollTop
    scrollBottom := printed.scrollBottom
    primary := printed.primary
    position := printed.position
    rows := by
      have length := printed.current_length rows lines.length_eq
      refine ⟨above, change current, below, ?_, lines,
        changes current length known, blank, wrapped⟩
      rw [retained_modifyRow, rows, index]
      clear index lines wrapped rows length
      induction above with
      | nil => rfl
      | cons row rest ih =>
          rw [List.cons_append, List.length_cons, List.modify_succ_cons, ih]
          rfl }

theorem damage
    (printed : Printed unicode full holds terminal) :
    Printed unicode full holds terminal.damage := by
  rw [damage_eq]
  exact { printed with sized := printed.sized.withEvents _ }

/-- The row under the cursor is full: printing continues in a blank row. -/
theorem nextRow
    {line : List Char}
    (printed : Printed unicode full
      (FullRow unicode terminal.cols line) terminal)
    (room : full.length + 2 ≤ terminal.rows + terminal.historyLimit) :
    Printed unicode (full ++ [line]) BlankRow terminal.nextRow ∧
      terminal.nextRow.cursorCol = 0 ∧
      terminal.nextRow.cols = terminal.cols ∧
      terminal.nextRow.rows = terminal.rows ∧
      terminal.nextRow.historyLimit = terminal.historyLimit := by
  obtain ⟨above, current, below, rows, lines, known, blank, wrapped⟩ :=
    printed.rows
  have position := printed.position
  have index : terminal.history.length + terminal.cursorRow = above.length := by
    rw [position, lines.length_eq]
  let marked : Terminal :=
    { terminal.markWrapped terminal.cursorRow with cursorCol := 0 }
  have markedSized : WellSized marked :=
    (printed.sized.markWrapped _).withCursor printed.sized.cursorRow
      (Nat.zero_le _)
  have markedWrapped : marked.retainedWrapped =
      List.replicate (above.length + 1) true ++
        List.replicate below.length false := by
    have flags := retainedWrapped_markWrapped printed.sized terminal.cursorRow
    rw [wrapped, index, List.set_append_right _ _ (by simp)] at flags
    rw [show marked.retainedWrapped =
      (terminal.markWrapped terminal.cursorRow).retainedWrapped from rfl, flags,
      List.length_replicate, Nat.sub_self, List.replicate_succ,
      List.set_cons_zero]
    have grown : List.replicate (above.length + 1) true =
        List.replicate above.length true ++ [true] :=
      List.replicate_succ'
    rw [grown, List.append_assoc]
    rfl
  have fed : FedLine marked marked.lineFeed := by
    apply fedLine_lineFeed markedSized printed.scrollTop printed.scrollBottom
      printed.primary
    show terminal.history.length + terminal.cursorRow + 2 ≤ _
    rw [position]
    exact room
  obtain ⟨blanks, fedRows, fedBlank, fedWrapped⟩ := fed.rows
  obtain ⟨top, bottom, sameRows, sameCols, sameLimit, screen, column⟩ :=
    fed.frame
  have nextSized : WellSized terminal.nextRow := printed.sized.nextRow
  have nextPosition : terminal.nextRow.history.length +
      terminal.nextRow.cursorRow = (full ++ [line]).length := by
    have moved : terminal.nextRow.history.length +
        terminal.nextRow.cursorRow =
          terminal.history.length + terminal.cursorRow + 1 := fed.position
    rw [moved, position]
    simp
  -- The cursor stands in the grid, so there is a row below the full one.
  have total : terminal.nextRow.retained.length =
      above.length + 1 + (below ++ blanks).length := by
    rw [show terminal.nextRow.retained = _ from fedRows,
      show marked.retained = terminal.retained from rfl, rows]
    simp
    omega
  have inside : terminal.nextRow.history.length + terminal.nextRow.cursorRow <
      terminal.nextRow.retained.length := by
    have row := nextSized.cursorRow
    rw [retained, List.length_append, nextSized.grid]
    omega
  cases rest : below ++ blanks with
  | nil =>
      rw [rest] at total
      rw [nextPosition, total] at inside
      have same := lines.length_eq
      simp at inside
      omega
  | cons next after =>
      refine ⟨⟨nextSized, top.trans printed.scrollTop, ?_,
        screen.trans printed.primary, nextPosition, ?_⟩, column, sameCols,
        sameRows, sameLimit⟩
      · exact bottom.trans (printed.scrollBottom.trans sameRows.symm)
      · have allBlank : ∀ row ∈ next :: after, BlankRow row := by
          rw [← rest]
          intro row member
          rcases List.mem_append.1 member with old | new
          · exact blank row old
          · exact fedBlank row new
        refine ⟨above ++ [current], next, after, ?_, ?_, ?_, ?_, ?_⟩
        · rw [show terminal.nextRow.retained = _ from fedRows,
            show marked.retained = terminal.retained from rfl, rows]
          simp [← rest]
        · rw [show terminal.nextRow.cols = terminal.cols from sameCols]
          exact List.rel_append lines (.cons known .nil)
        · exact allBlank next List.mem_cons_self
        · intro row member
          exact allBlank row (List.mem_cons_of_mem _ member)
        · rw [show terminal.nextRow.retainedWrapped = _ from fedWrapped,
            markedWrapped, List.append_assoc, ← List.replicate_add,
            ← List.length_append, rest]
          simp

end Printed

theorem dropTabs_of_untabbed
    (untabbed : ∀ cell ∈ row, cell.tabWidth = none)
    (covers : Nat → Nat → Bool) : row.dropTabs covers = row := by
  apply List.ext_getElem?
  intro column
  unfold Row.dropTabs
  rw [List.getElem?_mapIdx]
  cases here : row[column]? with
  | none => rfl
  | some cell => simp [untabbed cell (List.mem_of_getElem? here)]

theorem showsGlyph_glyph
    (sized : WellSized terminal)
    (ch : Char) : ShowsGlyph (terminal.glyph ch) ch :=
  ⟨rfl, rfl, sized.template.tabWidth, rfl, rfl⟩

theorem showsContinuation_continuation
    (terminal : Terminal) : ShowsContinuation terminal.continuation :=
  ⟨rfl, rfl⟩

section

variable {unicode : UnicodeWidth} {line : List Char}
  (current : CurrentRow unicode line row)
include current

/-- A narrow glyph behind the line. -/
theorem CurrentRow.setNarrow
    {ch : Char}
    (one : unicode.columns ch = 1)
    (glyph : ShowsGlyph cell ch)
    (inside : lineWidth unicode line < row.length) :
    CurrentRow unicode (line ++ [ch])
      (row.set (lineWidth unicode line) cell) := by
  obtain ⟨cells, rest, shown, same, plain⟩ := current
  subst same
  rw [← shown.length_eq] at inside ⊢
  rw [List.set_append_right _ _ (Nat.le_refl _), Nat.sub_self]
  match rest with
  | [] => simp at inside
  | first :: others =>
      refine ⟨cells ++ [cell], others, shown.narrow one glyph, by simp, ?_⟩
      intro other member
      exact plain other (List.mem_cons_of_mem _ member)

/-- A wide glyph behind the line. -/
theorem CurrentRow.setWide
    {ch : Char}
    {cell continuation : GridCell}
    (two : unicode.columns ch = 2)
    (glyph : ShowsGlyph cell ch)
    (follows : ShowsContinuation continuation)
    (inside : lineWidth unicode line + 1 < row.length) :
    CurrentRow unicode (line ++ [ch])
      ((row.set (lineWidth unicode line) cell).set
        (lineWidth unicode line + 1) continuation) := by
  obtain ⟨cells, rest, shown, same, plain⟩ := current
  subst same
  rw [← shown.length_eq] at inside ⊢
  rw [List.set_append_right _ _ (Nat.le_refl _), Nat.sub_self,
    List.set_append_right _ _ (by omega), Nat.add_sub_cancel_left]
  match rest with
  | [] =>
      exact absurd (Nat.lt_of_succ_lt inside) (by simp)
  | [first] => simp at inside
  | first :: second :: others =>
      refine ⟨cells ++ [cell, continuation], others,
        shown.wide two glyph follows, by simp, ?_⟩
      intro other member
      exact plain other
        (List.mem_cons_of_mem _ (List.mem_cons_of_mem _ member))

/-- The spacer fills a row whose last column is left over. -/
theorem CurrentRow.setSpacer
    {spacer : GridCell}
    (isSpacer : spacer.leadingWideSpacer = true)
    (untabbed : spacer.tabWidth = none)
    (last : lineWidth unicode line + 1 = row.length) :
    FullRow unicode row.length line
      (row.set (lineWidth unicode line) spacer) := by
  refine ⟨?_, by simp⟩
  obtain ⟨cells, rest, shown, same, _⟩ := current
  subst same
  rw [← shown.length_eq] at last ⊢
  rw [List.set_append_right _ _ (Nat.le_refl _), Nat.sub_self]
  match rest with
  | [] => simp at last
  | [first] =>
      exact ⟨cells, [spacer], shown, rfl, Or.inr ⟨spacer, rfl, isSpacer, untabbed⟩⟩
  | first :: second :: others => simp at last

theorem CurrentRow.full
    (filled : lineWidth unicode line = row.length) :
    FullRow unicode row.length line row := by
  refine ⟨?_, rfl⟩
  obtain ⟨cells, rest, shown, same, _⟩ := current
  subst same
  rw [← shown.length_eq, List.length_append] at filled
  have none : rest = [] := List.length_eq_zero_iff.1 (by omega)
  exact ⟨cells, rest, shown, rfl, Or.inl none⟩

end

namespace Printed

variable
  {unicode : UnicodeWidth} {full : List (List Char)} {holds : Row → Prop}
  {terminal : Terminal}

section

variable {line : List Char}
  (printed : Printed unicode full (CurrentRow unicode line) terminal)
include printed

/-- Without tabs in the row the glyph has none to forget. -/
theorem untabGlyph
    (width : Nat) :
    Printed unicode full (CurrentRow unicode line)
      (terminal.untabGlyph width) := by
  have once : ∀ {other : Terminal} (column : Nat),
      Printed unicode full (CurrentRow unicode line) other →
      Printed unicode full (CurrentRow unicode line)
        (other.invalidateTabAt other.cursorRow column) := by
    intro other column known
    apply known.modifyRow (fun row => Row.length_invalidateTabAt row column)
    intro row _ current
    rw [Row.invalidateTabAt, dropTabs_of_untabbed current.untabbed]
    exact current
  unfold Terminal.untabGlyph
  dsimp only
  split
  · exact once (terminal.cursorCol + 1) (once terminal.cursorCol printed)
  · exact once terminal.cursorCol printed

/-- A glyph that fits is printed behind the line. -/
theorem putGlyph
    (column : terminal.cursorCol = lineWidth unicode line)
    {ch : Char}
    (printable : Printable unicode ch)
    (fits : lineWidth unicode line + unicode.columns ch ≤ terminal.cols) :
    Printed unicode full (CurrentRow unicode (line ++ [ch]))
        (terminal.putGlyph ch (unicode.columns ch)) ∧
      (terminal.putGlyph ch (unicode.columns ch)).cursorCol =
        lineWidth unicode (line ++ [ch]) := by
  have clean := printed.untabGlyph (unicode.columns ch)
  have cols := untabGlyph_cols terminal (unicode.columns ch)
  have row := untabGlyph_cursorRow terminal (unicode.columns ch)
  have glyph := showsGlyph_glyph printed.sized ch
  unfold Terminal.putGlyph
  dsimp only
  rw [← row]
  generalize terminal.untabGlyph (unicode.columns ch) = untabbed at *
  rcases printable.width with one | two
  · have narrow : ¬ (unicode.columns ch = 2 ∧
        terminal.cursorCol + 1 < terminal.cols) := by omega
    rw [if_neg narrow]
    have written : Printed unicode full (CurrentRow unicode (line ++ [ch]))
        (untabbed.modifyRow untabbed.cursorRow fun cells =>
          cells.set terminal.cursorCol (terminal.glyph ch)) := by
      apply clean.modifyRow
      · intro row
        exact List.length_set
      · intro row length current
        rw [column]
        exact current.setNarrow one glyph (by omega)
    refine ⟨{ written with sized := ?_ }, by simp [column, one]⟩
    have bound : terminal.cursorCol + 1 ≤ untabbed.cols := by omega
    exact { written.sized with cursorCol := bound }
  · have wide : unicode.columns ch = 2 ∧
        terminal.cursorCol + 1 < terminal.cols := by omega
    rw [if_pos wide]
    have first : Printed unicode full
        (fun row => ∃ old : Row, old.length = untabbed.cols ∧
          CurrentRow unicode line old ∧
          row = old.set terminal.cursorCol (terminal.glyph ch))
        (untabbed.modifyRow untabbed.cursorRow fun cells =>
          cells.set terminal.cursorCol (terminal.glyph ch)) := by
      apply clean.modifyRow
      · intro row
        exact List.length_set
      · intro row length current
        exact ⟨row, length, current, rfl⟩
    have written : Printed unicode full (CurrentRow unicode (line ++ [ch]))
        ((untabbed.modifyRow untabbed.cursorRow fun cells =>
          cells.set terminal.cursorCol (terminal.glyph ch)).modifyRow
            untabbed.cursorRow fun cells =>
              cells.set (terminal.cursorCol + 1) terminal.continuation) := by
      apply first.modifyRow
      · intro row
        exact List.length_set
      · rintro row _ ⟨old, length, current, same⟩
        rw [same, column]
        exact current.setWide two glyph
          (showsContinuation_continuation terminal) (by omega)
    refine ⟨{ written with sized := ?_ }, by simp [column, two]⟩
    have bound : terminal.cursorCol + 1 + 1 ≤ untabbed.cols := by omega
    exact { written.sized with cursorCol := bound }

/-- A glyph that does not fit starts the next row. -/
theorem wrap
    (column : terminal.cursorCol = lineWidth unicode line)
    {width : Nat}
    (cols : 2 ≤ terminal.cols)
    (printable : width = 1 ∨ width = 2)
    (overflows : terminal.cols < lineWidth unicode line + width)
    (room : full.length + 2 ≤ terminal.rows + terminal.historyLimit) :
    Printed unicode (full ++ [line]) BlankRow
        (terminal.wrapPending.wrapWide width) ∧
      (terminal.wrapPending.wrapWide width).cursorCol = 0 ∧
      (terminal.wrapPending.wrapWide width).cols = terminal.cols ∧
      (terminal.wrapPending.wrapWide width).rows = terminal.rows ∧
      (terminal.wrapPending.wrapWide width).historyLimit =
        terminal.historyLimit := by
  have inside := printed.sized.cursorCol
  rcases Nat.lt_or_ge terminal.cursorCol terminal.cols with before | pending
  · -- One column is left, and the glyph is wide.
    have notPending : terminal.wrapPending = terminal := by
      unfold Terminal.wrapPending
      rw [if_neg (by omega)]
    have spacer : width = 2 ∧ terminal.cols ≤ terminal.cursorCol + 1 := by
      omega
    rw [notPending]
    unfold Terminal.wrapWide
    rw [if_pos spacer]
    have cleaned : Printed unicode full (CurrentRow unicode line)
        (terminal.invalidateTabAt terminal.cursorRow terminal.cursorCol) := by
      apply printed.modifyRow
      · intro row
        exact Row.length_invalidateTabAt row _
      · intro row _ current
        rw [Row.invalidateTabAt, dropTabs_of_untabbed current.untabbed]
        exact current
    have filled : Printed unicode full (FullRow unicode terminal.cols line)
        ((terminal.invalidateTabAt terminal.cursorRow
          terminal.cursorCol).modifyRow terminal.cursorRow fun cells =>
            cells.set terminal.cursorCol
              { terminal.blank with leadingWideSpacer := true }) := by
      apply cleaned.modifyRow
      · intro row
        exact List.length_set
      · intro row length current
        have last : lineWidth unicode line + 1 = row.length := by
          have same : row.length = terminal.cols := length
          omega
        rw [← show row.length = terminal.cols from length, column]
        exact current.setSpacer rfl rfl last
    exact filled.nextRow room
  · have isPending : terminal.wrapPending = terminal.nextRow := by
      unfold Terminal.wrapPending
      rw [if_pos pending]
    have filled : Printed unicode full (FullRow unicode terminal.cols line)
        terminal := by
      apply printed.weaken
      intro row length current
      rw [← length]
      exact current.full (by omega)
    obtain ⟨next, columnZero, sameCols, sameRows, sameLimit⟩ :=
      filled.nextRow room
    have fits : terminal.nextRow.wrapWide width = terminal.nextRow := by
      unfold Terminal.wrapWide
      rw [if_neg (by omega)]
    rw [isPending, fits]
    exact ⟨next, columnZero, sameCols, sameRows, sameLimit⟩

end

/-- One printed character follows one step of the layout. -/
theorem input
    {layout : Layout}
    (printed : Printed unicode layout.full
      (CurrentRow unicode layout.last) terminal)
    (column : terminal.cursorCol = lineWidth unicode layout.last)
    (cols : 2 ≤ terminal.cols)
    {ch : Char}
    (printable : Printable unicode ch)
    (room : (layout.put unicode terminal.cols ch).full.length + 1 ≤
      terminal.rows + terminal.historyLimit) :
    Printed unicode (layout.put unicode terminal.cols ch).full
        (CurrentRow unicode (layout.put unicode terminal.cols ch).last)
        (terminal.input unicode ch) ∧
      (terminal.input unicode ch).cursorCol =
        lineWidth unicode (layout.put unicode terminal.cols ch).last := by
  have width := printable.width
  have visible : unicode.columns ch ≠ 0 := by omega
  unfold Terminal.input
  dsimp only
  rw [if_neg visible]
  unfold Layout.put at room ⊢
  split
  · next fits =>
      have notPending : terminal.wrapPending = terminal := by
        unfold Terminal.wrapPending
        rw [if_neg (by omega)]
      have notWide : terminal.wrapWide (unicode.columns ch) = terminal := by
        unfold Terminal.wrapWide
        rw [if_neg (by omega)]
      rw [notPending, notWide]
      obtain ⟨put, moved⟩ := printed.putGlyph column printable fits
      refine ⟨put.damage, ?_⟩
      rw [damage_eq]
      exact moved
  · next overflows =>
      rw [if_neg overflows] at room
      have rowLeft : layout.full.length + 2 ≤
          terminal.rows + terminal.historyLimit := by
        simpa only [List.length_append, List.length_singleton,
          Nat.add_assoc] using room
      obtain ⟨wrapped, columnZero, sameCols, _, _⟩ :=
        printed.wrap column cols width (by omega) rowLeft
      have blank := wrapped.weaken fun row _ blank =>
        (blank.current : CurrentRow unicode [] row)
      obtain ⟨put, moved⟩ := blank.putGlyph columnZero printable (by
        rw [sameCols]
        simp
        omega)
      refine ⟨put.damage, ?_⟩
      rw [damage_eq]
      exact moved

end Printed

/-! ## Extracting what was printed -/

section

variable (unicode : UnicodeWidth) (terminal : Terminal) (text : List Char)

/-- `feed` with text: the parser calls `input` once for each character. -/
def print : Terminal :=
  text.foldl (input unicode) terminal

theorem print_concat
    (ch : Char) :
    print unicode terminal (text ++ [ch]) =
      (print unicode terminal text).input unicode ch := by
  rw [print, List.foldl_append]
  rfl

theorem sameSize_print : SameSize terminal (print unicode terminal text) := by
  induction text using List.reverseRecOn with
  | nil => exact SameSize.refl terminal
  | append_singleton text ch ih =>
      rw [print_concat]
      exact ih.trans (sameSize_input unicode _ ch)

end

theorem printed_new
    (unicode : UnicodeWidth)
    (rows cols historyLimit : Nat) :
    Printed unicode [] (CurrentRow unicode [])
      (Terminal.new rows cols historyLimit) := by
  have blank : ∀ row ∈ blankGrid (max rows 1) (max cols 1), BlankRow row := by
    intro row member cell known
    rw [mem_blankGrid member] at known
    rw [List.eq_of_mem_replicate known]
    exact ⟨rfl, rfl, rfl, rfl, rfl⟩
  exact
  { sized := WellSized.new rows cols historyLimit
    scrollTop := rfl
    scrollBottom := rfl
    primary := rfl
    position := rfl
    rows := by
      obtain ⟨others, total⟩ :=
        Nat.exists_eq_add_of_le (Nat.le_max_right rows 1)
      refine ⟨[], List.replicate (max cols 1) {},
        List.replicate others (List.replicate (max cols 1) {}), ?_, .nil, ?_,
        ?_, ?_⟩
      · simp only [retained, Terminal.new, blankGrid, total, List.nil_append]
        rw [Nat.add_comm, List.replicate_succ]
      · apply BlankRow.current
        apply blank
        simp [blankGrid, total]
      · intro row member
        apply blank
        rw [List.eq_of_mem_replicate member]
        simp [blankGrid, total]
      · simp only [retainedWrapped, Terminal.new, total, List.nil_append,
          List.length_nil, List.replicate_zero, List.length_replicate]
        rw [Nat.add_comm] }

/-- A fresh terminal that printed a text shows its layout, as long as the
history holds the rows that left the grid. -/
theorem printed_print
    {unicode : UnicodeWidth}
    {rows cols historyLimit : Nat}
    (twoColumns : 2 ≤ cols)
    (text : List Char)
    (printable : ∀ ch ∈ text, Printable unicode ch)
    (room : (Layout.ofText unicode cols text).full.length + 1 ≤
      max rows 1 + historyLimit) :
    Printed unicode (Layout.ofText unicode cols text).full
        (CurrentRow unicode (Layout.ofText unicode cols text).last)
        (print unicode (Terminal.new rows cols historyLimit) text) ∧
      (print unicode (Terminal.new rows cols historyLimit) text).cursorCol =
        lineWidth unicode (Layout.ofText unicode cols text).last := by
  induction text using List.reverseRecOn with
  | nil => exact ⟨printed_new unicode rows cols historyLimit, rfl⟩
  | append_singleton text ch ih =>
      have size := sameSize_print unicode
        (Terminal.new rows cols historyLimit) text
      have sameCols : (print unicode (Terminal.new rows cols historyLimit)
          text).cols = cols :=
        size.cols.trans (Nat.max_eq_left (by omega))
      rw [Layout.ofText_concat] at room ⊢
      rw [print_concat]
      have fewer := Layout.length_full_put unicode cols
        (Layout.ofText unicode cols text) ch
      obtain ⟨printed, column⟩ := ih
        (fun other member => printable other (List.mem_append_left _ member))
        (by omega)
      have stepped := printed.input column (by rw [sameCols]; exact twoColumns)
        (printable ch (by simp))
      rw [sameCols, size.rows, size.historyLimit] at stepped
      exact stepped room

/-! ## The extracted text -/

theorem foldl_joinRow_wrapped
    (rows : List (List Char))
    (joined : List Char) :
    (rows.map fun row => (row, true)).foldl joinRow (joined, true) =
      (joined ++ rows.flatten, true) := by
  induction rows generalizing joined with
  | nil => simp
  | cons row rest ih =>
      simp [joinRow, ih]

theorem foldl_joinRow_blank
    (count : Nat)
    (joined : List Char) :
    (List.replicate count ([], false)).foldl joinRow (joined, false) =
      (joined ++ List.replicate count '\n', false) := by
  induction count generalizing joined with
  | zero => simp
  | succ count ih =>
      simp [List.replicate_succ, joinRow, ih]

theorem zip_replicate_length
    {Item : Type}
    (items : List Item)
    (flag : Bool) :
    items.zip (List.replicate items.length flag) =
      items.map fun item => (item, flag) := by
  induction items with
  | nil => rfl
  | cons item rest ih =>
      rw [List.length_cons, List.replicate_succ, List.zip_cons_cons,
        ih, List.map_cons]

theorem map_text_full
    {unicode : UnicodeWidth}
    {full : List (List Char)}
    {above : List Row}
    (lines : List.Forall₂ (FullRow unicode cols) full above) :
    (above.map fun row => Row.text (row.take cols)) =
      full.map (shownLine unicode cols) := by
  induction lines with
  | nil => rfl
  | @cons line row _ _ first _ ih =>
      rw [List.map_cons, List.map_cons, ih,
        List.take_of_length_le (Nat.le_of_eq first.length), first.text]

theorem map_text_blank
    (cols : Nat)
    {below : List Row}
    (blank : ∀ row ∈ below, BlankRow row) :
    (below.map fun row => Row.text (row.take cols)) =
      List.replicate below.length [] := by
  apply List.eq_replicate_iff.2
  refine ⟨List.length_map _, ?_⟩
  intro text member
  obtain ⟨row, known, same⟩ := List.mem_map.1 member
  have blankPart : BlankRow (row.take cols) :=
    fun cell here => blank row known cell (List.mem_of_mem_take here)
  have unused : Row.usedEnd (row.take cols) = 0 := by
    have none := Row.usedEnd_append_of_unused []
      (fun cell here => unused_of_plain (blankPart cell here))
    exact none
  rw [← same, Row.text, unused]
  rfl

/-- The text of the rows: the wrapped lines, the last line, and a line end
for each blank row. -/
theorem extractRows_printed
    {unicode : UnicodeWidth}
    {layout : Layout}
    (printed : Printed unicode layout.full
      (CurrentRow unicode layout.last) terminal) :
    ∃ blanks, terminal.extractRows (-(terminal.history.length : Int))
        (terminal.history.length + terminal.rows) =
      (layout.full.map (shownLine unicode terminal.cols)).flatten ++
        layout.last.rdropWhile (· == ' ') ++ List.replicate blanks '\n' := by
  obtain ⟨above, current, below, rows, lines, known, blank, wrapped⟩ :=
    printed.rows
  have length := printed.current_length rows lines.length_eq
  have texts : terminal.lines =
      (layout.full.map (shownLine unicode terminal.cols)).map
          (fun text => (text, true)) ++
        (layout.last.rdropWhile (· == ' '), false) ::
          List.replicate below.length ([], false) := by
    have sameLength : above.length =
        (layout.full.map (shownLine unicode terminal.cols)).length := by
      rw [List.length_map, lines.length_eq]
    rw [Terminal.lines, rows, wrapped, List.map_append, List.map_cons,
      map_text_full lines, map_text_blank terminal.cols blank,
      List.take_of_length_le (Nat.le_of_eq length), known.text,
      List.zip_append (by simp [sameLength]), sameLength, zip_replicate_length,
      List.replicate_succ, List.zip_cons_cons]
    rw [List.zip_replicate']
  refine ⟨below.length, ?_⟩
  rw [extractRows_retained printed.sized, texts, List.foldl_append,
    foldl_joinRow_wrapped, List.foldl_cons, joinRow, if_neg (by simp),
    foldl_joinRow_blank, List.nil_append]

/-! ## Spaces in the last column -/

/-- No row that wrapped is filled by a space: no space was printed into the
last column. -/
def NoSpaceInLastColumn
    (unicode : UnicodeWidth)
    (cols : Nat)
    (text : List Char) : Prop :=
  ∀ line ∈ (Layout.ofText unicode cols text).full,
    lineWidth unicode line = cols → line.getLast? ≠ some ' '

section

variable (unicode : UnicodeWidth) (cols : Nat)

theorem shownLine_initial
    (line : List Char) : shownLine unicode cols line <+: line := by
  unfold shownLine
  split
  · exact List.rdropWhile_prefix _ _
  · exact List.prefix_refl line

theorem shownLine_eq_iff
    (line : List Char) :
    shownLine unicode cols line = line ↔
      (lineWidth unicode line = cols → line.getLast? ≠ some ' ') := by
  unfold shownLine
  split
  · next filled =>
      rw [List.rdropWhile_eq_self_iff]
      constructor
      · intro kept _ last
        have nonempty : line ≠ [] := by
          intro empty
          rw [empty] at last
          simp at last
        have noSpace := kept nonempty
        rw [List.getLast?_eq_some_getLast nonempty] at last
        simp [Option.some.inj last] at noSpace
      · intro kept nonempty
        have noSpace := kept filled
        rw [List.getLast?_eq_some_getLast nonempty] at noSpace
        simpa using noSpace
  · next open_ =>
      constructor
      · intro _ filled
        exact absurd filled open_
      · intro _
        rfl

theorem length_flatten_shownLine
    (lines : List (List Char)) :
    (lines.map (shownLine unicode cols)).flatten.length ≤
      lines.flatten.length := by
  induction lines with
  | nil => exact Nat.le_refl _
  | cons line rest ih =>
      have shorter := (shownLine_initial unicode cols line).length_le
      simp only [List.map_cons, List.flatten_cons, List.length_append]
      omega

/-- Trimming the lines of a text only loses nothing if it trims no line. -/
theorem shownLine_eq_of_length
    (lines : List (List Char))
    (same : (lines.map (shownLine unicode cols)).flatten.length =
      lines.flatten.length) :
    ∀ line ∈ lines, shownLine unicode cols line = line := by
  induction lines with
  | nil => simp
  | cons line rest ih =>
      have kept := shownLine_initial unicode cols line
      have shorter := kept.length_le
      have restShorter := length_flatten_shownLine unicode cols rest
      simp only [List.map_cons, List.flatten_cons, List.length_append] at same
      intro other member
      rcases List.mem_cons.1 member with here | later
      · rw [here]
        exact kept.eq_of_length (by omega)
      · exact ih (by omega) other later

end

theorem rdropWhile_append_replicate
    (body : List Char)
    (count : Nat) :
    (body ++ List.replicate count '\n').rdropWhile (· == '\n') =
      body.rdropWhile (· == '\n') := by
  induction count with
  | zero => rw [List.replicate_zero, List.append_nil]
  | succ count ih =>
      have grown : List.replicate (count + 1) '\n' =
          List.replicate count '\n' ++ ['\n'] :=
        List.replicate_succ'
      rw [grown, ← List.append_assoc,
        List.rdropWhile_concat_pos _ _ _ (by simp), ih]

/-- The last line of a text ends with the text's last character, which is
neither a space nor a line end. -/
theorem rdropWhile_lines
    {unicode : UnicodeWidth}
    {text : List Char}
    (printable : ∀ ch ∈ text, Printable unicode ch)
    (lastNoSpace : text.getLast? ≠ some ' ') :
    (((Layout.ofText unicode cols text).full.map
          (shownLine unicode cols)).flatten ++
        (Layout.ofText unicode cols text).last.rdropWhile
          (· == ' ')).rdropWhile (· == '\n') =
      ((Layout.ofText unicode cols text).full.map
          (shownLine unicode cols)).flatten ++
        (Layout.ofText unicode cols text).last := by
  rcases List.eq_nil_or_concat text with empty | ⟨front, ch, same⟩
  · subst empty
    rfl
  · rw [List.concat_eq_append] at same
    subst same
    have notSpace : ch ≠ ' ' := by simpa using lastNoSpace
    have notControl := (printable ch (by simp)).notControl
    have notLineEnd : ch ≠ '\n' := by
      intro same
      rw [same] at notControl
      exact absurd notControl (by decide)
    obtain ⟨ahead, last⟩ := Layout.last_ofText_concat unicode cols front ch
    rw [last, List.rdropWhile_concat_neg _ _ _ (by simpa),
      ← List.append_assoc, List.rdropWhile_concat_neg _ _ _ (by simpa)]

/-- The text of a fresh terminal that printed `text`, without the ends of
blank lines, is the text exactly if no space was printed into the last column
of a row. -/
theorem extractRows_print_iff
    {unicode : UnicodeWidth}
    {rows cols historyLimit : Nat}
    (twoColumns : 2 ≤ cols)
    (text : List Char)
    (printable : ∀ ch ∈ text, Printable unicode ch)
    (lastNoSpace : text.getLast? ≠ some ' ')
    (room : (Layout.ofText unicode cols text).full.length + 1 ≤
      max rows 1 + historyLimit) :
    let terminal := print unicode (Terminal.new rows cols historyLimit) text
    (terminal.extractRows (-(terminal.history.length : Int))
        (terminal.history.length + terminal.rows)).rdropWhile (· == '\n') =
      text ↔ NoSpaceInLastColumn unicode cols text := by
  intro terminal
  have sameCols : terminal.cols = cols :=
    (sameSize_print unicode _ text).cols.trans (Nat.max_eq_left (by omega))
  obtain ⟨printed, _⟩ := printed_print twoColumns text printable room
  obtain ⟨blanks, extracted⟩ := extractRows_printed printed
  have whole := Layout.flatten_ofText unicode cols text
  have body : (terminal.extractRows (-(terminal.history.length : Int))
        (terminal.history.length + terminal.rows)).rdropWhile (· == '\n') =
      ((Layout.ofText unicode cols text).full.map
        (shownLine unicode cols)).flatten ++
          (Layout.ofText unicode cols text).last := by
    rw [extracted, sameCols, rdropWhile_append_replicate]
    exact rdropWhile_lines printable lastNoSpace
  rw [body]
  constructor
  · intro same line member
    apply (shownLine_eq_iff unicode cols line).1
    apply shownLine_eq_of_length unicode cols _ _ line member
    have lengths := congrArg List.length (same.trans whole.symm)
    simp only [List.length_append] at lengths
    omega
  · intro noSpace
    have kept : (Layout.ofText unicode cols text).full.map
        (shownLine unicode cols) = (Layout.ofText unicode cols text).full := by
      calc
        _ = (Layout.ofText unicode cols text).full.map id := by
          apply List.map_congr_left
          intro line member
          exact (shownLine_eq_iff unicode cols line).2 (noSpace line member)
        _ = _ := List.map_id _
    rw [kept, whole]

/-- Five letters in rows of four columns. -/
theorem extractRows_print_letters :
    let terminal := print latinAndHan (Terminal.new 2 4 10) "abcde".toList
    (terminal.extractRows (-(terminal.history.length : Int))
        (terminal.history.length + terminal.rows)).rdropWhile (· == '\n') =
      "abcde".toList := by
  have printable : ∀ ch ∈ "abcde".toList, Printable latinAndHan ch :=
    printable_of_all (by decide +kernel)
  refine (extractRows_print_iff (by decide) "abcde".toList printable (by decide)
    (by decide)).2 ?_
  unfold NoSpaceInLastColumn
  decide

/-- The space in the last column of the first row is lost. -/
theorem extractRows_print_lost_space :
    let text := "abc d".toList
    let terminal := print latinAndHan (Terminal.new 2 4 10) text
    (∀ ch ∈ text, Printable latinAndHan ch) ∧
      text.getLast? ≠ some ' ' ∧ terminal.history = [] ∧
      (terminal.extractRows (-(terminal.history.length : Int))
          (terminal.history.length + terminal.rows)).rdropWhile (· == '\n') ≠
        text := by
  exact ⟨printable_of_all (by decide +kernel), by decide, by decide +kernel,
    by decide +kernel⟩

end Terminal
end Vvmux
