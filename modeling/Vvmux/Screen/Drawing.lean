import Vvmux.Layout.Rect
import Vvmux.Screen.AnsiDiff
import Vvmux.Terminal.Handler

/-!
# Drawing a pane and repainting all of it

`ScreenBuffer::set` and `ScreenBuffer::draw_terminal`, and the glyphs that a
full repaint prints: those of all cells of the frame, row by row.
-/

namespace Vvmux
namespace Screen

/-! ## Composing a frame -/

/-- `ScreenBuffer::set`: overwriting one half of a wide glyph erases the
other half. -/
def ScreenBuffer.set
    (buffer : ScreenBuffer)
    (x y : Nat)
    (cell : Cell) : ScreenBuffer :=
  if x < buffer.columns.toNat ∧ y < buffer.rows.toNat then
    let index := buffer.index y x
    let left :=
      if (buffer.cells.getD index {}).wideContinuation ∧ 0 < x then
        buffer.cells.set (index - 1) {}
      else
        buffer.cells
    let both :=
      if x + 1 < buffer.columns.toNat ∧
          (left.getD (index + 1) {}).wideContinuation then
        left.set (index + 1) {}
      else
        left
    { buffer with
      cells := both.set index cell
      sized := by
        have sized := buffer.sized
        simp only [both, left]
        split <;> split <;> simpa using sized }
  else
    buffer

/-- One row of `ScreenBuffer::draw_terminal`, up to a number of columns. -/
def ScreenBuffer.drawLine
    (buffer : ScreenBuffer)
    (x y : Nat)
    (cells : Terminal.Row)
    (width : Nat) : ScreenBuffer :=
  (List.range width).foldl
    (fun drawn column =>
      match cells[column]? with
      | some cell => drawn.set (x + column) y cell.toCell
      | none => drawn)
    buffer

/-- `ScreenBuffer::draw_terminal`.  The rectangle lies in the frame, so that
its coordinates are `u16` sums that do not overflow. -/
def ScreenBuffer.drawTerminal
    (buffer : ScreenBuffer)
    (rect : Layout.Rect)
    (terminal : Terminal)
    (scrollOffset : Nat) : ScreenBuffer :=
  (List.range rect.height).foldl
    (fun drawn (row : Nat) =>
      match terminal.viewportLine ((row : Int) - scrollOffset) with
      | some cells =>
          drawn.drawLine rect.x (rect.y + row) cells rect.width
      | none => drawn)
    buffer

namespace ScreenBuffer

variable (buffer : ScreenBuffer) {row column : Nat}

theorem index_lt
    (inRows : row < buffer.rows.toNat)
    (inColumns : column < buffer.columns.toNat) :
    buffer.index row column < buffer.cells.length := by
  rw [buffer.sized, index, Nat.mul_comm buffer.columns.toNat]
  calc
    row * buffer.columns.toNat + column <
        row * buffer.columns.toNat + buffer.columns.toNat := by omega
    _ = (row + 1) * buffer.columns.toNat := by rw [Nat.succ_mul]
    _ ≤ buffer.rows.toNat * buffer.columns.toNat :=
        Nat.mul_le_mul_right _ inRows

theorem index_inj
    {row column otherRow otherColumn : Nat}
    (inColumns : column < buffer.columns.toNat)
    (otherInColumns : otherColumn < buffer.columns.toNat)
    (same : buffer.index row column = buffer.index otherRow otherColumn) :
    row = otherRow ∧ column = otherColumn := by
  unfold index at same
  have columns := congrArg (· % buffer.columns.toNat) same
  simp only [Nat.mul_add_mod_self_right, Nat.mod_eq_of_lt inColumns,
    Nat.mod_eq_of_lt otherInColumns] at columns
  refine ⟨?_, columns⟩
  subst columns
  exact Nat.eq_of_mul_eq_mul_right (by omega) (Nat.add_right_cancel same)

@[simp] theorem set_rows
    (x y : Nat)
    (cell : Cell) : (buffer.set x y cell).rows = buffer.rows := by
  unfold set
  split <;> rfl

@[simp] theorem set_columns
    (x y : Nat)
    (cell : Cell) : (buffer.set x y cell).columns = buffer.columns := by
  unfold set
  split <;> rfl

/-- Between cells that continue nothing, `set` writes one cell. -/
theorem set_cellAt
    {buffer : ScreenBuffer}
    {x y : Nat}
    (inColumns : x < buffer.columns.toNat)
    (inRows : y < buffer.rows.toNat)
    (here : (buffer.cellAt y x).wideContinuation = false)
    (right : x + 1 < buffer.columns.toNat →
      (buffer.cellAt y (x + 1)).wideContinuation = false)
    (cell : Cell)
    {row column : Nat}
    (columnInside : column < buffer.columns.toNat) :
    (buffer.set x y cell).cellAt row column =
      if row = y ∧ column = x then cell else buffer.cellAt row column := by
  have written : (buffer.set x y cell).cells =
      buffer.cells.set (buffer.index y x) cell := by
    unfold cellAt at here right
    have next : buffer.index y x + 1 = buffer.index y (x + 1) := by
      rw [index, index, Nat.add_assoc]
    have keepsLeft : ¬ ((buffer.cells.getD (buffer.index y x) {}).wideContinuation
        = true ∧ 0 < x) := by
      rw [here]
      simp
    have keepsRight : ¬ (x + 1 < buffer.columns.toNat ∧
        (buffer.cells.getD (buffer.index y x + 1) {}).wideContinuation =
          true) := by
      rintro ⟨more, continues⟩
      rw [next, right more] at continues
      exact Bool.false_ne_true continues
    unfold set
    rw [if_pos ⟨inColumns, inRows⟩]
    dsimp only
    rw [if_neg keepsLeft, if_neg keepsRight]
  have sameIndex : (buffer.set x y cell).index row column =
      buffer.index row column := by
    rw [index, index, set_columns]
  have inside := buffer.index_lt inRows inColumns
  unfold cellAt
  rw [written, sameIndex, List.getD_eq_getElem?_getD, List.getElem?_set]
  by_cases same : buffer.index y x = buffer.index row column
  · obtain ⟨sameRow, sameColumn⟩ :=
      buffer.index_inj inColumns columnInside same
    rw [if_pos same, if_pos inside, if_pos ⟨sameRow.symm, sameColumn.symm⟩]
    rfl
  · have other : ¬ (row = y ∧ column = x) := by
      rintro ⟨sameRow, sameColumn⟩
      exact same (by rw [sameRow, sameColumn])
    rw [if_neg same, if_neg other, List.getD_eq_getElem?_getD]

/-- A frame of the same size. -/
structure SameFrame (before after : ScreenBuffer) : Prop where
  rows : after.rows = before.rows
  columns : after.columns = before.columns

theorem SameFrame.refl (buffer : ScreenBuffer) : SameFrame buffer buffer :=
  ⟨rfl, rfl⟩

theorem SameFrame.trans
    {first second third : ScreenBuffer}
    (before : SameFrame first second)
    (after : SameFrame second third) : SameFrame first third :=
  ⟨after.rows.trans before.rows, after.columns.trans before.columns⟩

theorem sameFrame_foldl
    {Item : Type}
    (draw : ScreenBuffer → Item → ScreenBuffer)
    (same : ∀ buffer item, SameFrame buffer (draw buffer item))
    (items : List Item)
    (buffer : ScreenBuffer) : SameFrame buffer (items.foldl draw buffer) := by
  induction items generalizing buffer with
  | nil => exact SameFrame.refl buffer
  | cons item rest ih =>
      exact (same buffer item).trans (ih _)

theorem sameFrame_drawLine
    (x y : Nat)
    (cells : Terminal.Row)
    (width : Nat) : SameFrame buffer (buffer.drawLine x y cells width) := by
  apply sameFrame_foldl
  intro drawn column
  split
  · exact ⟨set_rows _ _ _ _, set_columns _ _ _ _⟩
  · exact SameFrame.refl drawn

theorem sameFrame_drawTerminal
    (rect : Layout.Rect)
    (terminal : Terminal)
    (scrollOffset : Nat) :
    SameFrame buffer (buffer.drawTerminal rect terminal scrollOffset) := by
  apply sameFrame_foldl
  intro drawn row
  split
  · exact sameFrame_drawLine _ _ _ _ _
  · exact SameFrame.refl drawn

/-- Drawing a line over cells that continue nothing replaces its cells. -/
theorem drawLine_cellAt
    {buffer : ScreenBuffer}
    {x y : Nat}
    (inRows : y < buffer.rows.toNat)
    (cells : Terminal.Row)
    (width : Nat)
    (inside : x + width ≤ buffer.columns.toNat)
    (blank : ∀ column, x ≤ column → column < buffer.columns.toNat →
      (buffer.cellAt y column).wideContinuation = false) :
    ∀ row column, column < buffer.columns.toNat →
      (buffer.drawLine x y cells width).cellAt row column =
        if row = y ∧ x ≤ column ∧ column < x + width ∧
            column - x < cells.length then
          (cells.getD (column - x) {}).toCell
        else
          buffer.cellAt row column := by
  induction width with
  | zero =>
      intro row column _
      rw [if_neg (by omega)]
      rfl
  | succ width ih =>
      have drawn := ih (by omega)
      have frame := sameFrame_drawLine buffer x y cells width
      have unfolded : buffer.drawLine x y cells (width + 1) =
          match cells[width]? with
          | some cell => (buffer.drawLine x y cells width).set (x + width) y
              cell.toCell
          | none => buffer.drawLine x y cells width := by
        simp only [drawLine, List.range_succ, List.foldl_append,
          List.foldl_cons, List.foldl_nil]
      rw [unfolded]
      cases known : cells[width]? with
      | none =>
          have outside : cells.length ≤ width := List.getElem?_eq_none_iff.1 known
          intro row column columnInside
          dsimp only
          rw [drawn row column columnInside]
          by_cases covered : row = y ∧ x ≤ column ∧ column < x + width ∧
              column - x < cells.length
          · rw [if_pos covered, if_pos (by omega)]
          · rw [if_neg covered, if_neg (by omega)]
      | some cell =>
          have more : width < cells.length :=
            (List.getElem?_eq_some_iff.1 known).1
          have untouched : ∀ column, x + width ≤ column →
              column < buffer.columns.toNat →
              ((buffer.drawLine x y cells width).cellAt y
                column).wideContinuation = false := by
            intro column behind columnInside
            rw [drawn y column columnInside, if_neg (by omega)]
            exact blank column (by omega) columnInside
          intro row column columnInside
          dsimp only
          rw [set_cellAt (by rw [frame.columns]; omega)
            (by rw [frame.rows]; exact inRows)
            (untouched _ (by omega) (by omega))
            (by
              rw [frame.columns]
              exact fun fits => untouched _ (by omega) fits) _
            (by rw [frame.columns]; exact columnInside),
            drawn row column columnInside]
          by_cases here : row = y ∧ column = x + width
          · have position : column - x = width := by omega
            rw [if_pos here, if_pos (by omega), position,
              List.getD_eq_getElem?_getD, known]
            rfl
          · rw [if_neg here]
            by_cases covered : row = y ∧ x ≤ column ∧ column < x + width ∧
                column - x < cells.length
            · rw [if_pos covered, if_pos (by omega)]
            · rw [if_neg covered, if_neg (by omega)]

/-- A fresh frame continues nothing. -/
theorem new_cellAt
    (columns rows : UInt16)
    (row column : Nat) :
    (ScreenBuffer.new columns rows).cellAt row column = {} := by
  unfold cellAt new
  rw [List.getD_eq_getElem?_getD, List.getElem?_replicate]
  split <;> rfl

/-- `draw_terminal` in a rectangle of a fresh frame shows the rows of the
viewport. -/
theorem drawTerminal_cellAt
    (columns rows : UInt16)
    {rect : Layout.Rect}
    (inColumns : rect.x + rect.width ≤ columns.toNat)
    (inRows : rect.y + rect.height ≤ rows.toNat)
    (terminal : Terminal)
    (scrollOffset : Nat)
    (rowInside : row < rect.height)
    (columnInside : column < rect.width)
    {cells : Terminal.Row}
    (shown : terminal.viewportLine ((row : Int) - scrollOffset) = some cells)
    {cell : Terminal.GridCell}
    (known : cells[column]? = some cell) :
    ((ScreenBuffer.new columns rows).drawTerminal rect terminal
      scrollOffset).cellAt (rect.y + row) (rect.x + column) = cell.toCell := by
  -- After some rows, a row of the rectangle shows its line if it was drawn,
  -- and the rows below are as fresh as before.
  have upTo : ∀ count ≤ rect.height,
      let drawn := (ScreenBuffer.new columns rows).drawTerminal
        { rect with height := count } terminal scrollOffset
      (∀ later, rect.y + count ≤ later → ∀ position < columns.toNat,
          drawn.cellAt later position = {}) ∧
        (row < count →
          drawn.cellAt (rect.y + row) (rect.x + column) = cell.toCell) := by
    intro count inside
    induction count with
    | zero =>
        refine ⟨?_, by omega⟩
        intro later _ position _
        exact new_cellAt columns rows later position
    | succ count ih =>
        obtain ⟨fresh, drawn⟩ := ih (by omega)
        have frame := sameFrame_drawTerminal (ScreenBuffer.new columns rows)
          { rect with height := count } terminal scrollOffset
        simp only [drawTerminal, List.range_succ, List.foldl_append,
          List.foldl_cons, List.foldl_nil] at frame fresh drawn ⊢
        generalize (List.range count).foldl
          (fun drawn (row : Nat) =>
            match terminal.viewportLine ((row : Int) - scrollOffset) with
            | some cells =>
                drawn.drawLine rect.x (rect.y + row) cells rect.width
            | none => drawn)
          (ScreenBuffer.new columns rows) = before at frame fresh drawn ⊢
        cases here : terminal.viewportLine ((count : Int) - scrollOffset) with
        | none =>
            refine ⟨fun later after => fresh later (by omega), ?_⟩
            intro past
            have other : row ≠ count := by
              rintro rfl
              rw [here] at shown
              cases shown
            exact drawn (by omega)
        | some other =>
            have newRows : before.rows.toNat = rows.toNat := by
              rw [frame.rows]
              rfl
            have newColumns : before.columns.toNat = columns.toNat := by
              rw [frame.columns]
              rfl
            have afterLine := @drawLine_cellAt before
              rect.x (rect.y + count) (by omega) other rect.width
              (by omega)
              (by
                intro position _ positionInside
                rw [fresh _ (by omega) _ (by omega)])
            constructor
            · intro later after position positionInside
              dsimp only
              rw [afterLine _ _ (by omega), if_neg (by omega),
                fresh later (by omega) position positionInside]
            · intro past
              dsimp only
              rw [afterLine _ _ (by omega)]
              by_cases isRow : row = count
              · subst isRow
                rw [here] at shown
                obtain rfl := Option.some.inj shown
                have long : column < other.length :=
                  (List.getElem?_eq_some_iff.1 known).1
                rw [if_pos (by omega), Nat.add_sub_cancel_left,
                  List.getD_eq_getElem?_getD, known]
                rfl
              · rw [if_neg (by omega)]
                exact drawn (by omega)
  exact (upTo rect.height le_rfl).2 rowInside

end ScreenBuffer

/-! ## What a full repaint prints -/

/-- The glyphs of an output, with their combining marks. -/
def glyphs (output : List Control) : List (Char × String) :=
  output.filterMap fun control =>
    match control with
    | .print ch combining => some (ch, combining)
    | _ => none

/-- The glyph of a cell; a continuation cell has none. -/
def Cell.glyphs (cell : Cell) : List (Char × String) :=
  if cell.wideContinuation then [] else [(cell.ch, cell.combining)]

@[simp] theorem glyphs_append
    (first second : List Control) :
    glyphs (first ++ second) = glyphs first ++ glyphs second :=
  List.filterMap_append

@[simp] theorem glyphs_cellText
    (cell : Cell) : glyphs (cellText cell) = cell.glyphs := by
  unfold cellText Cell.glyphs
  split <;> rfl

@[simp] theorem glyphs_styleChange
    (style : Option Style)
    (next : Style) : glyphs (styleChange style next) = [] := by
  unfold styleChange writeStyle
  split
  · rfl
  · cases next.hyperlink <;> rfl

theorem glyphs_paintRun_full
    (previous : Option ScreenBuffer)
    (current : ScreenBuffer)
    (row remaining column : Nat)
    (style : Option Style) :
    (paintRun true previous current row remaining column style).column =
        column + remaining ∧
      glyphs (paintRun true previous current row remaining column
          style).output =
        (List.range' column remaining).flatMap fun position =>
          (current.cellAt row position).glyphs := by
  induction remaining generalizing column style with
  | zero => exact ⟨rfl, rfl⟩
  | succ remaining ih =>
      obtain ⟨stop, rest⟩ := ih (column + 1)
        (some (Style.ofCell (current.cellAt row column)))
      simp only [paintRun, runEnds, Bool.not_true, Bool.false_and,
        Bool.false_eq_true, if_false]
      refine ⟨by rw [stop]; omega, ?_⟩
      rw [glyphs_append, glyphs_append, glyphs_styleChange, glyphs_cellText,
        rest, List.nil_append, List.range'_succ, List.flatMap_cons]

theorem glyphs_paintRow_full
    (previous : Option ScreenBuffer)
    (current : ScreenBuffer)
    (row : Nat)
    (style : Option Style) :
    glyphs (paintRow true previous current row current.columns.toNat 0
        style).1 =
      (List.range current.columns.toNat).flatMap fun position =>
        (current.cellAt row position).glyphs := by
  have atEnd : ∀ rounds style,
      (paintRow true previous current row rounds current.columns.toNat
        style).1 = [] := by
    intro rounds style
    cases rounds with
    | zero => rfl
    | succ rounds => rw [paintRow, if_neg (by omega)]
  cases empty : current.columns.toNat with
  | zero => rfl
  | succ columns =>
      obtain ⟨stop, painted⟩ := glyphs_paintRun_full previous current row
        (columns + 1) 0 style
      rw [Nat.zero_add] at stop
      have behind := atEnd columns
      rw [empty] at behind
      simp only [paintRow, empty, changed, Bool.true_or, if_true,
        Nat.zero_lt_succ, Nat.sub_zero, stop, behind, List.append_nil]
      rw [List.range_eq_range', ← painted]
      rfl

/-- The cells of a frame, row by row. -/
theorem ScreenBuffer.cells_eq
    (buffer : ScreenBuffer) :
    buffer.cells =
      (List.range buffer.rows.toNat).flatMap fun row =>
        (List.range buffer.columns.toNat).map (buffer.cellAt row) := by
  have upTo : ∀ count ≤ buffer.rows.toNat,
      (List.range count).flatMap (fun row =>
          (List.range buffer.columns.toNat).map (buffer.cellAt row)) =
        buffer.cells.take (count * buffer.columns.toNat) := by
    intro count inside
    induction count with
    | zero => simp
    | succ count ih =>
        have rows := ih (by omega)
        have fits : (count + 1) * buffer.columns.toNat ≤
            buffer.cells.length := by
          rw [buffer.sized, Nat.mul_comm buffer.columns.toNat]
          exact Nat.mul_le_mul_right _ inside
        rw [Nat.succ_mul] at fits ⊢
        rw [List.range_succ, List.flatMap_append, rows, List.take_add,
          List.flatMap_singleton]
        congr 1
        apply List.ext_getElem
        · simp only [List.length_map, List.length_range, List.length_take,
            List.length_drop]
          omega
        · intro column inRange _
          rw [List.getElem_map, List.getElem_range, List.getElem_take,
            List.getElem_drop]
          have inColumns : column < buffer.columns.toNat := by
            simpa using inRange
          rw [ScreenBuffer.cellAt, ScreenBuffer.index,
            List.getD_eq_getElem?_getD, List.getElem?_eq_getElem (by omega)]
          rfl
  have whole := upTo buffer.rows.toNat le_rfl
  rw [whole, List.take_of_length_le]
  rw [buffer.sized, Nat.mul_comm]

/-- A full repaint prints the glyphs of all cells, in the order of the
frame. -/
theorem glyphs_ansiDiff_full
    {previous : Option ScreenBuffer}
    {current : ScreenBuffer}
    {forceFull : Bool}
    (full : repaintsAll previous current forceFull = true) :
    glyphs (ansiDiff previous current forceFull) =
      current.cells.flatMap Cell.glyphs := by
  have rows : ∀ remaining row style,
      glyphs (paintRows true previous current remaining row style) =
        (List.range' row remaining).flatMap fun row =>
          (List.range current.columns.toNat).flatMap fun position =>
            (current.cellAt row position).glyphs := by
    intro remaining
    induction remaining with
    | zero =>
        intro row style
        rfl
    | succ remaining ih =>
        intro row style
        simp only [paintRows]
        rw [glyphs_append, glyphs_paintRow_full, ih,
          List.range'_succ, List.flatMap_cons]
  have start : glyphs (frameStart true) = [] := rfl
  have ending : glyphs (frameEnd current.cursor) = [] := by
    unfold frameEnd
    cases current.cursor with
    | none => rfl
    | some cursor => rfl
  unfold ansiDiff
  dsimp only
  rw [full, glyphs_append, glyphs_append, start, ending, rows,
    List.nil_append, List.append_nil, ← List.range_eq_range']
  rw [current.cells_eq]
  simp only [List.flatMap_assoc, List.flatMap_map]

end Screen
end Vvmux
