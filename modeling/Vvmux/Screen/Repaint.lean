import Vvmux.Screen.OuterTerminal

/-!
# Incremental and full repaints

What the output of `ansi_diff` does to the outer terminal.  A run of
repainted cells keeps the cursor of the terminal in step with the loop as
long as it starts at a cell that has a glyph.  A run that starts at the
continuation of an unchanged wide glyph prints nothing for its first cell,
so every later glyph of that run lands one column to the left.
-/

namespace Vvmux
namespace Screen

/-- The glyph a terminal showing the buffer has at a place. -/
def ScreenBuffer.glyphAt
    (buffer : ScreenBuffer)
    (row column : Nat) : Glyph where
  ch := (buffer.cellAt row column).ch
  combining := (buffer.cellAt row column).combining
  pen := (Style.ofCell (buffer.cellAt row column)).pen

/-- What a terminal showing the buffer has at a place. -/
def ScreenBuffer.face
    (buffer : ScreenBuffer)
    (width : Char → Nat)
    (row column : Nat) : Half Glyph :=
  if (buffer.cellAt row column).wideContinuation then
    .right (buffer.glyphAt row (column - 1))
  else if OuterTerminal.isWide width (buffer.cellAt row column).ch then
    .left (buffer.glyphAt row column)
  else .whole (buffer.glyphAt row column)

/-- The terminal shows the buffer. -/
structure OuterTerminal.Displays
    (outer : OuterTerminal)
    (width : Char → Nat)
    (buffer : ScreenBuffer) : Prop where
  rows : outer.rows = buffer.rows.toNat
  columns : outer.columns = buffer.columns.toNat
  cells : ∀ row < outer.rows, ∀ column < outer.columns,
    (outer.line row).half column = buffer.face width row column

/-- The run of repainted cells that starts behind `leading` starts inside an
unchanged wide glyph, and goes on. -/
structure Slips
    (previous current : ScreenBuffer)
    (row leading : Nat) : Prop where
  inRow : leading + 2 < current.columns.toNat
  kept : previous.cellAt row leading = current.cellAt row leading
  continuation :
    (current.cellAt row (leading + 1)).wideContinuation = true
  repainted :
    previous.cellAt row (leading + 1) ≠ current.cellAt row (leading + 1)
  followed :
    previous.cellAt row (leading + 2) ≠ current.cellAt row (leading + 2)

/-! ## Faces of a paired buffer -/

section Faces

variable {width : Char → Nat} {buffer : ScreenBuffer}

theorem face_isLeft_iff
    (row column : Nat) :
    (buffer.face width row column).isLeft = true ↔
      (buffer.cellAt row column).wideContinuation = false ∧
      OuterTerminal.isWide width (buffer.cellAt row column).ch = true := by
  simp only [ScreenBuffer.face]
  split
  · simp_all [Half.isLeft]
  · split
    · simp_all [Half.isLeft]
    · simp_all [Half.isLeft]

variable {row column : Nat}

theorem face_not_right
    (glyph : (buffer.cellAt row column).wideContinuation = false) :
    (buffer.face width row column).isRight = false := by
  simp only [ScreenBuffer.face, glyph, Bool.false_eq_true, if_false]
  split
  · rfl
  · rfl

/-- A wide glyph is followed by its continuation. -/
theorem ScreenBuffer.Paired.continued
    (paired : buffer.Paired width)
    (rowInside : row < buffer.rows.toNat)
    (columnInside : column < buffer.columns.toNat)
    (glyph : (buffer.cellAt row column).wideContinuation = false)
    (wide : OuterTerminal.isWide width (buffer.cellAt row column).ch = true) :
    column + 1 < buffer.columns.toNat ∧
      (buffer.cellAt row (column + 1)).wideContinuation = true := by
  have two : width (buffer.cellAt row column).ch = 2 := by
    simpa [OuterTerminal.isWide] using wide
  rcases paired.glyph row rowInside column columnInside glyph with
    one | ⟨-, inside, continued⟩
  · omega
  · exact ⟨inside, continued⟩

/-- A continuation follows a wide glyph. -/
theorem ScreenBuffer.Paired.leading
    (paired : buffer.Paired width)
    {row leading : Nat}
    (rowInside : row < buffer.rows.toNat)
    (columnInside : leading + 1 < buffer.columns.toNat)
    (continued :
      (buffer.cellAt row (leading + 1)).wideContinuation = true) :
    (buffer.cellAt row leading).wideContinuation = false ∧
      OuterTerminal.isWide width (buffer.cellAt row leading).ch = true := by
  obtain ⟨other, same, glyph, two⟩ :=
    paired.continuation row rowInside _ columnInside continued
  have equal : other = leading := (Nat.succ.inj same).symm
  subst equal
  exact ⟨glyph, by simpa [OuterTerminal.isWide] using two⟩

/-- A row does not start with a continuation. -/
theorem ScreenBuffer.Paired.exists_leading
    (paired : buffer.Paired width)
    (rowInside : row < buffer.rows.toNat)
    (columnInside : column < buffer.columns.toNat)
    (continued : (buffer.cellAt row column).wideContinuation = true) :
    ∃ leading, column = leading + 1 := by
  obtain ⟨leading, same, -⟩ :=
    paired.continuation row rowInside column columnInside continued
  exact ⟨leading, same⟩

/-- The column the cursor of a terminal in step with the loop is in. -/
def cursorFor (buffer : ScreenBuffer) (row column : Nat) : Nat :=
  if column < buffer.columns.toNat ∧
      (buffer.cellAt row column).wideContinuation = true then
    column + 1
  else column

theorem cursorFor_glyph
    (glyph : (buffer.cellAt row column).wideContinuation = false) :
    cursorFor buffer row column = column := by
  simp [cursorFor, glyph]

theorem le_cursorFor
    (row column : Nat) : column ≤ cursorFor buffer row column := by
  unfold cursorFor
  split
  · omega
  · exact le_rfl

section

variable (paired : buffer.Paired width) (rowInside : row < buffer.rows.toNat)
  (columnInside : column < buffer.columns.toNat)
include paired rowInside columnInside

/-- Printing the glyph of a cell moves the cursor along with the loop. -/
theorem ScreenBuffer.Paired.cursorFor_succ
    (glyph : (buffer.cellAt row column).wideContinuation = false) :
    cursorFor buffer row (column + 1) =
      column + WideLine.span
        (OuterTerminal.isWide width (buffer.cellAt row column).ch) := by
  cases wide : OuterTerminal.isWide width (buffer.cellAt row column).ch with
  | true =>
      have next := paired.continued rowInside columnInside glyph wide
      simp [cursorFor, next, WideLine.span]
  | false =>
      unfold cursorFor
      rw [if_neg]
      · rfl
      · rintro ⟨inside, continued⟩
        have before := paired.leading rowInside inside continued
        rw [wide] at before
        simp at before

/-- A continuation is not followed by another one. -/
theorem ScreenBuffer.Paired.cursorFor_continuation
    (continued : (buffer.cellAt row column).wideContinuation = true) :
    cursorFor buffer row column = column + 1 ∧
      cursorFor buffer row (column + 1) = column + 1 := by
  constructor
  · simp [cursorFor, columnInside, continued]
  · unfold cursorFor
    rw [if_neg]
    rintro ⟨inside, again⟩
    have before := paired.leading rowInside inside again
    rw [continued] at before
    simp at before

/-- Every glyph fits in its row. -/
theorem ScreenBuffer.Paired.fits
    (glyph : (buffer.cellAt row column).wideContinuation = false) :
    column + WideLine.span
        (OuterTerminal.isWide width (buffer.cellAt row column).ch) ≤
      buffer.columns.toNat := by
  cases wide : OuterTerminal.isWide width (buffer.cellAt row column).ch with
  | true =>
      have next := paired.continued rowInside columnInside glyph wide
      simp only [WideLine.span, if_true]
      omega
  | false =>
      simp only [WideLine.span, Bool.false_eq_true, if_false]
      omega

end

end Faces

/-! ## One line -/

section Lines

variable (width : Char → Nat) (full : Bool)
  (previous : Option ScreenBuffer) (current : ScreenBuffer) (row : Nat)

/-- The line is right up to `column`, and from there on at the cells that the
loop leaves alone. -/
structure CorrectTo (line : WideLine Glyph) (column : Nat) : Prop where
  done : ∀ other < column, other < current.columns.toNat →
    line.half other = current.face width row other
  kept : ∀ other, column ≤ other → other < current.columns.toNat →
    changed full previous current row other = false →
    (current.cellAt row other).wideContinuation = false →
    line.half other = current.face width row other

/-- A wide glyph of the row is missing from the line. -/
structure CutAt (line : WideLine Glyph) (leading : Nat) : Prop where
  inRow : leading < current.columns.toNat
  wide : (current.face width row leading).isLeft = true
  gone : (line.half leading).isLeft = false

variable {width full previous current row}
variable (paired : current.Paired width) (rowInside : row < current.rows.toNat)

include paired rowInside

variable {line : WideLine Glyph} {column : Nat}

/-- The loop passes a cell that it need not print. -/
theorem CorrectTo.skip
    (correct : CorrectTo width full previous current row line column)
    (columnInside : column < current.columns.toNat)
    (passed : changed full previous current row column = false ∨
      (current.cellAt row column).wideContinuation = true) :
    CorrectTo width full previous current row line (column + 1) where
  done := by
    intro other before inside
    by_cases same : other = column
    · subst same
      cases continued : (current.cellAt row other).wideContinuation with
      | false =>
          rw [continued] at passed
          have unchanged := passed.resolve_right (by simp)
          exact correct.kept other le_rfl inside unchanged continued
      | true =>
          -- The left half is in place, so its right half is too.
          obtain ⟨leading, next⟩ :=
            paired.exists_leading rowInside inside continued
          subst next
          obtain ⟨glyph, wide⟩ := paired.leading rowInside inside continued
          have left := correct.done leading (by omega) (by omega)
          have leftFace : current.face width row leading =
              .left (current.glyphAt row leading) := by
            simp [ScreenBuffer.face, glyph, wide]
          rw [leftFace] at left
          rw [(line.paired leading _).1 left]
          simp [ScreenBuffer.face, continued]
    · exact correct.done other (by omega) inside
  kept := by
    intro other after inside unchanged glyph
    exact correct.kept other (by omega) inside unchanged glyph

/-- The loop prints the glyph of a cell in its place. -/
theorem CorrectTo.print
    (correct : CorrectTo width full previous current row line column)
    (columnInside : column < current.columns.toNat)
    (glyph : (current.cellAt row column).wideContinuation = false) :
    CorrectTo width full previous current row
      (line.put {} column
        (OuterTerminal.isWide width (current.cellAt row column).ch)
        (current.glyphAt row column))
      (column + 1) where
  done := by
    intro other before inside
    by_cases same : other = column
    · subst same
      rw [WideLine.put_self]
      simp [ScreenBuffer.face, glyph]
    · have shown := correct.done other (by omega) inside
      rw [WideLine.put_before _ _ _ _ _ (by omega)]
      · exact shown
      · intro next
        subst next
        rw [shown]
        by_contra left
        have wide := (face_isLeft_iff row other).1 (by simpa using left)
        have continued := paired.continued rowInside inside wide.1 wide.2
        rw [glyph] at continued
        simp at continued
  kept := by
    intro other after inside unchanged otherGlyph
    have shown := correct.kept other (by omega) inside unchanged otherGlyph
    have behind : column + WideLine.span
        (OuterTerminal.isWide width (current.cellAt row column).ch) ≤
          other := by
      rw [← paired.cursorFor_succ rowInside columnInside glyph]
      unfold cursorFor
      split
      · rename_i continued
        by_contra close
        have same : other = column + 1 := by
          omega
        subst same
        rw [otherGlyph] at continued
        simp at continued
      · exact after
    rw [WideLine.put_after _ _ _ _ _ behind]
    · exact shown
    · intro _
      rw [shown]
      exact face_not_right otherGlyph

omit paired rowInside

theorem CutAt.put
    {leading column : Nat}
    (cut : CutAt width current row line leading)
    (before : leading < column)
    (wide : Bool)
    (glyph : Glyph) :
    CutAt width current row (line.put {} column wide glyph) leading :=
  { cut with
    gone := line.put_not_left {} column wide glyph before cut.gone }

end Lines

/-! ## One cell and one run on the terminal -/

/-- Only one row of the terminal is written to. -/
structure OuterTerminal.SameElsewhere
    (row : Nat)
    (before after : OuterTerminal) : Prop where
  rows : after.rows = before.rows
  columns : after.columns = before.columns
  lines : ∀ other, other ≠ row → after.line other = before.line other

theorem OuterTerminal.SameElsewhere.refl
    (row : Nat)
    (outer : OuterTerminal) : outer.SameElsewhere row outer :=
  ⟨rfl, rfl, fun _ _ => rfl⟩

theorem OuterTerminal.SameElsewhere.trans
    {row : Nat}
    {first second third : OuterTerminal}
    (before : first.SameElsewhere row second)
    (after : second.SameElsewhere row third) :
    first.SameElsewhere row third where
  rows := after.rows.trans before.rows
  columns := after.columns.trans before.columns
  lines := by
    intro other different
    rw [after.lines other different, before.lines other different]

/-- The terminal with the rendition of a cell. -/
def OuterTerminal.styled
    (outer : OuterTerminal)
    (cell : Cell) : OuterTerminal :=
  { outer with pen := (Style.ofCell cell).pen }

theorem OuterTerminal.sameElsewhere_styled
    (outer : OuterTerminal)
    (row : Nat)
    (cell : Cell) : outer.SameElsewhere row (outer.styled cell) :=
  ⟨rfl, rfl, fun _ _ => rfl⟩

/-- The terminal after a cell with a glyph is printed at its cursor. -/
def OuterTerminal.printed
    (outer : OuterTerminal)
    (width : Char → Nat)
    (cell : Cell) : OuterTerminal :=
  (outer.styled cell).printHere (isWide width cell.ch) cell.ch cell.combining

section Runs

variable {width : Char → Nat} {full : Bool}
  {previous : Option ScreenBuffer} {current : ScreenBuffer}

/-- The terminal while a run is painted: it has the size of the buffer, its
cursor is in the row, and its rendition is the cached style's. -/
structure Painting
    (current : ScreenBuffer)
    (row : Nat)
    (style : Option Style)
    (outer : OuterTerminal) : Prop where
  columns : outer.columns = current.columns.toNat
  cursorRow : outer.cursorRow = row
  cached : CachedBy style outer

variable {row column : Nat} {style : Option Style} {outer : OuterTerminal}

section

variable (painting : Painting current row style outer)
include painting

theorem Painting.styled
    (cell : Cell) :
    Painting current row (some (Style.ofCell cell)) (outer.styled cell) where
  columns := painting.columns
  cursorRow := painting.cursorRow
  cached := by
    intro cached same
    rw [← Option.some.inj same]
    rfl

theorem Painting.printed
    (cell : Cell) :
    Painting current row (some (Style.ofCell cell))
      (outer.printed width cell) where
  columns := painting.columns
  cursorRow := painting.cursorRow
  cached := (painting.styled cell).cached

theorem Painting.sameElsewhere_printed
    (cell : Cell) : outer.SameElsewhere row (outer.printed width cell) where
  rows := rfl
  columns := rfl
  lines := by
    intro other different
    rw [← painting.cursorRow] at different
    exact Function.update_of_ne different _ _

end

theorem Painting.printed_line
    (painting : Painting current row style outer) :
    (outer.printed width (current.cellAt row column)).line row =
      (outer.line row).put {} outer.cursorColumn
        (OuterTerminal.isWide width (current.cellAt row column).ch)
        (current.glyphAt row column) := by
  unfold OuterTerminal.printed OuterTerminal.printHere
  simp only [OuterTerminal.styled, painting.cursorRow]
  exact Function.update_self _ _ _

/-- A continuation cell only sets the rendition. -/
theorem applyAll_continuation
    {cell : Cell}
    (cached : CachedBy style outer)
    (continued : cell.wideContinuation = true) :
    outer.applyAll width
        (styleChange style (Style.ofCell cell) ++ cellText cell) =
      outer.styled cell := by
  rw [OuterTerminal.applyAll_append, applyAll_styleChange width cached]
  simp [cellText, continued, OuterTerminal.styled]

/-- A cell with a glyph prints it where the cursor is. -/
theorem applyAll_glyph
    {cell : Cell}
    (cached : CachedBy style outer)
    (glyph : cell.wideContinuation = false)
    (fits : outer.cursorColumn +
      WideLine.span (OuterTerminal.isWide width cell.ch) ≤ outer.columns) :
    outer.applyAll width
        (styleChange style (Style.ofCell cell) ++ cellText cell) =
      outer.printed width cell := by
  rw [OuterTerminal.applyAll_append, applyAll_styleChange width cached]
  simp only [cellText, glyph, Bool.false_eq_true, if_false,
    OuterTerminal.applyAll_cons, OuterTerminal.applyAll_nil,
    OuterTerminal.apply]
  rw [if_pos fits]
  rfl

/-- The cells of a run are repainted ones, and the run ends at the end of the
row or at a cell that is left alone. -/
theorem paintRun_changed
    (row remaining column : Nat)
    (style : Option Style) :
    (∀ other, column ≤ other →
      other < (paintRun full previous current row
        remaining column style).column →
      changed full previous current row other = true) ∧
    ((paintRun full previous current row remaining column style).column =
        column + remaining ∨
      changed full previous current row
        (paintRun full previous current row
          remaining column style).column = false) := by
  induction remaining generalizing column style with
  | zero =>
      refine ⟨?_, Or.inl rfl⟩
      intro other after before
      simp only [paintRun] at before
      omega
  | succ remaining ih =>
      simp only [paintRun, runEnds_eq_not_changed]
      cases repainted : changed full previous current row column with
      | false =>
          simp only [Bool.not_false, if_true]
          refine ⟨?_, Or.inr repainted⟩
          intro other after before
          omega
      | true =>
          simp only [Bool.not_true, Bool.false_eq_true, if_false]
          obtain ⟨inside, ending⟩ := ih (column + 1)
            (some (Style.ofCell (current.cellAt row column)))
          constructor
          · intro other after before
            by_cases same : other = column
            · rw [same]
              exact repainted
            · exact inside other (by omega) before
          · rcases ending with atEnd | unchanged
            · left
              rw [atEnd]
              omega
            · exact Or.inr unchanged

theorem paintRun_grows
    {row remaining column : Nat}
    (style : Option Style)
    (repainted : changed full previous current row column = true) :
    column < (paintRun full previous current row
      (remaining + 1) column style).column := by
  simp only [paintRun, runEnds_eq_not_changed, repainted, Bool.not_true,
    Bool.false_eq_true, if_false]
  have onwards := (paintRun_column full previous current row remaining
    (column + 1) (some (Style.ofCell (current.cellAt row column)))).1
  omega

/-- A run that starts in step with the terminal leaves the row right. -/
theorem run_correct
    (paired : current.Paired width)
    (rowInside : row < current.rows.toNat)
    (remaining column : Nat)
    (style : Option Style)
    (outer : OuterTerminal)
    (toEnd : column + remaining = current.columns.toNat)
    (painting : Painting current row style outer)
    (inStep : outer.cursorColumn = cursorFor current row column)
    (correct : CorrectTo width full previous current row
      (outer.line row) column) :
    let run := paintRun full previous current row remaining column style
    outer.SameElsewhere row (outer.applyAll width run.output) ∧
      CachedBy run.style (outer.applyAll width run.output) ∧
      CorrectTo width full previous current row
        ((outer.applyAll width run.output).line row) run.column := by
  induction remaining generalizing column style outer with
  | zero => exact ⟨.refl row outer, painting.cached, correct⟩
  | succ remaining ih =>
      have columnInside : column < current.columns.toNat := by
        omega
      have rest : column + 1 + remaining = current.columns.toNat := by
        omega
      simp only [paintRun]
      split
      · exact ⟨.refl row outer, painting.cached, correct⟩
      · simp only
        rw [OuterTerminal.applyAll_append]
        cases continued : (current.cellAt row column).wideContinuation with
        | true =>
            rw [applyAll_continuation painting.cached continued]
            have steps := paired.cursorFor_continuation rowInside
              columnInside continued
            have nextStep : outer.cursorColumn =
                cursorFor current row (column + 1) := by
              rw [inStep, steps.1, steps.2]
            obtain ⟨same, cached, after⟩ :=
              ih (column + 1) _ _ rest
                (painting.styled (current.cellAt row column)) nextStep
                (correct.skip paired rowInside columnInside
                  (Or.inr continued))
            exact ⟨(outer.sameElsewhere_styled row _).trans same,
              cached, after⟩
        | false =>
            have atColumn : outer.cursorColumn = column := by
              rw [inStep, cursorFor_glyph continued]
            have fits := paired.fits rowInside columnInside continued
            rw [← atColumn, ← painting.columns, atColumn] at fits
            rw [applyAll_glyph painting.cached continued
              (by rw [atColumn]; exact fits)]
            have nextStep : (outer.printed width
                (current.cellAt row column)).cursorColumn =
                  cursorFor current row (column + 1) := by
              rw [paired.cursorFor_succ rowInside columnInside continued,
                ← atColumn]
              rfl
            have printed := correct.print paired rowInside columnInside
              continued
            rw [← atColumn, ← painting.printed_line, atColumn] at printed
            obtain ⟨same, cached, after⟩ :=
              ih (column + 1) _ _ rest
                (painting.printed _) nextStep printed
            exact ⟨(painting.sameElsewhere_printed _).trans same,
              cached, after⟩

/-- A run cannot bring back a wide glyph behind its cursor. -/
theorem run_cut
    (paired : current.Paired width)
    {row leading : Nat}
    (rowInside : row < current.rows.toNat)
    (remaining column : Nat)
    (style : Option Style)
    (outer : OuterTerminal)
    (toEnd : column + remaining = current.columns.toNat)
    (painting : Painting current row style outer)
    (behind : outer.cursorColumn ≤ cursorFor current row column)
    (before : leading < outer.cursorColumn)
    (cut : CutAt width current row (outer.line row) leading) :
    let run := paintRun full previous current row remaining column style
    outer.SameElsewhere row (outer.applyAll width run.output) ∧
      CachedBy run.style (outer.applyAll width run.output) ∧
      CutAt width current row
        ((outer.applyAll width run.output).line row) leading := by
  induction remaining generalizing column style outer with
  | zero => exact ⟨.refl row outer, painting.cached, cut⟩
  | succ remaining ih =>
      have columnInside : column < current.columns.toNat := by
        omega
      have rest : column + 1 + remaining = current.columns.toNat := by
        omega
      simp only [paintRun]
      split
      · exact ⟨.refl row outer, painting.cached, cut⟩
      · simp only
        rw [OuterTerminal.applyAll_append]
        cases continued : (current.cellAt row column).wideContinuation with
        | true =>
            rw [applyAll_continuation painting.cached continued]
            have steps := paired.cursorFor_continuation rowInside
              columnInside continued
            rw [steps.1, ← steps.2] at behind
            obtain ⟨same, cached, after⟩ :=
              ih (column + 1) _ _ rest
                (painting.styled (current.cellAt row column))
                behind before cut
            exact ⟨(outer.sameElsewhere_styled row _).trans same,
              cached, after⟩
        | false =>
            rw [cursorFor_glyph continued] at behind
            have fits := paired.fits rowInside columnInside continued
            rw [applyAll_glyph painting.cached continued
              (by rw [painting.columns]; omega)]
            have moved := paired.cursorFor_succ rowInside columnInside
              continued
            have cursor : (outer.printed width
                (current.cellAt row column)).cursorColumn =
                  outer.cursorColumn + WideLine.span (OuterTerminal.isWide
                    width (current.cellAt row column).ch) :=
              rfl
            have printed := cut.put before
              (OuterTerminal.isWide width (current.cellAt row column).ch)
              (current.glyphAt row column)
            rw [← painting.printed_line] at printed
            obtain ⟨same, cached, after⟩ :=
              ih (column + 1) _ _ rest
                (painting.printed _) (by omega) (by omega) printed
            exact ⟨(painting.sameElsewhere_printed _).trans same,
              cached, after⟩

/-- `Slips`, for the loop's own test. -/
structure SlipAt
    (full : Bool)
    (previous : Option ScreenBuffer)
    (current : ScreenBuffer)
    (row leading : Nat) : Prop where
  inRow : leading + 2 < current.columns.toNat
  kept : changed full previous current row leading = false
  continuation :
    (current.cellAt row (leading + 1)).wideContinuation = true
  repainted : changed full previous current row (leading + 1) = true
  followed : changed full previous current row (leading + 2) = true

/-- A run that slips prints its first glyph over the wide glyph it started
in. -/
theorem run_slip
    (paired : current.Paired width)
    {row leading : Nat}
    (rowInside : row < current.rows.toNat)
    (slip : SlipAt full previous current row leading)
    (remaining : Nat)
    (style : Option Style)
    (outer : OuterTerminal)
    (toEnd : leading + 1 + remaining = current.columns.toNat)
    (painting : Painting current row style outer)
    (atStart : outer.cursorColumn = leading + 1) :
    let run := paintRun full previous current row remaining
      (leading + 1) style
    outer.SameElsewhere row (outer.applyAll width run.output) ∧
      CachedBy run.style (outer.applyAll width run.output) ∧
      CutAt width current row
        ((outer.applyAll width run.output).line row) leading := by
  have inRow := slip.inRow
  obtain ⟨rest, rfl⟩ : ∃ rest, remaining = rest + 2 :=
    ⟨remaining - 2, by omega⟩
  have continuationInside : leading + 1 < current.columns.toNat := by
    omega
  have glyph : (current.cellAt row (leading + 2)).wideContinuation = false := by
    by_contra continued
    have before := paired.leading rowInside inRow (by simpa using continued)
    rw [slip.continuation] at before
    simp at before
  have wide := paired.leading rowInside continuationInside slip.continuation
  have face : (current.face width row leading).isLeft = true :=
    (face_isLeft_iff row leading).2 wide
  simp only [paintRun, runEnds_eq_not_changed, slip.repainted, slip.followed,
    Bool.not_true, Bool.false_eq_true, if_false, List.append_assoc]
  rw [← List.append_assoc, OuterTerminal.applyAll_append,
    applyAll_continuation painting.cached slip.continuation]
  have styled := painting.styled (current.cellAt row (leading + 1))
  have fits := paired.fits rowInside inRow glyph
  rw [← List.append_assoc, OuterTerminal.applyAll_append]
  have early : (outer.styled (current.cellAt row (leading + 1))).cursorColumn =
      leading + 1 :=
    atStart
  rw [applyAll_glyph styled.cached glyph
    (by rw [early, styled.columns]; omega)]
  have moved := paired.cursorFor_succ rowInside inRow glyph
  have cursor : ((outer.styled (current.cellAt row (leading + 1))).printed
      width (current.cellAt row (leading + 2))).cursorColumn =
        leading + 1 + WideLine.span (OuterTerminal.isWide width
          (current.cellAt row (leading + 2)).ch) := by
    rw [← early]
    rfl
  have cut : CutAt width current row
      (((outer.styled (current.cellAt row (leading + 1))).printed width
        (current.cellAt row (leading + 2))).line row) leading := by
    refine ⟨by omega, face, ?_⟩
    rw [styled.printed_line, early]
    exact WideLine.put_cuts _ _ _ _ _
  have behind : leading + 1 + WideLine.span (OuterTerminal.isWide width
      (current.cellAt row (leading + 2)).ch) ≤
        cursorFor current row (leading + 2 + 1) := by
    rw [moved]
    omega
  obtain ⟨same, cached, after⟩ := run_cut paired rowInside rest
    (leading + 2 + 1) _ _ (by omega) (styled.printed _)
    (by rw [cursor]; exact behind) (by rw [cursor]; omega) cut
  refine ⟨?_, cached, after⟩
  exact (outer.sameElsewhere_styled row _).trans
    ((styled.sameElsewhere_printed _).trans same)

/-- A run that starts at a continuation and does not slip prints nothing. -/
theorem run_continuation
    (paired : current.Paired width)
    (rowInside : row < current.rows.toNat)
    (columnInside : column < current.columns.toNat)
    (continued : (current.cellAt row column).wideContinuation = true)
    (repainted : changed full previous current row column = true)
    (alone : column + 1 < current.columns.toNat →
      changed full previous current row (column + 1) = false)
    (remaining : Nat)
    (style : Option Style)
    (outer : OuterTerminal)
    (toEnd : column + remaining = current.columns.toNat)
    (painting : Painting current row style outer)
    (correct : CorrectTo width full previous current row
      (outer.line row) column) :
    let run := paintRun full previous current row remaining column style
    run.column = column + 1 ∧
      outer.SameElsewhere row (outer.applyAll width run.output) ∧
      CachedBy run.style (outer.applyAll width run.output) ∧
      CorrectTo width full previous current row
        ((outer.applyAll width run.output).line row) run.column := by
  obtain ⟨rest, rfl⟩ : ∃ rest, remaining = rest + 1 :=
    ⟨remaining - 1, by omega⟩
  have stops : paintRun full previous current row rest (column + 1)
      (some (Style.ofCell (current.cellAt row column))) =
        ⟨[], some (Style.ofCell (current.cellAt row column)), column + 1⟩ := by
    cases rest with
    | zero => rfl
    | succ rest =>
        simp only [paintRun, runEnds_eq_not_changed]
        rw [alone (by omega)]
        simp
  simp only [paintRun, runEnds_eq_not_changed, repainted, Bool.not_true,
    Bool.false_eq_true, if_false, stops, List.append_nil]
  rw [applyAll_continuation painting.cached continued]
  exact ⟨trivial, outer.sameElsewhere_styled row _, (painting.styled _).cached,
    correct.skip paired rowInside columnInside (Or.inr continued)⟩

/-- Addressing a cell of the buffer puts the cursor there. -/
theorem Painting.address
    {row column : Nat}
    {style : Option Style}
    {outer : OuterTerminal}
    (rowInside : row < current.rows.toNat)
    (columnInside : column < current.columns.toNat)
    (rows : outer.rows = current.rows.toNat)
    (columns : outer.columns = current.columns.toNat)
    (cached : CachedBy style outer) :
    Painting current row style
        (outer.apply width (.address (row + 1) (column + 1))) ∧
      (outer.apply width (.address (row + 1) (column + 1))).cursorColumn =
        column := by
  simp only [OuterTerminal.apply, Nat.add_sub_cancel]
  refine ⟨⟨columns, ?_, cached⟩, ?_⟩
  · simp only
    omega
  · omega

end Runs

/-! ## One row -/

section Rows

variable {width : Char → Nat} {full : Bool}
  {previous : Option ScreenBuffer} {current : ScreenBuffer}

/-- What the loop over a row has done, if it left `line` from `column` on:
the row is right, or a wide glyph that a run started in is missing. -/
structure RowOutcome
    (width : Char → Nat)
    (full : Bool)
    (previous : Option ScreenBuffer)
    (current : ScreenBuffer)
    (row column : Nat)
    (line : WideLine Glyph) : Prop where
  right :
    (∀ leading, column ≤ leading + 1 →
      ¬ SlipAt full previous current row leading) →
    CorrectTo width full previous current row line current.columns.toNat
  wrong :
    ∀ leading, column ≤ leading + 1 →
    SlipAt full previous current row leading →
    ∃ missing, CutAt width current row line missing

/-- No slip between two columns: the outcome is the later column's. -/
theorem RowOutcome.earlier
    {row column later : Nat}
    {line : WideLine Glyph}
    (outcome : RowOutcome width full previous current row later line)
    (none : ∀ leading, column ≤ leading + 1 →
      SlipAt full previous current row leading → later ≤ leading + 1)
    (order : column ≤ later) :
    RowOutcome width full previous current row column line where
  right := by
    intro noSlip
    apply outcome.right
    intro leading after
    exact noSlip leading (Nat.le_trans order after)
  wrong := by
    intro leading after slip
    exact outcome.wrong leading (none leading after slip) slip

/-- At the end of the row nothing is left to go wrong. -/
theorem CorrectTo.outcome
    {row column : Nat}
    {line : WideLine Glyph}
    (correct : CorrectTo width full previous current row line column)
    (inside : column ≤ current.columns.toNat)
    (ended : current.columns.toNat ≤ column) :
    RowOutcome width full previous current row column line where
  right := by
    have same : column = current.columns.toNat := by
      omega
    intro _
    exact same ▸ correct
  wrong := by
    intro leading after slip
    have inRow := slip.inRow
    omega

/-- One run of a row: it leaves the row right and passes no slip, or it
slips and a wide glyph is missing. -/
theorem run_outcome
    (paired : current.Paired width)
    {row column : Nat}
    (rowInside : row < current.rows.toNat)
    (columnInside : column < current.columns.toNat)
    (repainted : changed full previous current row column = true)
    (noRun : ∀ leading, column = leading + 1 →
      changed full previous current row leading = false)
    (style : Option Style)
    (outer : OuterTerminal)
    (painting : Painting current row style outer)
    (atStart : outer.cursorColumn = column)
    (correct : CorrectTo width full previous current row
      (outer.line row) column) :
    let run := paintRun full previous current row
      (current.columns.toNat - column) column style
    let after := outer.applyAll width run.output
    outer.SameElsewhere row after ∧ CachedBy run.style after ∧
      (CorrectTo width full previous current row (after.line row)
          run.column ∧
        (∀ leading, column ≤ leading + 1 →
          SlipAt full previous current row leading →
          run.column ≤ leading + 1) ∨
      ∃ leading, column ≤ leading + 1 ∧ leading < column ∧
        SlipAt full previous current row leading ∧
        CutAt width current row (after.line row) leading) := by
  have toEnd : column + (current.columns.toNat - column) =
      current.columns.toNat := by
    omega
  obtain ⟨runChanged, runEnd⟩ := @paintRun_changed full previous
    current row (current.columns.toNat - column) column style
  -- A slip lies behind a cell that is left alone, so not inside the run.
  have beyond : ∀ leading, column ≤ leading →
      SlipAt full previous current row leading →
      (paintRun full previous current row
        (current.columns.toNat - column) column style).column ≤
          leading + 1 := by
    intro leading after slip
    by_contra inside
    have conflict := runChanged leading after (by omega)
    rw [slip.kept] at conflict
    simp at conflict
  cases continued : (current.cellAt row column).wideContinuation with
  | false =>
      obtain ⟨same, cached, correctAfter⟩ := run_correct paired rowInside
        (current.columns.toNat - column) column style outer toEnd painting
        (by rw [atStart, cursorFor_glyph continued]) correct
      refine ⟨same, cached, Or.inl ⟨correctAfter, ?_⟩⟩
      intro leading after slip
      by_cases here : leading + 1 = column
      · have conflict := slip.continuation
        rw [here, continued] at conflict
        simp at conflict
      · exact beyond leading (by omega) slip
  | true =>
      obtain ⟨first, next⟩ :=
        paired.exists_leading rowInside columnInside continued
      subst next
      by_cases goesOn : first + 2 < current.columns.toNat ∧
          changed full previous current row (first + 2) = true
      · have slip : SlipAt full previous current row first :=
          ⟨goesOn.1, noRun first rfl, continued, repainted, goesOn.2⟩
        obtain ⟨same, cached, cut⟩ := run_slip paired rowInside slip
          (current.columns.toNat - (first + 1)) style outer toEnd painting
          atStart
        exact ⟨same, cached, Or.inr ⟨first, le_rfl, by omega, slip, cut⟩⟩
      · have alone : first + 1 + 1 < current.columns.toNat →
            changed full previous current row (first + 1 + 1) = false := by
          intro inside
          by_contra more
          exact goesOn ⟨inside, by simpa using more⟩
        obtain ⟨stops, same, cached, correctAfter⟩ := run_continuation paired
          rowInside columnInside continued repainted alone
          (current.columns.toNat - (first + 1)) style outer toEnd painting
          correct
        refine ⟨same, cached, Or.inl ⟨correctAfter, ?_⟩⟩
        intro leading after slip
        by_cases here : leading = first
        · subst here
          exact absurd ⟨slip.inRow, slip.followed⟩ goesOn
        · exact beyond leading (by omega) slip

/-- A row that lost a wide glyph does not get it back. -/
theorem row_cut
    (paired : current.Paired width)
    {row leading : Nat}
    (rowInside : row < current.rows.toNat)
    (rounds column : Nat)
    (style : Option Style)
    (outer : OuterTerminal)
    (rows : outer.rows = current.rows.toNat)
    (columns : outer.columns = current.columns.toNat)
    (cached : CachedBy style outer)
    (before : leading < column)
    (cut : CutAt width current row (outer.line row) leading) :
    let painted := paintRow full previous current row rounds column style
    outer.SameElsewhere row (outer.applyAll width painted.1) ∧
      CachedBy painted.2 (outer.applyAll width painted.1) ∧
      CutAt width current row
        ((outer.applyAll width painted.1).line row) leading := by
  induction rounds generalizing column style outer with
  | zero => exact ⟨.refl row outer, cached, cut⟩
  | succ rounds ih =>
      simp only [paintRow]
      split
      · rename_i columnInside
        split
        · obtain ⟨painting, atStart⟩ := @Painting.address width current row
            column style outer rowInside columnInside rows columns cached
          simp only [List.cons_append, OuterTerminal.applyAll_cons,
            OuterTerminal.applyAll_append]
          have start : OuterTerminal.SameElsewhere row outer
              (outer.apply width (.address (row + 1) (column + 1))) :=
            ⟨rfl, rfl, fun _ _ => rfl⟩
          obtain ⟨same, runCached, runCut⟩ := @run_cut width full previous
            current paired row leading rowInside
            (current.columns.toNat - column) column style _ (by omega)
            painting (by rw [atStart]; exact le_cursorFor row column)
            (by rw [atStart]; exact before) cut
          have grown := paintRun_column full previous current row
            (current.columns.toNat - column) column style
          obtain ⟨rest, restCached, restCut⟩ := ih _ _ _
            ((start.trans same).rows.trans rows)
            ((start.trans same).columns.trans columns)
            runCached (Nat.lt_of_lt_of_le before grown.1) runCut
          exact ⟨(start.trans same).trans rest, restCached, restCut⟩
        · exact ih (column + 1) style outer rows columns
            cached (by omega) cut
      · exact ⟨.refl row outer, cached, cut⟩

/-- The loop over a row from a column where no run is open. -/
theorem row_outcome
    (paired : current.Paired width)
    {row : Nat}
    (rowInside : row < current.rows.toNat)
    (rounds column : Nat)
    (style : Option Style)
    (outer : OuterTerminal)
    (enough : current.columns.toNat ≤ column + rounds)
    (rows : outer.rows = current.rows.toNat)
    (columns : outer.columns = current.columns.toNat)
    (cached : CachedBy style outer)
    (noRun : ∀ leading, column = leading + 1 →
      column < current.columns.toNat →
      changed full previous current row column = true →
      changed full previous current row leading = false)
    (correct : CorrectTo width full previous current row
      (outer.line row) column)
    (inside : column ≤ current.columns.toNat) :
    let painted := paintRow full previous current row rounds column style
    outer.SameElsewhere row (outer.applyAll width painted.1) ∧
      CachedBy painted.2 (outer.applyAll width painted.1) ∧
      RowOutcome width full previous current row column
        ((outer.applyAll width painted.1).line row) := by
  induction rounds generalizing column style outer with
  | zero =>
      exact ⟨.refl row outer, cached, correct.outcome inside (by omega)⟩
  | succ rounds ih =>
      simp only [paintRow]
      split
      · rename_i columnInside
        split
        · rename_i repainted
          simp only [List.cons_append, OuterTerminal.applyAll_cons,
            OuterTerminal.applyAll_append]
          obtain ⟨painting, atStart⟩ := @Painting.address width current row
            column style outer rowInside columnInside rows columns cached
          have start : OuterTerminal.SameElsewhere row outer
              (outer.apply width (.address (row + 1) (column + 1))) :=
            ⟨rfl, rfl, fun _ _ => rfl⟩
          have noRunHere : ∀ leading, column = leading + 1 →
              changed full previous current row leading = false := by
            intro leading next
            exact noRun leading next columnInside repainted
          obtain ⟨same, runCached, outcome⟩ := run_outcome paired rowInside
            columnInside repainted noRunHere style _ painting atStart correct
          have grown := (paintRun_column full previous current row
            (current.columns.toNat - column) column style).2
          have grows : column < (paintRun full previous current row
              (current.columns.toNat - column) column style).column := by
            obtain ⟨rest, more⟩ : ∃ rest,
                current.columns.toNat - column = rest + 1 :=
              ⟨current.columns.toNat - column - 1, by omega⟩
            rw [more]
            exact paintRun_grows style repainted
          have runEnd := (@paintRun_changed full previous current row
            (current.columns.toNat - column) column style).2
          generalize paintRun full previous current row
            (current.columns.toNat - column) column style = run at *
          have elsewhere := start.trans same
          rcases outcome with
            ⟨correctAfter, passed⟩ | ⟨leading, after, before, slip, cut⟩
          · have noRunNext : ∀ leading, run.column = leading + 1 →
                run.column < current.columns.toNat →
                changed full previous current row run.column = true →
                changed full previous current row leading = false := by
              intro leading _ notEnded changedThere
              rcases runEnd with ended | kept
              · omega
              · rw [kept] at changedThere
                simp at changedThere
            obtain ⟨rest, restCached, restOutcome⟩ :=
              ih run.column run.style _ (by omega)
                (elsewhere.rows.trans rows)
                (elsewhere.columns.trans columns) runCached noRunNext
                correctAfter (by omega)
            exact ⟨elsewhere.trans rest, restCached,
              restOutcome.earlier passed (Nat.le_of_lt grows)⟩
          · obtain ⟨rest, restCached, restCut⟩ := @row_cut width full previous
              current paired row leading rowInside rounds run.column run.style
              _ (elsewhere.rows.trans rows) (elsewhere.columns.trans columns)
              runCached (Nat.lt_trans before grows) cut
            refine ⟨elsewhere.trans rest, restCached, ?_, ?_⟩
            · intro noSlip
              exact absurd slip (noSlip leading after)
            · intro _ _ _
              exact ⟨leading, restCut⟩
        · rename_i unchanged
          have kept : changed full previous current row column = false := by
            simpa using unchanged
          have noRunNext : ∀ leading, column + 1 = leading + 1 →
              column + 1 < current.columns.toNat →
              changed full previous current row (column + 1) = true →
              changed full previous current row leading = false := by
            intro leading next _ _
            rw [← Nat.succ.inj next]
            exact kept
          obtain ⟨same, restCached, outcome⟩ :=
            ih (column + 1) style outer (by omega) rows
              columns cached noRunNext
              (correct.skip paired rowInside columnInside (Or.inl kept))
              columnInside
          refine ⟨same, restCached, outcome.earlier ?_ (by omega)⟩
          intro leading after slip
          by_contra close
          have here : leading + 1 = column := by
            omega
          have conflict := slip.repainted
          rw [here, kept] at conflict
          simp at conflict
      · rename_i ended
        exact ⟨.refl row outer, cached, correct.outcome inside (by omega)⟩

/-- The loop over the rows from `row` on. -/
theorem rows_outcome
    (paired : current.Paired width)
    (remaining row : Nat)
    (style : Option Style)
    (outer : OuterTerminal)
    (toEnd : row + remaining = current.rows.toNat)
    (rows : outer.rows = current.rows.toNat)
    (columns : outer.columns = current.columns.toNat)
    (cached : CachedBy style outer)
    (correct : ∀ other, row ≤ other → other < current.rows.toNat →
      CorrectTo width full previous current other (outer.line other) 0) :
    let after := outer.applyAll width
      (paintRows full previous current remaining row style)
    after.rows = outer.rows ∧ after.columns = outer.columns ∧
      (∀ other < row, after.line other = outer.line other) ∧
      ∀ other, row ≤ other → other < current.rows.toNat →
        RowOutcome width full previous current other 0
          (after.line other) := by
  induction remaining generalizing row style outer with
  | zero =>
      refine ⟨rfl, rfl, fun _ _ => rfl, ?_⟩
      intro other after inside
      omega
  | succ remaining ih =>
      simp only [paintRows, OuterTerminal.applyAll_append]
      have rowInside : row < current.rows.toNat := by
        omega
      obtain ⟨same, rowCached, outcome⟩ := @row_outcome width full previous
        current paired row rowInside current.columns.toNat 0 style outer
        (by omega) rows columns cached
        (by intro leading next; omega)
        (correct row le_rfl rowInside) (Nat.zero_le _)
      have ahead : ∀ other, row + 1 ≤ other → other < current.rows.toNat →
          CorrectTo width full previous current other
            ((outer.applyAll width (paintRow full previous current row
              current.columns.toNat 0 style).1).line other) 0 := by
        intro other after inside
        rw [same.lines other (by omega)]
        exact correct other (by omega) inside
      obtain ⟨restRows, restColumns, restLines, restOutcome⟩ :=
        ih (row + 1) _ _ (by omega) (same.rows.trans rows)
          (same.columns.trans columns) rowCached ahead
      refine ⟨restRows.trans same.rows, restColumns.trans same.columns, ?_, ?_⟩
      · intro other before
        rw [restLines other (by omega), same.lines other (by omega)]
      · intro other after inside
        by_cases here : other = row
        · subst here
          rw [restLines other (by omega)]
          exact outcome
        · exact restOutcome other (by omega) inside

end Rows

/-! ## Whole frames -/

/-- Where a frame leaves the cursor. -/
def frameCursor (buffer : ScreenBuffer) : Option (Nat × Nat) :=
  buffer.cursor.map fun (x, y) =>
    (min ((y + 1).toNat - 1) (buffer.rows.toNat - 1),
      min ((x + 1).toNat - 1) (buffer.columns.toNat - 1))

section

variable (width : Char → Nat) (outer : OuterTerminal)

theorem shownCursor_frameEnd
    (buffer : ScreenBuffer)
    (rows : outer.rows = buffer.rows.toNat)
    (columns : outer.columns = buffer.columns.toNat) :
    (outer.applyAll width (frameEnd buffer.cursor)).shownCursor =
      frameCursor buffer := by
  unfold frameEnd frameCursor
  cases buffer.cursor with
  | none => rfl
  | some place =>
      rw [← rows, ← columns]
      rfl

theorem frameEnd_keeps
    (cursor : Option (UInt16 × UInt16)) :
    let after := outer.applyAll width (frameEnd cursor)
    after.rows = outer.rows ∧ after.columns = outer.columns ∧
      after.line = outer.line := by
  cases cursor with
  | none => exact ⟨rfl, rfl, rfl⟩
  | some place => exact ⟨rfl, rfl, rfl⟩

theorem frameStart_keeps
    (full : Bool) :
    let after := outer.applyAll width (frameStart full)
    after.rows = outer.rows ∧ after.columns = outer.columns ∧
      after.line = outer.line := by
  cases full with
  | false => exact ⟨rfl, rfl, rfl⟩
  | true => exact ⟨rfl, rfl, rfl⟩

end

/-- A frame on a terminal whose kept cells are right. -/
theorem ansiDiff_outcome
    {width : Char → Nat}
    {previous : Option ScreenBuffer}
    {current : ScreenBuffer}
    (paired : current.Paired width)
    (forceFull : Bool)
    (outer : OuterTerminal)
    (rows : outer.rows = current.rows.toNat)
    (columns : outer.columns = current.columns.toNat)
    (correct : ∀ row < current.rows.toNat,
      CorrectTo width (repaintsAll previous current forceFull) previous
        current row (outer.line row) 0) :
    let after := outer.applyAll width (ansiDiff previous current forceFull)
    after.rows = current.rows.toNat ∧
      after.columns = current.columns.toNat ∧
      after.shownCursor = frameCursor current ∧
      ∀ row < current.rows.toNat,
        RowOutcome width (repaintsAll previous current forceFull) previous
          current row 0 (after.line row) := by
  simp only [ansiDiff, OuterTerminal.applyAll_append]
  generalize repaintsAll previous current forceFull = full at *
  have start := frameStart_keeps width outer full
  generalize outer.applyAll width (frameStart full) = ready at *
  obtain ⟨startRows, startColumns, startLines⟩ := start
  obtain ⟨paintedRows, paintedColumns, -, outcome⟩ :=
    @rows_outcome width full previous current paired current.rows.toNat 0 none
      ready (by omega) (startRows.trans rows) (startColumns.trans columns)
      (by intro cached impossible; simp at impossible)
      (by
        intro row _ inside
        rw [startLines]
        exact correct row inside)
  generalize ready.applyAll width
    (paintRows full previous current current.rows.toNat 0 none) = painted at *
  have atRows : painted.rows = current.rows.toNat := by
    rw [paintedRows, startRows, rows]
  have atColumns : painted.columns = current.columns.toNat := by
    rw [paintedColumns, startColumns, columns]
  obtain ⟨endRows, endColumns, endLines⟩ :=
    frameEnd_keeps width painted current.cursor
  refine ⟨endRows.trans atRows, endColumns.trans atColumns,
    shownCursor_frameEnd width painted current atRows atColumns, ?_⟩
  intro row inside
  rw [endLines]
  exact outcome row (Nat.zero_le _) inside

theorem slipAt_iff
    (previous current : ScreenBuffer)
    (row leading : Nat) :
    SlipAt false (some previous) current row leading ↔
      Slips previous current row leading := by
  constructor
  · rintro ⟨inRow, kept, continuation, repainted, followed⟩
    refine ⟨inRow, ?_, continuation, ?_, ?_⟩
    · simpa [changed] using kept
    · simpa [changed] using repainted
    · simpa [changed] using followed
  · rintro ⟨inRow, kept, continuation, repainted, followed⟩
    refine ⟨inRow, ?_, continuation, ?_, ?_⟩
    · simpa [changed] using kept
    · simpa [changed] using repainted
    · simpa [changed] using followed

/-- A cell that did not change, and has a glyph, keeps its face. -/
theorem face_eq_of_cellAt_eq
    (width : Char → Nat)
    {previous current : ScreenBuffer}
    {row column : Nat}
    (same : previous.cellAt row column = current.cellAt row column)
    (glyph : (current.cellAt row column).wideContinuation = false) :
    previous.face width row column = current.face width row column := by
  unfold ScreenBuffer.face ScreenBuffer.glyphAt
  rw [same, glyph]
  rfl

/-- A frame that is drawn in full, or over the one before without a slip. -/
theorem frame_displays
    {width : Char → Nat}
    {previous : Option ScreenBuffer}
    {current : ScreenBuffer}
    {full : Bool}
    {outer : OuterTerminal}
    (paired : current.Paired width)
    (rows : outer.rows = current.rows.toNat)
    (columns : outer.columns = current.columns.toNat)
    (kept : repaintsAll previous current full = false → ∃ shown,
      previous = some shown ∧ outer.Displays width shown ∧
        ∀ row < current.rows.toNat, ∀ leading,
          ¬ Slips shown current row leading) :
    let after := outer.applyAll width (ansiDiff previous current full)
    after.Displays width current ∧
      after.shownCursor = frameCursor current := by
  have correct : ∀ row < current.rows.toNat,
      CorrectTo width (repaintsAll previous current full) previous current row
        (outer.line row) 0 := by
    intro row _
    refine ⟨by intro other before; omega, ?_⟩
    intro column _ inside unchanged glyph
    cases all : repaintsAll previous current full with
    | true => simp [changed, all] at unchanged
    | false =>
        obtain ⟨shown, rfl, displays, -⟩ := kept all
        rw [displays.cells row (by omega) column (by omega)]
        exact face_eq_of_cellAt_eq width
          (by simpa [changed, all] using unchanged) glyph
  obtain ⟨afterRows, afterColumns, cursor, outcome⟩ :=
    ansiDiff_outcome paired full outer rows columns correct
  refine ⟨⟨afterRows, afterColumns, ?_⟩, cursor⟩
  intro row rowInside column columnInside
  rw [afterRows] at rowInside
  rw [afterColumns] at columnInside
  apply ((outcome row rowInside).right ?_).done column columnInside
    columnInside
  intro leading _ slip
  cases all : repaintsAll previous current full with
  | true => simpa [changed, all] using slip.kept
  | false =>
      obtain ⟨shown, rfl, -, steady⟩ := kept all
      exact steady row rowInside leading
        ((slipAt_iff shown current row leading).1 (all ▸ slip))

/-- A full frame shows the buffer, whatever was on the terminal. -/
theorem full_displays
    {width : Char → Nat}
    {current : ScreenBuffer}
    (paired : current.Paired width)
    (outer : OuterTerminal)
    (rows : outer.rows = current.rows.toNat)
    (columns : outer.columns = current.columns.toNat) :
    let after := outer.applyAll width (ansiDiff none current true)
    after.Displays width current ∧
      after.shownCursor = frameCursor current :=
  frame_displays paired rows columns fun partly => by
    simp [repaintsAll] at partly

/-- An incremental frame on a terminal that shows the previous buffer leaves
the screen of a full frame exactly when no run starts inside an unchanged wide
glyph and goes on behind it. -/
theorem incremental_eq_full_iff
    {width : Char → Nat}
    {previous current : ScreenBuffer}
    (sameRows : previous.rows = current.rows)
    (sameColumns : previous.columns = current.columns)
    (paired : current.Paired width)
    {outer other : OuterTerminal}
    (displays : outer.Displays width previous)
    (otherRows : other.rows = current.rows.toNat)
    (otherColumns : other.columns = current.columns.toNat) :
    OuterTerminal.SameScreen
        (outer.applyAll width (ansiDiff (some previous) current false))
        (other.applyAll width (ansiDiff none current true)) ↔
      ∀ row < current.rows.toNat, ∀ leading,
        ¬ Slips previous current row leading := by
  have notFull : repaintsAll (some previous) current false = false := by
    simp [repaintsAll, sameRows, sameColumns]
  have rows : outer.rows = current.rows.toNat := by
    rw [displays.rows, sameRows]
  have columns : outer.columns = current.columns.toNat := by
    rw [displays.columns, sameColumns]
  have correct : ∀ row < current.rows.toNat,
      CorrectTo width (repaintsAll (some previous) current false)
        (some previous) current row (outer.line row) 0 := by
    intro row rowInside
    refine ⟨by intro column before; omega, ?_⟩
    intro column _ inside unchanged glyph
    rw [notFull] at unchanged
    have same : previous.cellAt row column = current.cellAt row column := by
      simpa [changed] using unchanged
    rw [displays.cells row (by omega) column (by omega)]
    exact face_eq_of_cellAt_eq width same glyph
  obtain ⟨afterRows, afterColumns, cursor, outcome⟩ :=
    ansiDiff_outcome paired false outer rows columns correct
  rw [notFull] at outcome
  obtain ⟨shown, fullCursor⟩ :=
    full_displays paired other otherRows otherColumns
  constructor
  · intro same row rowInside leading slips
    obtain ⟨missing, cut⟩ := (outcome row rowInside).wrong leading
      (Nat.zero_le _) ((slipAt_iff previous current row leading).2 slips)
    have inRow := cut.inRow
    have gone := cut.gone
    rw [same.cells row (by omega) missing (by omega),
      shown.cells row (by rw [shown.rows]; omega) missing
        (by rw [shown.columns]; omega), cut.wide] at gone
    simp at gone
  · intro noSlip
    refine ⟨afterRows.trans shown.rows.symm,
      afterColumns.trans shown.columns.symm, ?_, cursor.trans fullCursor.symm⟩
    intro row rowInside column columnInside
    rw [afterRows] at rowInside
    rw [afterColumns] at columnInside
    rw [shown.cells row (by rw [shown.rows]; omega) column
      (by rw [shown.columns]; omega)]
    apply ((outcome row rowInside).right ?_).done column columnInside
      columnInside
    intro leading _ slip
    exact noSlip row rowInside leading
      ((slipAt_iff previous current row leading).1 slip)

/-! ## Frame after frame -/

/-- Frames one after the other, each with what asks for all of it, and the
last of them. -/
def showFrames (width : Char → Nat) :
    OuterTerminal → Option ScreenBuffer → List (ScreenBuffer × Bool) →
      OuterTerminal × Option ScreenBuffer
  | outer, previous, [] => (outer, previous)
  | outer, previous, (screen, full) :: rest =>
      showFrames width (outer.applyAll width (ansiDiff previous screen full))
        (some screen) rest

/-- Every frame has the size of the terminal, and none slips. -/
def Steady (width : Char → Nat) (rows columns : Nat) :
    Option ScreenBuffer → List (ScreenBuffer × Bool) → Prop
  | _, [] => True
  | previous, (screen, full) :: rest =>
      screen.Paired width ∧ screen.rows.toNat = rows ∧
        screen.columns.toNat = columns ∧
        (repaintsAll previous screen full = false →
          ∀ shown ∈ previous, ∀ row < rows, ∀ leading,
            ¬ Slips shown screen row leading) ∧
        Steady width rows columns (some screen) rest

/-- One row of four cells that starts with a wide glyph. -/
def wideLine (continuation third : Cell) : ScreenBuffer where
  rows := 1
  columns := 4
  cells := [{ ch := '界' }, continuation, third, {}]
  cursor := none
  sized := rfl

/-- The continuation of a wide glyph, as the pane's terminal writes it. -/
def spacer :
    Cell :=
  { wideContinuation := true }

/-- The terminal puts a combining mark that follows a wide glyph on the cell
ahead of its cursor, which is the continuation. -/
def markedSpacer :
    Cell :=
  { wideContinuation := true, combining := "\u0301" }

/-- Only this glyph is wide. -/
def wideWidth (ch : Char) : Nat :=
  if ch = '界' then 2 else 1

theorem paired_wideLine
    (continuation third : Cell)
    (continued : continuation.wideContinuation = true)
    (glyph : third.wideContinuation = false)
    (narrow : wideWidth third.ch = 1) :
    (wideLine continuation third).Paired wideWidth where
  glyph := by
    intro row rowInside column columnInside isGlyph
    have first : row = 0 := by
      simpa [wideLine] using rowInside
    have bound : column < 4 := by
      simpa [wideLine] using columnInside
    subst first
    match column, bound with
    | 0, _ => exact Or.inr ⟨rfl, Nat.succ_lt_succ (by decide), continued⟩
    | 1, _ => exact absurd (continued.symm.trans isGlyph) (by decide)
    | 2, _ => exact Or.inl narrow
    | 3, _ => exact Or.inl rfl
  continuation := by
    intro row rowInside column columnInside isContinued
    have first : row = 0 := by
      simpa [wideLine] using rowInside
    have bound : column < 4 := by
      simpa [wideLine] using columnInside
    subst first
    match column, bound with
    | 0, _ => exact Bool.noConfusion isContinued
    | 1, _ => exact ⟨0, rfl, rfl, rfl⟩
    | 2, _ => exact absurd (glyph.symm.trans isContinued) (by decide)
    | 3, _ => exact Bool.noConfusion isContinued

/-- A terminal that shows the wide glyph and blanks behind it. -/
def wideTerminal :
    OuterTerminal :=
  (OuterTerminal.blank 1 4).applyAll wideWidth
    (ansiDiff none (wideLine spacer {}) true)

theorem wideTerminal_displays :
    wideTerminal.Displays wideWidth (wideLine spacer {}) :=
  (full_displays (paired_wideLine spacer {} rfl rfl (by decide))
    (OuterTerminal.blank 1 4) rfl rfl).1

/-- A glyph printed behind the wide one arrives in its place. -/
theorem incremental_eq_full_printedBehind :
    OuterTerminal.SameScreen
      (wideTerminal.applyAll wideWidth
        (ansiDiff (some (wideLine spacer {}))
          (wideLine spacer { ch := 'x' }) false))
      ((OuterTerminal.blank 1 4).applyAll wideWidth
        (ansiDiff none (wideLine spacer { ch := 'x' }) true)) := by
  refine (@incremental_eq_full_iff _ (wideLine spacer {})
    (wideLine spacer { ch := 'x' }) rfl rfl
    (paired_wideLine spacer { ch := 'x' } rfl rfl (by decide)) _ _
    wideTerminal_displays rfl rfl).2 ?_
  intro row rowInside leading slips
  have first : row = 0 := by
    simpa [wideLine] using rowInside
  have bound : leading + 2 < 4 := by
    simpa [wideLine] using slips.inRow
  subst first
  match leading, bound with
  | 0, _ => exact slips.repainted rfl
  | 1, _ => exact absurd slips.continuation (by decide)

/-- A combining mark and a glyph behind it in one frame: the run starts at
the marked continuation, so the glyph is printed over the wide one. -/
theorem combiningMark_shifts_run :
    (wideLine spacer {}).Paired wideWidth ∧
      (wideLine markedSpacer { ch := 'x' }).Paired wideWidth ∧
      wideTerminal.Displays wideWidth (wideLine spacer {}) ∧
      ¬ OuterTerminal.SameScreen
        (wideTerminal.applyAll wideWidth
          (ansiDiff (some (wideLine spacer {}))
            (wideLine markedSpacer { ch := 'x' }) false))
        ((OuterTerminal.blank 1 4).applyAll wideWidth
          (ansiDiff none (wideLine markedSpacer { ch := 'x' }) true)) := by
  refine ⟨paired_wideLine spacer {} rfl rfl (by decide),
    paired_wideLine markedSpacer { ch := 'x' } rfl rfl (by decide),
    wideTerminal_displays, ?_⟩
  intro same
  have first := same.cells 0 (by decide) 0 (by decide)
  revert first
  decide +kernel

end Screen
end Vvmux
