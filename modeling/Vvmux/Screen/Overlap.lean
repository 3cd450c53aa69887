import Vvmux.Screen.Drawing

/-!
# Drawing over wide glyphs

Frames, titles and texts are drawn cell by cell over whatever a lower pane has
drawn.  A cell that takes half of a wide glyph blanks the other half, so that
no half is left behind.
-/

namespace Vvmux
namespace Screen

open Layout (Rect)

/-! ## Frames and texts -/

/-- The cell of a frame or of its title. -/
def styledCell (color : UInt8) (ch : Char) : Cell :=
  { ch := ch, foreground := .indexed color }

/-- The cell of a text. -/
def textCell (foreground background : UInt8) (ch : Char) : Cell :=
  { ch := ch
    foreground := .indexed foreground
    background := .indexed background }

/-- A call of `set`. -/
structure Write where
  x : Nat
  y : Nat
  cell : Cell

/-- Some calls of `set`, one after the other. -/
def ScreenBuffer.writes
    (buffer : ScreenBuffer)
    (calls : List Write) : ScreenBuffer :=
  calls.foldl (fun drawn write => drawn.set write.x write.y write.cell) buffer

/-- The calls of `draw_text`: it stops at the right edge, ahead of which no
coordinate saturates. -/
def textWrites
    (columns x y : Nat)
    (text : List Char)
    (foreground background : UInt8) : List Write :=
  (text.zipIdx.takeWhile fun entry => decide (x + entry.2 < columns)).map
    fun entry => ⟨x + entry.2, y, textCell foreground background entry.1⟩

/-- `ScreenBuffer::draw_text` -/
def ScreenBuffer.drawText
    (buffer : ScreenBuffer)
    (x y : Nat)
    (text : List Char)
    (foreground background : UInt8) : ScreenBuffer :=
  buffer.writes
    (textWrites buffer.columns.toNat x y text foreground background)

/-- The calls of `draw_frame`.  The rectangle lies in the frame, so that its
coordinates are `u16` sums that do not overflow. -/
def frameWrites
    (rect : Rect)
    (title : List Char)
    (color : UInt8) : List Write :=
  if rect.width < 2 ∨ rect.height < 2 then []
  else
    let styled := styledCell color
    let right := rect.x + rect.width - 1
    let bottom := rect.y + rect.height - 1
    ((List.range' (rect.x + 1) (right - (rect.x + 1))).flatMap fun x =>
        [⟨x, rect.y, styled '─'⟩, ⟨x, bottom, styled '─'⟩]) ++
      ((List.range' (rect.y + 1) (bottom - (rect.y + 1))).flatMap fun y =>
        [⟨rect.x, y, styled '│'⟩, ⟨right, y, styled '│'⟩]) ++
      [⟨rect.x, rect.y, styled '┌'⟩, ⟨right, rect.y, styled '┐'⟩,
        ⟨rect.x, bottom, styled '└'⟩, ⟨right, bottom, styled '┘'⟩] ++
      ((title.take (rect.width - 4)).zipIdx.map fun entry =>
        ⟨rect.x + 2 + entry.2, rect.y, styled entry.1⟩)

/-- `ScreenBuffer::draw_frame` -/
def ScreenBuffer.drawFrame
    (buffer : ScreenBuffer)
    (rect : Rect)
    (title : List Char)
    (color : UInt8) : ScreenBuffer :=
  buffer.writes (frameWrites rect title color)

/-- No call writes a continuation cell. -/
def Plain (calls : List Write) : Prop :=
  ∀ write ∈ calls, write.cell.wideContinuation = false

theorem plain_textWrites
    (columns x y : Nat)
    (text : List Char)
    (foreground background : UInt8) :
    Plain (textWrites columns x y text foreground background) := by
  intro write listed
  obtain ⟨entry, -, rfl⟩ := List.mem_map.mp listed
  rfl

theorem plain_frameWrites
    (rect : Rect)
    (title : List Char)
    (color : UInt8) : Plain (frameWrites rect title color) := by
  intro write listed
  unfold frameWrites at listed
  split at listed
  · cases listed
  · simp only [List.mem_append, List.mem_flatMap, List.mem_map,
      List.mem_cons, List.not_mem_nil, or_false] at listed
    obtain ((⟨x, -, rfl | rfl⟩ | ⟨y, -, rfl | rfl⟩) |
      (rfl | rfl | rfl | rfl)) | ⟨entry, -, rfl⟩ := listed
    all_goals rfl

/-! ## One call -/

namespace ScreenBuffer

/-- Every continuation cell directly follows, in its row, a cell that is
none. -/
def Tidy (buffer : ScreenBuffer) : Prop :=
  ∀ row < buffer.rows.toNat, ∀ column < buffer.columns.toNat,
    (buffer.cellAt row column).wideContinuation = true →
      ∃ leading, column = leading + 1 ∧
        (buffer.cellAt row leading).wideContinuation = false

/-- The cells that `set` blanks beside the one it writes. -/
def Blanks (buffer : ScreenBuffer) (x y row column : Nat) : Prop :=
  row = y ∧
    (column + 1 = x ∧ (buffer.cellAt y x).wideContinuation = true ∨
      column = x + 1 ∧ (buffer.cellAt y column).wideContinuation = true)

instance
    (buffer : ScreenBuffer)
    (x y row column : Nat) : Decidable (buffer.Blanks x y row column) :=
  inferInstanceAs (Decidable (_ ∧ (_ ∧ _ ∨ _ ∧ _)))

theorem getD_set
    (cells : List Cell)
    (index query : Nat)
    (cell : Cell) :
    (cells.set index cell).getD query {} =
      if index = query ∧ query < cells.length then cell
      else cells.getD query {} := by
  rw [List.getD_eq_getElem?_getD, List.getD_eq_getElem?_getD,
    List.getElem?_set]
  by_cases same : index = query
  · subst same
    by_cases inside : index < cells.length
    · simp [inside]
    · simp [inside]
  · simp [same]

variable {buffer : ScreenBuffer} {row column : Nat}

/-- What `set` leaves everywhere. -/
theorem cellAt_set
    {x y : Nat}
    (inColumns : x < buffer.columns.toNat)
    (inRows : y < buffer.rows.toNat)
    (cell : Cell)
    (rowInside : row < buffer.rows.toNat)
    (columnInside : column < buffer.columns.toNat) :
    (buffer.set x y cell).cellAt row column =
      if row = y ∧ column = x then cell
      else if buffer.Blanks x y row column then {}
      else buffer.cellAt row column := by
  have inside := buffer.index_lt rowInside columnInside
  have next : buffer.index y x + 1 = buffer.index y (x + 1) := by
    rw [index, index, Nat.add_assoc]
  have previous : 0 < x → buffer.index y x - 1 = buffer.index y (x - 1) := by
    intro behind
    rw [index, index]
    omega
  have apart : ∀ otherColumn < buffer.columns.toNat,
      (buffer.index y otherColumn = buffer.index row column ↔
        row = y ∧ column = otherColumn) := by
    intro otherColumn otherInside
    constructor
    · intro same
      obtain ⟨sameRow, sameColumn⟩ :=
        buffer.index_inj otherInside columnInside same
      exact ⟨sameRow.symm, sameColumn.symm⟩
    · rintro ⟨rfl, rfl⟩
      rfl
  -- The left neighbour is blanked where half of its glyph is overwritten.
  generalize leftIs : (if (buffer.cells.getD (buffer.index y x)
      {}).wideContinuation = true ∧ 0 < x then
        buffer.cells.set (buffer.index y x - 1) {} else buffer.cells) = left
  have lengthLeft : left.length = buffer.cells.length := by
    rw [← leftIs]
    split
    · exact List.length_set
    · rfl
  have readLeft : ∀ query, left.getD query {} =
      if ((buffer.cellAt y x).wideContinuation = true ∧ 0 < x) ∧
          buffer.index y x - 1 = query ∧ query < buffer.cells.length then {}
      else buffer.cells.getD query {} := by
    intro query
    rw [← leftIs]
    unfold cellAt
    split
    · rename_i continues
      rw [getD_set]
      simp only [continues, true_and, and_self]
    · rename_i alone
      rw [if_neg fun both => alone both.1]
  have readRight : left.getD (buffer.index y x + 1) {} =
      buffer.cellAt y (x + 1) := by
    rw [readLeft, if_neg (by omega), next]
    rfl
  generalize bothIs : (if x + 1 < buffer.columns.toNat ∧
      (left.getD (buffer.index y x + 1) {}).wideContinuation = true then
        left.set (buffer.index y x + 1) {} else left) = both
  have lengthBoth : both.length = buffer.cells.length := by
    rw [← bothIs, ← lengthLeft]
    split
    · exact List.length_set
    · rfl
  have written : (buffer.set x y cell).cellAt row column =
      (both.set (buffer.index y x) cell).getD (buffer.index row column) {} := by
    have sameIndex : (buffer.set x y cell).index row column =
        buffer.index row column := by
      rw [index, index, set_columns]
    unfold cellAt
    rw [sameIndex]
    unfold set
    rw [if_pos ⟨inColumns, inRows⟩]
    dsimp only
    rw [leftIs, bothIs]
  have readBoth : both.getD (buffer.index row column) {} =
      if (x + 1 < buffer.columns.toNat ∧
          (buffer.cellAt y (x + 1)).wideContinuation = true) ∧
          buffer.index y x + 1 = buffer.index row column then {}
      else left.getD (buffer.index row column) {} := by
    rw [← bothIs, readRight]
    split
    · rename_i continues
      rw [getD_set, lengthLeft]
      simp only [continues, inside, true_and, and_true, and_self]
    · rename_i alone
      rw [if_neg fun both => alone both.1]
  rw [written, getD_set, lengthBoth]
  by_cases here : row = y ∧ column = x
  · rw [if_pos here, if_pos ⟨(apart x inColumns).mpr here, inside⟩]
  · rw [if_neg here, if_neg fun both =>
      here ((apart x inColumns).mp both.1), readBoth, readLeft]
    by_cases rightHalf : (x + 1 < buffer.columns.toNat ∧
        (buffer.cellAt y (x + 1)).wideContinuation = true) ∧
        buffer.index y x + 1 = buffer.index row column
    · obtain ⟨⟨more, continues⟩, same⟩ := rightHalf
      obtain ⟨sameRow, sameColumn⟩ := (apart (x + 1) more).mp (next ▸ same)
      have blanks : buffer.Blanks x y row column :=
        ⟨sameRow, .inr ⟨sameColumn, sameColumn ▸ continues⟩⟩
      rw [if_pos ⟨⟨more, continues⟩, same⟩, if_pos blanks]
    · rw [if_neg rightHalf]
      by_cases leftHalf : ((buffer.cellAt y x).wideContinuation = true ∧
          0 < x) ∧ buffer.index y x - 1 = buffer.index row column ∧
            buffer.index row column < buffer.cells.length
      · obtain ⟨⟨continues, behind⟩, same, -⟩ := leftHalf
        obtain ⟨sameRow, sameColumn⟩ :=
          (apart (x - 1) (by omega)).mp (previous behind ▸ same)
        have blanks : buffer.Blanks x y row column :=
          ⟨sameRow, .inl ⟨by omega, continues⟩⟩
        rw [if_pos ⟨⟨continues, behind⟩, same, inside⟩, if_pos blanks]
      · rw [if_neg leftHalf, if_neg]
        · rfl
        · rintro ⟨rfl, ⟨beside, continues⟩ | ⟨rfl, continues⟩⟩
          · refine leftHalf ⟨⟨continues, by omega⟩, ?_, inside⟩
            rw [previous (by omega)]
            congr
            omega
          · exact rightHalf ⟨⟨columnInside, continues⟩, next⟩

/-- What one call does to a frame. -/
structure Overwrites (write : Write) (before after : ScreenBuffer) : Prop where
  frame : SameFrame before after
  tidy : after.Tidy
  /-- A continuation cell is as it was, and so is the cell ahead of it. -/
  continuations : ∀ row < before.rows.toNat,
    ∀ column < before.columns.toNat,
      (after.cellAt row column).wideContinuation = true →
        after.cellAt row column = before.cellAt row column ∧
          ∃ leading, column = leading + 1 ∧
            after.cellAt row leading = before.cellAt row leading
  /-- Where a continuation cell goes, the glyph ahead of it goes too. -/
  leading : ∀ row < before.rows.toNat, ∀ column,
    column + 1 < before.columns.toNat →
      (before.cellAt row (column + 1)).wideContinuation = true →
        (after.cellAt row (column + 1)).wideContinuation = false →
          after.cellAt row column = {} ∨
            after.cellAt row column = write.cell ∧
              row = write.y ∧ column = write.x
  otherRows : ∀ row < before.rows.toNat, row ≠ write.y →
    ∀ column < before.columns.toNat,
      after.cellAt row column = before.cellAt row column
  written : write.x < before.columns.toNat → write.y < before.rows.toNat →
    after.cellAt write.y write.x = write.cell
  outside : ¬ (write.x < before.columns.toNat ∧
    write.y < before.rows.toNat) → after = before

/-- A call that writes no continuation cell leaves no orphan. -/
theorem overwrites_set
    (tidy : buffer.Tidy)
    {write : Write}
    (plain : write.cell.wideContinuation = false) :
    Overwrites write buffer (buffer.set write.x write.y write.cell) := by
  obtain ⟨x, y, cell⟩ := write
  dsimp only at plain ⊢
  by_cases inside : x < buffer.columns.toNat ∧ y < buffer.rows.toNat
  · have after : ∀ row < buffer.rows.toNat,
        ∀ column < buffer.columns.toNat,
          (buffer.set x y cell).cellAt row column =
            if row = y ∧ column = x then cell
            else if buffer.Blanks x y row column then {}
            else buffer.cellAt row column :=
      fun row rowInside column columnInside =>
        cellAt_set inside.1 inside.2 cell rowInside columnInside
    -- A continuation cell that is left is neither written nor blanked.
    have survives : ∀ row < buffer.rows.toNat,
        ∀ column < buffer.columns.toNat,
          ((buffer.set x y cell).cellAt row column).wideContinuation = true →
            ¬ (row = y ∧ column = x) ∧ ¬ buffer.Blanks x y row column ∧
              (buffer.cellAt row column).wideContinuation = true := by
      intro row rowInside column columnInside continues
      rw [after row rowInside column columnInside] at continues
      split at continues
      · rw [plain] at continues
        cases continues
      · rename_i elsewhere
        split at continues
        · cases continues
        · rename_i unblanked
          exact ⟨elsewhere, unblanked, continues⟩
    -- Its left neighbour is neither, too.
    have kept : ∀ row < buffer.rows.toNat,
        ∀ column < buffer.columns.toNat,
          ((buffer.set x y cell).cellAt row column).wideContinuation = true →
            ∃ leading, column = leading + 1 ∧
              (buffer.cellAt row leading).wideContinuation = false ∧
              (buffer.set x y cell).cellAt row leading =
                buffer.cellAt row leading := by
      intro row rowInside column columnInside continues
      obtain ⟨elsewhere, unblanked, continued⟩ :=
        survives row rowInside column columnInside continues
      obtain ⟨leading, rfl, alone⟩ :=
        tidy row rowInside column columnInside continued
      refine ⟨leading, rfl, alone, ?_⟩
      rw [after row rowInside leading (by omega), if_neg, if_neg]
      · rintro ⟨rfl, ⟨beside, halved⟩ | ⟨rfl, halved⟩⟩
        · exact elsewhere ⟨rfl, beside⟩
        · rw [alone] at halved
          cases halved
      · rintro ⟨rfl, rfl⟩
        exact unblanked ⟨rfl, .inr ⟨rfl, continued⟩⟩
    refine ⟨⟨set_rows _ _ _ _, set_columns _ _ _ _⟩, ?_, ?_, ?_, ?_, ?_, ?_⟩
    · intro row rowInside column columnInside continues
      rw [set_rows] at rowInside
      rw [set_columns] at columnInside
      obtain ⟨leading, same, alone, unchanged⟩ :=
        kept row rowInside column columnInside continues
      exact ⟨leading, same, unchanged ▸ alone⟩
    · intro row rowInside column columnInside continues
      obtain ⟨elsewhere, unblanked, -⟩ :=
        survives row rowInside column columnInside continues
      obtain ⟨leading, same, -, unchanged⟩ :=
        kept row rowInside column columnInside continues
      refine ⟨?_, leading, same, unchanged⟩
      rw [after row rowInside column columnInside, if_neg elsewhere,
        if_neg unblanked]
    · intro row rowInside column columnInside continued gone
      rw [after row rowInside (column + 1) columnInside] at gone
      rw [after row rowInside column (by omega)]
      split at gone
      · rename_i here
        obtain ⟨rfl, rfl⟩ := here
        rw [if_neg (by omega), if_pos ⟨rfl, .inl ⟨rfl, continued⟩⟩]
        exact .inl rfl
      · split at gone
        · rename_i blanked
          obtain ⟨rfl, ⟨beside, halved⟩ | ⟨beside, -⟩⟩ := blanked
          · -- Behind a continuation cell there is no other one.
            obtain ⟨leading, same, alone⟩ := tidy row rowInside x inside.1
              halved
            have shifted : leading = column + 1 := by omega
            rw [shifted, continued] at alone
            cases alone
          · have here : column = x := by omega
            rw [if_pos ⟨rfl, here⟩]
            exact .inr ⟨rfl, rfl, here⟩
        · rw [continued] at gone
          cases gone
    · intro row rowInside other column columnInside
      rw [after row rowInside column columnInside, if_neg, if_neg]
      · exact fun blanked => other blanked.1
      · exact fun here => other here.1
    · intro _ _
      rw [after y inside.2 x inside.1, if_pos ⟨rfl, rfl⟩]
    · exact fun outside => absurd inside outside
  · have same : buffer.set x y cell = buffer := by
      unfold set
      rw [if_neg inside]
    rw [same]
    refine ⟨SameFrame.refl buffer, tidy, ?_, ?_, fun _ _ _ _ _ => rfl, ?_,
      fun _ => rfl⟩
    · intro row rowInside column columnInside continues
      obtain ⟨leading, beside, -⟩ :=
        tidy row rowInside column columnInside continues
      exact ⟨rfl, leading, beside, rfl⟩
    · intro row _ column _ continued gone
      rw [continued] at gone
      cases gone
    · exact fun inColumns inRows => absurd ⟨inColumns, inRows⟩ inside

/-! ## Runs of calls -/

variable {calls : List Write}

/-- Every call of a run leaves no orphan. -/
theorem tidy_writes
    (tidy : buffer.Tidy)
    (plain : Plain calls) : (buffer.writes calls).Tidy := by
  induction calls generalizing buffer with
  | nil => exact tidy
  | cons write rest ih =>
      obtain ⟨first, others⟩ := List.forall_mem_cons.mp plain
      exact ih (overwrites_set tidy first).tidy others

/-- A cell is as it was, or blank, or written in its place. -/
theorem cellAt_set_cases
    (buffer : ScreenBuffer)
    (write : Write)
    (rowInside : row < buffer.rows.toNat)
    (columnInside : column < buffer.columns.toNat) :
    (buffer.set write.x write.y write.cell).cellAt row column =
        buffer.cellAt row column ∨
      (buffer.set write.x write.y write.cell).cellAt row column = {} ∨
      (buffer.set write.x write.y write.cell).cellAt row column =
          write.cell ∧ row = write.y ∧ column = write.x := by
  by_cases inside : write.x < buffer.columns.toNat ∧
      write.y < buffer.rows.toNat
  · rw [cellAt_set inside.1 inside.2 write.cell rowInside columnInside]
    split
    · rename_i here
      exact .inr (.inr ⟨rfl, here⟩)
    · split
      · exact .inr (.inl rfl)
      · exact .inl rfl
  · unfold set
    rw [if_neg inside]
    exact .inl rfl

theorem cellAt_writes_cases
    (buffer : ScreenBuffer)
    (calls : List Write)
    (rowInside : row < buffer.rows.toNat)
    (columnInside : column < buffer.columns.toNat) :
    (buffer.writes calls).cellAt row column = buffer.cellAt row column ∨
      (buffer.writes calls).cellAt row column = {} ∨
      ∃ write ∈ calls, (buffer.writes calls).cellAt row column = write.cell ∧
        row = write.y ∧ column = write.x := by
  induction calls generalizing buffer with
  | nil => exact .inl rfl
  | cons write rest ih =>
      have later := ih
        (buffer.set write.x write.y write.cell)
        (by rwa [set_rows]) (by rwa [set_columns])
      change (buffer.writes (write :: rest)).cellAt row column = _ ∨
        (buffer.writes (write :: rest)).cellAt row column = {} ∨ _ at later
      obtain same | blank | ⟨other, listed, written⟩ := later
      · rw [same]
        obtain before | blank | written :=
          cellAt_set_cases buffer write rowInside columnInside
        · exact .inl before
        · exact .inr (.inl blank)
        · exact .inr (.inr ⟨write, List.mem_cons_self, written⟩)
      · exact .inr (.inl blank)
      · exact .inr (.inr ⟨other, List.mem_cons_of_mem _ listed, written⟩)

/-- What is left of the frame below after a run. -/
structure Keeps (calls : List Write) (before after : ScreenBuffer) : Prop where
  frame : SameFrame before after
  tidy : after.Tidy
  continuations : ∀ row < before.rows.toNat,
    ∀ column < before.columns.toNat,
      (after.cellAt row column).wideContinuation = true →
        after.cellAt row column = before.cellAt row column ∧
          ∃ leading, column = leading + 1 ∧
            after.cellAt row leading = before.cellAt row leading
  /-- Where a continuation cell goes, the glyph ahead of it goes too. -/
  leading : ∀ row < before.rows.toNat, ∀ column,
    column + 1 < before.columns.toNat →
      (before.cellAt row (column + 1)).wideContinuation = true →
        (after.cellAt row (column + 1)).wideContinuation = false →
          after.cellAt row column = {} ∨
            ∃ write ∈ calls, after.cellAt row column = write.cell ∧
              row = write.y ∧ column = write.x

theorem keeps_writes
    (tidy : buffer.Tidy)
    (plain : Plain calls) : Keeps calls buffer (buffer.writes calls) := by
  induction calls generalizing buffer with
  | nil =>
      refine ⟨SameFrame.refl buffer, tidy, ?_, ?_⟩
      · intro row rowInside column columnInside continues
        obtain ⟨leading, beside, -⟩ :=
          tidy row rowInside column columnInside continues
        exact ⟨rfl, leading, beside, rfl⟩
      · intro row _ column _ continued gone
        change (buffer.cellAt row (column + 1)).wideContinuation = false
          at gone
        rw [continued] at gone
        cases gone
  | cons write rest ih =>
      obtain ⟨first, others⟩ := List.forall_mem_cons.mp plain
      have step := overwrites_set tidy first
      have run := ih step.tidy others
      refine ⟨step.frame.trans run.frame, run.tidy, ?_, ?_⟩
      · intro row rowInside column columnInside continues
        obtain ⟨unchanged, leading, rfl, neighbour⟩ := run.continuations row
          (step.frame.rows ▸ rowInside) column
          (step.frame.columns ▸ columnInside) continues
        change (buffer.writes (write :: rest)).cellAt row (leading + 1) = _
          at unchanged
        rw [unchanged] at continues
        obtain ⟨first, other, same, ahead⟩ := step.continuations row rowInside
          (leading + 1) columnInside continues
        obtain rfl : leading = other := by omega
        exact ⟨unchanged.trans first, leading, rfl, neighbour.trans ahead⟩
      · intro row rowInside column columnInside continued gone
        have rowStill := step.frame.rows ▸ rowInside
        have columnStill := step.frame.columns ▸ columnInside
        cases still : ((buffer.set write.x write.y write.cell).cellAt row
            (column + 1)).wideContinuation with
        | true =>
            obtain blank | ⟨other, listed, written⟩ :=
              run.leading row rowStill column columnStill still gone
            · exact .inl blank
            · exact .inr ⟨other, List.mem_cons_of_mem _ listed, written⟩
        | false =>
            have taken := step.leading row rowInside column columnInside
              continued still
            have later := cellAt_writes_cases
              (buffer.set write.x write.y write.cell) rest rowStill
              (Nat.lt_of_succ_lt columnStill)
            change (buffer.writes (write :: rest)).cellAt row column = _ ∨
              (buffer.writes (write :: rest)).cellAt row column = {} ∨ _
              at later
            obtain same | blank | ⟨other, listed, written⟩ := later
            · rw [same]
              obtain blank | written := taken
              · exact .inl blank
              · exact .inr ⟨write, List.mem_cons_self, written⟩
            · exact .inl blank
            · exact .inr ⟨other, List.mem_cons_of_mem _ listed, written⟩

end ScreenBuffer

end Screen
end Vvmux
