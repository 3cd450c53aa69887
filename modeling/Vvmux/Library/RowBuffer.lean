import Mathlib.Data.List.Induction
import Mathlib.Tactic.Ring

/-!
# Row-major buffers

A list of cells is read as rows of a fixed width.  Rows of a rectangle are
painted one after the other, each with a block that may be read from the
buffer itself.  The order of the rows matters only as far as a row that was
painted is read again.
-/

namespace Vvmux
namespace Library
namespace RowBuffer

variable {α : Type*}

/-- Replace the cells from an offset on by a block of cells. -/
def splice (buffer : List α) (offset : Nat) (block : List α) : List α :=
  buffer.take offset ++ block ++ buffer.drop (offset + block.length)

/-- The cells of a range. -/
def slice (buffer : List α) (offset length : Nat) : List α :=
  (buffer.drop offset).take length

/-- The cell of a row and a column. -/
def cell (width : Nat) (buffer : List α) (column row : Nat) : Option α :=
  buffer[row * width + column]?

variable {buffer block : List α}

theorem length_splice
    {offset : Nat}
    (fits : offset + block.length ≤ buffer.length) :
    (splice buffer offset block).length = buffer.length := by
  simp only [splice, List.length_append, List.length_take, List.length_drop]
  omega

/-- A splice changes the cells of its range and no others. -/
theorem getElem?_splice
    {offset : Nat}
    (fits : offset + block.length ≤ buffer.length)
    (index : Nat) :
    (splice buffer offset block)[index]? =
      if offset ≤ index ∧ index < offset + block.length then
        block[index - offset]?
      else buffer[index]? := by
  have before : (buffer.take offset).length = offset := by
    rw [List.length_take]
    omega
  unfold splice
  rw [List.append_assoc]
  by_cases early : index < offset
  · rw [if_neg (by omega), List.getElem?_append_left (by omega),
      List.getElem?_take_of_lt early]
  · rw [List.getElem?_append_right (by omega), before]
    by_cases inside : index - offset < block.length
    · rw [if_pos (by omega), List.getElem?_append_left inside]
    · rw [if_neg (by omega), List.getElem?_append_right (by omega),
        List.getElem?_drop]
      congr 1
      omega

theorem length_slice
    {buffer : List α}
    {offset length : Nat}
    (fits : offset + length ≤ buffer.length) :
    (slice buffer offset length).length = length := by
  simp only [slice, List.length_take, List.length_drop]
  omega

theorem getElem?_slice
    (buffer : List α)
    (offset : Nat)
    {length index : Nat}
    (inside : index < length) :
    (slice buffer offset length)[index]? = buffer[offset + index]? := by
  unfold slice
  rw [List.getElem?_take_of_lt inside, List.getElem?_drop]

/-! ## Cells of rows -/

/-- A position within one row determines the row. -/
theorem row_eq_of_between
    {width column row left other span : Nat}
    (here : column < width)
    (fits : left + span ≤ width)
    (lower : other * width + left ≤ row * width + column)
    (upper : row * width + column < other * width + left + span) :
    row = other := by
  rcases Nat.lt_trichotomy row other with less | same | more
  · have := Nat.mul_le_mul_right width (Nat.succ_le_of_lt less)
    rw [Nat.succ_mul] at this
    omega
  · exact same
  · have := Nat.mul_le_mul_right width (Nat.succ_le_of_lt more)
    rw [Nat.succ_mul] at this
    omega

/-- A block that fits into a row changes the cells it covers. -/
theorem cell_splice
    {width left row : Nat}
    (fits : left + block.length ≤ width)
    (whole : (row + 1) * width ≤ buffer.length)
    {column : Nat}
    (here : column < width)
    (other : Nat) :
    cell width (splice buffer (row * width + left) block) column other =
      if other = row ∧ left ≤ column ∧ column < left + block.length then
        block[column - left]?
      else cell width buffer column other := by
  have room : row * width + left + block.length ≤ buffer.length := by
    rw [Nat.succ_mul] at whole
    omega
  unfold cell
  rw [getElem?_splice room]
  by_cases covered : other = row ∧ left ≤ column ∧ column < left + block.length
  · obtain ⟨rfl, lower, upper⟩ := covered
    rw [if_pos (by omega), if_pos ⟨rfl, lower, upper⟩]
    congr 1
    omega
  · rw [if_neg covered, if_neg]
    rintro ⟨lower, upper⟩
    have same := row_eq_of_between here fits lower upper
    subst same
    exact covered ⟨rfl, by omega, by omega⟩

theorem cell_slice
    {width left row span : Nat}
    (buffer : List α)
    {index : Nat}
    (inside : index < span) :
    (slice buffer (row * width + left) span)[index]? =
      cell width buffer (left + index) row := by
  rw [getElem?_slice _ _ inside, cell, Nat.add_assoc]

/-! ## Painting a rectangle -/

/-- Paint some rows of a rectangle, each with a block that is read from the
buffer as the rows before left it. -/
def paint
    (width left top : Nat)
    (block : List α → Nat → List α)
    (rows : List Nat)
    (buffer : List α) : List α :=
  rows.foldl
    (fun buffer row =>
      splice buffer ((top + row) * width + left) (block buffer row))
    buffer

/-- The rows of a rectangle show their content, and all else is as it was. -/
structure Painted
    (width left top span : Nat)
    (content : Nat → Nat → Option α)
    (rows : List Nat)
    (before after : List α) : Prop where
  length : after.length = before.length
  cells : ∀ column row, column < width →
    cell width after column row =
      if top ≤ row ∧ row - top ∈ rows ∧ left ≤ column ∧
          column < left + span then
        content (row - top) (column - left)
      else cell width before column row

variable {rows : List Nat}

/-- The rows are painted, if every block shows the content of its row in a
buffer where the rows before are painted. -/
theorem painted_paint
    {width left top span : Nat}
    {content : Nat → Nat → Option α}
    {block : List α → Nat → List α}
    {buffer : List α}
    (fits : left + span ≤ width)
    (whole : ∀ row ∈ rows, (top + row + 1) * width ≤ buffer.length)
    (reads : ∀ earlier row later painted, rows = earlier ++ row :: later →
      Painted width left top span content earlier buffer painted →
      (block painted row).length = span ∧
        ∀ index, index < span →
          (block painted row)[index]? = content row index) :
    Painted width left top span content rows buffer
      (paint width left top block rows buffer) := by
  induction rows using List.reverseRecOn with
  | nil => exact ⟨rfl, by simp [paint]⟩
  | append_singleton rows row ih =>
      have painted := ih
        (fun other inside => whole other (by simp [inside]))
        (by
          intro earlier other later state split
          apply reads earlier other (later ++ [row])
          simp [split])
      obtain ⟨sized, shows⟩ := reads rows row [] _ (by simp) painted
      have last := whole row (by simp)
      have unfolded : paint width left top block (rows ++ [row]) buffer =
          splice (paint width left top block rows buffer)
            ((top + row) * width + left)
            (block (paint width left top block rows buffer) row) := by
        simp [paint]
      generalize paint width left top block rows buffer = state at *
      rw [unfolded]
      have room : (top + row + 1) * width ≤ state.length := by
        rw [painted.length]
        exact last
      constructor
      · rw [length_splice, painted.length]
        rw [Nat.succ_mul] at room
        omega
      · intro column other here
        rw [cell_splice (by omega) room here, sized,
          painted.cells column other here]
        by_cases covered : left ≤ column ∧ column < left + span
        · by_cases same : other = top + row
          · subst same
            rw [if_pos ⟨rfl, covered⟩, if_pos (by simp [covered]),
              Nat.add_sub_cancel_left, shows _ (by omega)]
          · rw [if_neg (fun inside => same inside.1)]
            have apart : top ≤ other → other - top ≠ row := by omega
            refine if_congr ?_ rfl rfl
            simp only [List.mem_append, List.mem_singleton]
            constructor
            · rintro ⟨below, inside, rest⟩
              exact ⟨below, .inl inside, rest⟩
            · rintro ⟨below, inside | same, rest⟩
              · exact ⟨below, inside, rest⟩
              · exact absurd same (apart below)
        · rw [if_neg (fun inside => covered inside.2),
            if_neg (fun inside => covered inside.2.2),
            if_neg (fun inside => covered inside.2.2)]

/-- Rows of a block that stands for itself. -/
theorem painted_overwrite
    {width left top span height : Nat}
    {payload buffer : List α}
    (fits : left + span ≤ width)
    (within : (top + height) * width ≤ buffer.length)
    (sized : payload.length = span * height) :
    Painted width left top span (fun row column => cell span payload column row)
      (List.range height) buffer
      (paint width left top
        (fun _ row => slice payload (row * span) span)
        (List.range height) buffer) := by
  have below : ∀ row ∈ List.range height, row < height := fun row inside =>
    List.mem_range.mp inside
  apply painted_paint fits
  · intro row inside
    exact (Nat.mul_le_mul_right width (by have := below row inside; omega)).trans
      within
  · intro earlier row later painted split _
    have here := below row (by simp [split])
    have room := Nat.mul_le_mul_left span (Nat.succ_le_of_lt here)
    rw [Nat.mul_succ] at room
    have order := Nat.mul_comm row span
    constructor
    · apply length_slice
      omega
    · intro index inside
      have read := @cell_slice _ span 0 row span payload index inside
      rw [Nat.add_zero, Nat.zero_add] at read
      exact read

/-- Rows copied within a buffer show what it held before, if no row is read
after it was painted. -/
theorem painted_copy
    {width left top span height sourceLeft sourceTop : Nat}
    {buffer : List α}
    (fits : left + span ≤ width)
    (sourceFits : sourceLeft + span ≤ width)
    (within : (top + height) * width ≤ buffer.length)
    (sourceWithin : (sourceTop + height) * width ≤ buffer.length)
    (below : ∀ row ∈ rows, row < height)
    (ordered : rows.Pairwise fun earlier later =>
      top + earlier ≠ sourceTop + later) :
    Painted width left top span
      (fun row column => cell width buffer (sourceLeft + column) (sourceTop + row))
      rows buffer
      (paint width left top
        (fun buffer row =>
          slice buffer ((sourceTop + row) * width + sourceLeft) span)
        rows buffer) := by
  apply painted_paint fits
  · intro row inside
    exact (Nat.mul_le_mul_right width (by have := below row inside; omega)).trans
      within
  · intro earlier row later painted split shown
    have here := below row (by simp [split])
    have unread : ∀ other ∈ earlier, top + other ≠ sourceTop + row := by
      rw [split, List.pairwise_append] at ordered
      exact fun other inside => ordered.2.2 other inside row (by simp)
    constructor
    · apply length_slice
      rw [shown.length]
      have room := Nat.mul_le_mul_right width
        (show sourceTop + row + 1 ≤ sourceTop + height by omega)
      rw [Nat.succ_mul] at room
      omega
    · intro index inside
      rw [cell_slice _ inside, shown.cells _ _ (by omega), if_neg]
      rintro ⟨above, painted, -⟩
      exact unread _ painted (by omega)

end RowBuffer
end Library
end Vvmux
