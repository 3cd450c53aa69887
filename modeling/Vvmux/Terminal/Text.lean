import Vvmux.Terminal.Shape
import Mathlib.Data.List.Induction

/-!
# The text of a terminal

`extract_rows` and what it is made of.  A text is the list of its characters.
`retained` puts the history and the grid into one list, in which a scroll of
the whole screen only appends a row.
-/

namespace Vvmux
namespace Terminal

/-- The cells that `append_row_text` does not trim. -/
def GridCell.used (cell : GridCell) : Bool :=
  cell.ch ≠ ' ' || cell.combining ≠ "" || cell.tabWidth.isSome ||
    cell.wideContinuation || cell.leadingWideSpacer

/-- The column behind the last used cell. -/
def Row.usedEnd (row : Row) : Nat :=
  match row.reverse.findIdx? GridCell.used with
  | some index => row.length - index
  | none => 0

/-- The text of a cell that starts no tab. -/
def GridCell.text (cell : GridCell) : List Char :=
  if !cell.wideContinuation && !cell.leadingWideSpacer then
    cell.ch :: cell.combining.toList
  else
    []

/-- The loop of `append_row_text` from `column` on, in at most `fuel` turns. -/
def Row.textFrom
    (row : Row)
    (stop : Nat) :
    Nat → Nat → List Char
  | 0, _ => []
  | fuel + 1, column =>
      if column < stop then
        let cell := row.getD column {}
        match cell.tabWidth with
        | some width =>
            '\t' :: row.textFrom stop fuel (column + max width.toNat 1)
        | none => cell.text ++ row.textFrom stop fuel (column + 1)
      else
        []

/-- `append_row_text`: every turn of its loop moves the column on, so it takes
at most one turn for each column. -/
def Row.text (row : Row) : List Char :=
  row.textFrom row.usedEnd row.usedEnd 0

/-- One turn of the loop of `extract_rows`: the text so far and whether the
row before wrapped. -/
def extractRow
    (terminal : Terminal)
    (startLine : Int)
    (extracted : List Char × Bool)
    (index : Nat) : List Char × Bool :=
  let line := startLine + index
  match terminal.viewportLine line with
  | none => extracted
  | some cells =>
      let text :=
        if 0 < index ∧ extracted.2 = false then extracted.1 ++ ['\n']
        else extracted.1
      (text ++ Row.text (cells.take terminal.cols),
        (terminal.lineWrapped line).getD false)

/-- `Terminal::extract_rows`. -/
def extractRows
    (terminal : Terminal)
    (startLine : Int)
    (rowCount : Nat) : List Char :=
  ((List.range rowCount).foldl (terminal.extractRow startLine) ([], false)).1

/-- `Terminal::latest_text`. -/
def latestText (terminal : Terminal) (rows : Nat) : List Char :=
  let available := terminal.history.length + terminal.rows
  let count := min rows available
  terminal.extractRows
    ((available - count : Nat) - (terminal.history.length : Int)) count

/-- The lines from zero on are the rows of the grid. -/
theorem viewportLine_ofNat
    (terminal : Terminal)
    (row : Nat) : terminal.viewportLine row = terminal.grid[row]? := by
  rw [viewportLine, if_neg (by omega), Int.toNat_natCast]

/-! ## Rows without tabs -/

namespace Row

variable {cell : GridCell}

theorem usedEnd_concat_of_used
    (row : Row)
    (used : cell.used = true) : usedEnd (row ++ [cell]) = row.length + 1 := by
  simp [usedEnd, List.findIdx?_cons, used]

theorem usedEnd_concat_of_unused
    (row : Row)
    (unused : cell.used = false) : usedEnd (row ++ [cell]) = usedEnd row := by
  simp only [usedEnd, List.reverse_append, List.reverse_cons, List.reverse_nil,
    List.nil_append, List.singleton_append, List.findIdx?_cons, unused]
  cases found : row.reverse.findIdx? GridCell.used with
  | none => simp
  | some index => simp

theorem usedEnd_append_of_unused
    (row : Row)
    {rest : Row}
    (unused : ∀ cell ∈ rest, cell.used = false) :
    usedEnd (row ++ rest) = usedEnd row := by
  induction rest using List.reverseRecOn with
  | nil => rw [List.append_nil]
  | append_singleton rest cell ih =>
      rw [← List.append_assoc, usedEnd_concat_of_unused]
      · exact ih fun other member =>
          unused other (List.mem_append_left _ member)
      · exact unused cell (by simp)

theorem usedEnd_le_length (row : Row) : row.usedEnd ≤ row.length := by
  unfold usedEnd
  split
  · omega
  · omega

theorem textFrom_of_untabbed
    {row : Row}
    (untabbed : ∀ cell ∈ row, cell.tabWidth = none)
    {stop : Nat}
    (inside : stop ≤ row.length)
    (fuel column : Nat)
    (enough : stop ≤ column + fuel) :
    row.textFrom stop fuel column =
      ((row.take stop).drop column).flatMap GridCell.text := by
  induction fuel generalizing column with
  | zero =>
      rw [List.drop_eq_nil_of_le (by rw [List.length_take]; omega)]
      rfl
  | succ fuel ih =>
      unfold textFrom
      split
      · next more =>
          have here : column < (row.take stop).length := by
            rw [List.length_take]
            omega
          have known : row.getD column {} = row[column] := by
            rw [List.getD_eq_getElem?_getD, List.getElem?_eq_getElem (by omega)]
            rfl
          rw [List.drop_eq_getElem_cons here, List.getElem_take, known]
          dsimp only
          rw [untabbed _ (List.getElem_mem _), List.flatMap_cons,
            ih (column + 1) (by omega)]
      · next done =>
          rw [List.drop_eq_nil_of_le (by rw [List.length_take]; omega)]
          rfl

/-- A row without tabs shows its cells up to the last used one. -/
theorem text_of_untabbed
    {row : Row}
    (untabbed : ∀ cell ∈ row, cell.tabWidth = none) :
    row.text = (row.take row.usedEnd).flatMap GridCell.text := by
  unfold text
  rw [textFrom_of_untabbed untabbed row.usedEnd_le_length _ _ (by omega),
    List.drop_zero]

end Row

/-! ## History and grid as one list -/

/-- The rows of the history and of the grid, oldest first. -/
def retained (terminal : Terminal) : List Row :=
  terminal.history ++ terminal.grid

/-- Their wrap flags. -/
def retainedWrapped (terminal : Terminal) : List Bool :=
  terminal.historyWrapped ++ terminal.gridWrapped

/-- Negative lines are looked up from the end of the list above. -/
theorem getElem?_append_signed
    {Item : Type}
    (above below : List Item)
    (index : Nat) :
    (if (index : Int) - above.length < 0 then
        if 0 ≤ above.length + ((index : Int) - above.length) then
          above[(above.length + ((index : Int) - above.length)).toNat]?
        else none
      else below[((index : Int) - above.length).toNat]?) =
      (above ++ below)[index]? := by
  have fromStart : above.length + ((index : Int) - above.length) = index := by
    omega
  rw [fromStart, if_pos (Int.natCast_nonneg index), Int.toNat_natCast]
  split
  · rw [List.getElem?_append_left (by omega)]
  · have position : ((index : Int) - above.length).toNat =
        index - above.length := by
      omega
    rw [List.getElem?_append_right (by omega), position]

theorem viewportLine_eq
    (terminal : Terminal)
    (index : Nat) :
    terminal.viewportLine (index - (terminal.history.length : Int)) =
      terminal.retained[index]? :=
  getElem?_append_signed terminal.history terminal.grid index

variable {terminal : Terminal}

theorem lineWrapped_eq
    (sized : WellSized terminal)
    (index : Nat) :
    terminal.lineWrapped (index - (terminal.history.length : Int)) =
      terminal.retainedWrapped[index]? := by
  unfold lineWrapped
  rw [← sized.historyWrapped]
  exact getElem?_append_signed terminal.historyWrapped terminal.gridWrapped
    index

/-- Join the texts of rows: a row that did not wrap ends its line. -/
def joinRow
    (joined : List Char × Bool)
    (row : List Char × Bool) : List Char × Bool :=
  ((if joined.2 = false then joined.1 ++ ['\n'] else joined.1) ++ row.1, row.2)

/-- The texts of all rows with their wrap flags. -/
def lines (terminal : Terminal) : List (List Char × Bool) :=
  (terminal.retained.map fun row => Row.text (row.take terminal.cols)).zip
    terminal.retainedWrapped

theorem extractRow_retained
    (sized : WellSized terminal)
    {index : Nat}
    {line : List Char × Bool}
    (known : terminal.lines[index]? = some line)
    (extracted : List Char × Bool) :
    terminal.extractRow (-(terminal.history.length : Int)) extracted index =
      ((if 0 < index ∧ extracted.2 = false then extracted.1 ++ ['\n']
        else extracted.1) ++ line.1, line.2) := by
  have start : -(terminal.history.length : Int) + index =
      index - (terminal.history.length : Int) := by omega
  obtain ⟨text, wrapped⟩ := line
  obtain ⟨row, flag⟩ := List.getElem?_zip_eq_some.1 known
  rw [List.getElem?_map, Option.map_eq_some_iff] at row
  obtain ⟨cells, here, shown⟩ := row
  unfold extractRow
  dsimp only
  rw [start, viewportLine_eq, lineWrapped_eq sized, here, flag]
  dsimp only
  rw [shown]
  rfl

/-- Extracting all rows joins their texts. -/
theorem extractRows_retained
    (sized : WellSized terminal) :
    terminal.extractRows (-(terminal.history.length : Int))
        (terminal.history.length + terminal.rows) =
      (terminal.lines.foldl joinRow ([], true)).1 := by
  have length : terminal.lines.length =
      terminal.history.length + terminal.rows := by
    have history := sized.historyWrapped
    simp [lines, retained, retainedWrapped, sized.grid, sized.gridWrapped,
      history]
  have upTo : ∀ count ≤ terminal.lines.length, 0 < count →
      (List.range count).foldl
          (terminal.extractRow (-(terminal.history.length : Int)))
          ([], false) =
        (terminal.lines.take count).foldl joinRow ([], true) := by
    intro count inside positive
    induction count with
    | zero => omega
    | succ count ih =>
        have here : terminal.lines[count]? = some terminal.lines[count] :=
          List.getElem?_eq_getElem inside
        rw [List.range_succ, List.foldl_append, List.take_add_one, here,
          List.foldl_append]
        simp only [List.foldl_cons, List.foldl_nil, Option.toList_some]
        rw [extractRow_retained sized here]
        rcases Nat.eq_zero_or_pos count with first | later
        · subst first
          simp [joinRow]
        · rw [ih (by omega) later, joinRow]
          simp [later]
  have positive : 0 < terminal.history.length + terminal.rows := by
    have rows := sized.rows
    omega
  unfold extractRows
  rw [upTo _ (by omega) positive, ← length, List.take_length]

end Terminal
end Vvmux
