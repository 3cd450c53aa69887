import Vvmux.Terminal.Shape
import Vvmux.Library.Seams

/-!
# Wide glyphs in the grid

A wide glyph takes two columns: its cell and the continuation behind it.  No
operation of the terminal looks at the neighbour of the cells it overwrites,
moves or cuts off, so an operation that separates the two columns of a glyph
leaves a glyph without its continuation or a continuation without its glyph.
The rows stay well formed exactly as long as nothing separates them.
-/

namespace Vvmux

open Screen (Cell)
open Library.Seams

namespace Terminal

/-- A row in which every continuation stands behind the wide glyph it was
written with, and every wide glyph ahead of a continuation.  A row of one
column has no room for continuations. -/
structure Row.WellFormed (unicode : UnicodeWidth) (row : Row) : Prop where
  continuation : ∀ column cell, row[column]? = some cell →
    cell.wideContinuation = true →
    ∃ leading glyph, column = leading + 1 ∧ row[leading]? = some glyph ∧
      glyph.wideContinuation = false ∧ unicode.columns glyph.ch = 2 ∧
      glyph.writtenBy = cell.writtenBy
  glyph : 2 ≤ row.length → ∀ column glyph, row[column]? = some glyph →
    glyph.wideContinuation = false → unicode.columns glyph.ch = 2 →
    ∃ next, row[column + 1]? = some next ∧ next.wideContinuation = true

/-! ## Pairing as links -/

/-- A wide glyph announces its continuation, if the row has room for one. -/
def lead (unicode : UnicodeWidth) (cols : Nat) (cell : GridCell) : Option Nat :=
  if 1 < cols ∧ cell.wideContinuation = false ∧ unicode.columns cell.ch = 2 then
    some cell.writtenBy
  else
    none

/-- A continuation expects the glyph it was written with. -/
def trail (cell : GridCell) : Option Nat :=
  if cell.wideContinuation then some cell.writtenBy else none

/-- The cells of a row are linked as glyphs and continuations. -/
def Row.Paired (unicode : UnicodeWidth) (row : Row) : Prop :=
  Linked (lead unicode row.length) trail none row none

variable {cell : GridCell} {cols : Nat}

theorem lead_eq_some
    {unicode : UnicodeWidth}
    {cols written : Nat}
    (announced : lead unicode cols cell = some written) :
    cell.wideContinuation = false ∧ unicode.columns cell.ch = 2 ∧
      cell.writtenBy = written := by
  unfold lead at announced
  split at announced
  · next wide => exact ⟨wide.2.1, wide.2.2, by simpa using announced⟩
  · simp at announced

theorem trail_of_continuation
    (isContinuation : cell.wideContinuation = true) :
    trail cell = some cell.writtenBy := by
  simp [trail, isContinuation]

theorem trail_eq_none
    (isGlyph : cell.wideContinuation = false) : trail cell = none := by
  simp [trail, isGlyph]

theorem Row.Paired.wellFormed
    {unicode : UnicodeWidth}
    {row : Row}
    (paired : row.Paired unicode) : row.WellFormed unicode where
  continuation := by
    intro column cell here isContinuation
    have expected := trail_of_continuation isContinuation
    cases column with
    | zero =>
        rw [trail_head paired here] at expected
        simp at expected
    | succ leading =>
        have inside : leading < row.length := by
          have bound := (List.getElem?_eq_some_iff.1 here).1
          omega
        have ahead : row[leading]? = some row[leading] :=
          List.getElem?_eq_getElem inside
        rw [trail_next paired ahead here] at expected
        obtain ⟨isGlyph, wide, written⟩ := lead_eq_some expected
        exact ⟨leading, row[leading], rfl, ahead, isGlyph, wide, written⟩
  glyph := by
    intro room column glyph here isGlyph wide
    have announced : lead unicode row.length glyph = some glyph.writtenBy := by
      simp [lead, isGlyph, wide]
      omega
    have inside := (List.getElem?_eq_some_iff.1 here).1
    rcases Nat.lt_or_ge (column + 1) row.length with more | last
    · have behind : row[column + 1]? = some row[column + 1] :=
        List.getElem?_eq_getElem more
      refine ⟨row[column + 1], behind, ?_⟩
      have expected := trail_next paired here behind
      rw [announced] at expected
      by_contra isNot
      rw [trail_eq_none (by simpa using isNot)] at expected
      simp at expected
    · have nothing := lead_last paired here (by omega)
      rw [announced] at nothing
      simp at nothing

/-- Cells without text are neither half of a glyph. -/
theorem lead_of_plain
    {unicode : UnicodeWidth}
    (plain : Plain cell.toCell) : lead unicode cols cell = none := by
  simp [lead, plain.ch]

theorem trail_of_plain (plain : Plain cell.toCell) : trail cell = none :=
  trail_eq_none plain.wideContinuation

theorem plain_default : Plain ({} : GridCell).toCell :=
  ⟨rfl, rfl, rfl, rfl, rfl⟩

theorem linked_blanks
    {unicode : UnicodeWidth}
    (plain : Plain cell.toCell)
    (count : Nat) :
    Linked (lead unicode cols) trail none (List.replicate count cell) none :=
  linked_replicate (lead_of_plain plain) (trail_of_plain plain) count

theorem paired_blanks
    {unicode : UnicodeWidth}
    (plain : Plain cell.toCell)
    (count : Nat) : Row.Paired unicode (List.replicate count cell) :=
  linked_blanks plain count

/-! ## Cuts -/

/-- The two columns of a wide glyph lie on different sides of a cut. -/
def Row.SplitAt (row : Row) (column : Nat) : Prop :=
  row[column]?.any (fun cell => cell.wideContinuation) = true

instance
    (row : Row)
    (column : Nat) : Decidable (row.SplitAt column) :=
  inferInstanceAs (Decidable (_ = true))

theorem seam_eq_none
    {row : Row}
    {column : Nat}
    (whole : ¬ row.SplitAt column) : seam trail row column = none := by
  unfold seam
  cases here : row[column]? with
  | none => rfl
  | some cell =>
      have isGlyph : cell.wideContinuation = false := by
        simpa [Row.SplitAt, here] using whole
      simpa using trail_eq_none isGlyph

/-! ## Row operations -/

section Rows

variable {unicode : UnicodeWidth} {row : Row}

/-- The length of a row decides whether its glyphs announce anything, so
operations that keep it may be checked with the old one. -/
theorem paired_of_linked
    (row : Row)
    {changed : Row}
    (length : changed.length = row.length)
    (linked : Linked (lead unicode row.length) trail none changed none) :
    changed.Paired unicode := by
  unfold Row.Paired
  rw [length]
  exact linked

theorem paired_dropTabs
    (paired : row.Paired unicode)
    (covers : Nat → Nat → Bool) : (row.dropTabs covers).Paired unicode := by
  apply paired_of_linked row (Row.length_dropTabs row covers)
  unfold Row.dropTabs
  rw [linked_mapIdx]
  · exact paired
  · intro column cell
    split
    · split <;> rfl
    · rfl
  · intro column cell
    split
    · split <;> rfl
    · rfl

theorem splitAt_dropTabs
    (row : Row)
    (covers : Nat → Nat → Bool)
    (column : Nat) :
    (row.dropTabs covers).SplitAt column ↔ row.SplitAt column := by
  unfold Row.SplitAt Row.dropTabs
  rw [List.getElem?_mapIdx]
  cases row[column]? with
  | none => exact Iff.rfl
  | some cell =>
      simp only [Option.map_some, Option.any_some]
      split
      · split <;> exact Iff.rfl
      · exact Iff.rfl

variable {start stop column : Nat} {blank : GridCell}

/-- Replace the columns between two cuts. -/
theorem linked_splice
    {cols : Nat}
    (linked : Linked (lead unicode cols) trail none row none)
    (startWhole : ¬ row.SplitAt start)
    (stopWhole : ¬ row.SplitAt stop)
    {middle : Row}
    (middleLinked : Linked (lead unicode cols) trail none middle none) :
    Linked (lead unicode cols) trail none
      (row.take start ++ middle ++ row.drop stop) none :=
  linked_join
    (linked_join (linked_take linked (seam_eq_none startWhole)) middleLinked)
    (linked_drop linked (seam_eq_none stopWhole))

theorem set_eq_splice
    (inside : column < row.length)
    (cell : GridCell) :
    row.set column cell = row.take column ++ [cell] ++ row.drop (column + 1) := by
  rw [List.set_eq_take_append_cons_drop, if_pos inside, List.append_assoc]
  rfl

theorem set_set_eq_splice
    (inside : column + 1 < row.length)
    (glyph continuation : GridCell) :
    (row.set column glyph).set (column + 1) continuation =
      row.take column ++ [glyph, continuation] ++ row.drop (column + 2) := by
  apply List.ext_getElem?
  intro position
  simp only [List.getElem?_set, List.getElem?_append, List.length_append,
    List.length_take, List.length_set, List.getElem?_take,
    List.getElem?_drop, List.length_cons, List.length_nil]
  rcases Nat.lt_trichotomy position column with ahead | same | behind
  · grind
  · grind
  · grind

/-- Put a narrow cell between two cuts. -/
theorem paired_set
    (paired : row.Paired unicode)
    {cell : GridCell}
    (announcesNothing : lead unicode row.length cell = none)
    (expectsNothing : trail cell = none)
    (left : ¬ row.SplitAt column)
    (right : ¬ row.SplitAt (column + 1)) :
    Row.Paired unicode (row.set column cell) := by
  apply paired_of_linked row (by simp)
  rcases Nat.lt_or_ge column row.length with inside | outside
  · rw [set_eq_splice inside]
    apply linked_splice paired left right
    exact ⟨expectsNothing, announcesNothing⟩
  · rw [List.set_eq_of_length_le outside]
    exact paired

/-- Put a wide glyph and its continuation between two cuts. -/
theorem paired_set_set
    (paired : row.Paired unicode)
    {glyph continuation : GridCell}
    (inside : column + 1 < row.length)
    (isGlyph : trail glyph = none)
    (linked : lead unicode row.length glyph = trail continuation)
    (isContinuation : continuation.wideContinuation = true)
    (left : ¬ row.SplitAt column)
    (right : ¬ row.SplitAt (column + 2)) :
    Row.Paired unicode
      ((row.set column glyph).set (column + 1) continuation) := by
  apply paired_of_linked row (by simp)
  rw [set_set_eq_splice inside]
  apply linked_splice paired left right
  refine ⟨isGlyph, linked.symm, ?_⟩
  simp [lead, isContinuation]

theorem clearRange_eq_splice
    (ordered : start ≤ stop)
    (inside : stop ≤ row.length)
    (blank : GridCell) :
    (row.mapIdx fun column cell =>
        if start ≤ column ∧ column < stop then blank else cell) =
      row.take start ++ List.replicate (stop - start) blank ++
        row.drop stop := by
  apply List.ext_getElem?
  intro position
  simp only [List.getElem?_mapIdx, List.getElem?_append, List.length_append,
    List.length_take, List.length_replicate, List.getElem?_take,
    List.getElem?_drop, List.getElem?_replicate]
  rcases Nat.lt_or_ge position start with ahead | behind
  · grind
  · rcases Nat.lt_or_ge position stop with within | beyond
    · grind
    · grind

theorem paired_clearRange
    (paired : row.Paired unicode)
    (ordered : start ≤ stop)
    (inside : stop ≤ row.length)
    (left : start < stop → ¬ row.SplitAt start)
    (right : start < stop → ¬ row.SplitAt stop)
    (plain : Plain blank.toCell) :
    (row.clearRange start stop blank).Paired unicode := by
  unfold Row.clearRange
  have untabbed := paired_dropTabs paired
    fun column width => column < stop && start < column + width
  have length := Row.length_dropTabs row
    fun column width => column < stop && start < column + width
  have whole := splitAt_dropTabs row
    fun column width => column < stop && start < column + width
  generalize row.dropTabs _ = clean at untabbed length whole ⊢
  rcases Nat.lt_or_ge start stop with proper | empty
  · apply paired_of_linked clean (by simp)
    rw [clearRange_eq_splice ordered (by omega) blank]
    apply linked_splice untabbed
    · rw [whole]
      exact left proper
    · rw [whole]
      exact right proper
    · exact linked_blanks plain _
  · have unchanged : (clean.mapIdx fun column cell =>
        if start ≤ column ∧ column < stop then blank else cell) = clean := by
      apply List.ext_getElem?
      intro position
      rw [List.getElem?_mapIdx]
      have none : ¬ (start ≤ position ∧ position < stop) := by omega
      simp [none]
    rw [unchanged]
    exact untabbed

theorem paired_map_dropTab
    (paired : row.Paired unicode) :
    Row.Paired unicode (row.map GridCell.dropTab) := by
  have sameLead : ∀ cell : GridCell,
      lead unicode row.length cell.dropTab = lead unicode row.length cell :=
    fun _ => rfl
  have sameTrail : ∀ cell : GridCell, trail cell.dropTab = trail cell :=
    fun _ => rfl
  apply paired_of_linked row (by simp)
  exact (linked_map sameLead sameTrail).2 paired

theorem splitAt_map_dropTab
    (row : Row)
    (column : Nat) :
    Row.SplitAt (row.map GridCell.dropTab) column ↔ row.SplitAt column := by
  unfold Row.SplitAt
  rw [List.getElem?_map]
  cases row[column]? with
  | none => exact Iff.rfl
  | some cell => exact Iff.rfl

section

variable
    (paired : row.Paired unicode)
    {cursor count : Nat}
    (fits : cursor + count ≤ row.length)
    (left : 0 < count → ¬ row.SplitAt cursor)
include paired fits left

theorem paired_insertBlank
    (right : 0 < count → ¬ row.SplitAt (row.length - count))
    (plain : Plain blank.toCell) :
    (row.insertBlank cursor count blank).Paired unicode := by
  apply paired_of_linked row (Row.length_insertBlank row cursor count blank fits)
  unfold Row.insertBlank
  dsimp only
  have untabbed := paired_map_dropTab paired
  have length : (row.map GridCell.dropTab).length = row.length := by simp
  have whole := splitAt_map_dropTab row
  generalize row.map GridCell.dropTab = clean at untabbed length whole ⊢
  unfold Row.Paired at untabbed
  rw [length] at untabbed
  rcases Nat.eq_zero_or_pos count with none | positive
  · subst none
    have all : (clean.drop cursor).take (row.length - 0 - cursor) =
        clean.drop cursor :=
      List.take_of_length_le (by simp [length])
    rw [all, List.replicate_zero, List.append_nil, List.take_append_drop]
    exact untabbed
  · have shifted : (clean.drop cursor).take (row.length - count - cursor) =
        (clean.take (row.length - count)).drop cursor := by
      rw [List.drop_take]
    have leftWhole : ¬ Row.SplitAt clean cursor := by
      rw [whole]
      exact left positive
    have rightWhole : ¬ Row.SplitAt clean (row.length - count) := by
      rw [whole]
      exact right positive
    rw [shifted]
    apply linked_join
    · apply linked_join
      · exact linked_take untabbed (seam_eq_none leftWhole)
      · exact linked_blanks plain count
    · apply linked_drop (linked_take untabbed (seam_eq_none rightWhole))
      unfold seam
      rw [List.getElem?_take]
      split
      · exact seam_eq_none leftWhole
      · rfl

theorem paired_deleteChars
    (right : 0 < count → ¬ row.SplitAt (cursor + count))
    (plain : Plain blank.toCell) :
    (row.deleteChars cursor count blank).Paired unicode := by
  apply paired_of_linked row (Row.length_deleteChars row cursor count blank fits)
  unfold Row.deleteChars
  dsimp only
  have untabbed := paired_map_dropTab paired
  have length : (row.map GridCell.dropTab).length = row.length := by simp
  have whole := splitAt_map_dropTab row
  generalize row.map GridCell.dropTab = clean at untabbed length whole ⊢
  unfold Row.Paired at untabbed
  rw [length] at untabbed
  apply linked_join
  · rcases Nat.eq_zero_or_pos count with none | positive
    · subst none
      rw [Nat.add_zero, List.take_append_drop]
      exact untabbed
    · apply linked_join
      · apply linked_take untabbed (seam_eq_none _)
        rw [whole]
        exact left positive
      · apply linked_drop untabbed (seam_eq_none _)
        rw [whole]
        exact right positive
  · exact linked_blanks plain count

end

/-- Resizing the row to `cols` columns separates a glyph: the last column that
is kept is the glyph's first one, or a row of one column that holds a wide
glyph gets more columns. -/
def Row.SplitByResize
    (unicode : UnicodeWidth)
    (row : Row)
    (cols : Nat) : Prop :=
  1 < cols ∧
    if cols < row.length then row.SplitAt cols
    else row.length = 1 ∧ row.any fun cell => unicode.columns cell.ch = 2

theorem lead_congr
    {first second : Nat}
    (same : 1 < first ↔ 1 < second) :
    lead unicode first = lead unicode second := by
  funext cell
  simp [lead, same]

theorem paired_resized
    (paired : row.Paired unicode)
    {cols : Nat}
    (positive : 0 < cols)
    (whole : ¬ row.SplitByResize unicode cols) :
    Row.Paired unicode (resized row cols {}) := by
  unfold Row.Paired
  rw [length_resized]
  unfold resized
  rcases Nat.lt_or_ge cols row.length with shrinks | grows
  · rw [Nat.sub_eq_zero_of_le (Nat.le_of_lt shrinks), List.replicate_zero,
      List.append_nil]
    rcases Nat.lt_or_ge 1 cols with wide | narrow
    · have kept : ¬ row.SplitAt cols := by
        intro split
        exact whole ⟨wide, by rw [if_pos shrinks]; exact split⟩
      have sameLead : lead unicode cols = lead unicode row.length :=
        lead_congr (by omega)
      rw [sameLead]
      exact linked_take paired (seam_eq_none kept)
    · have one : cols = 1 := by omega
      subst one
      cases row with
      | nil => simp at shrinks
      | cons cell rest => exact ⟨paired.1, by simp [lead]⟩
  · rw [List.take_of_length_le grows]
    apply linked_join _ (linked_blanks plain_default _)
    by_cases same : 1 < row.length ↔ 1 < cols
    · rw [← lead_congr same]
      exact paired
    · match row with
      | [] => rfl
      | [cell] =>
          have wide : 1 < cols := by
            simp at same
            omega
          refine ⟨paired.1, ?_⟩
          have narrow : unicode.columns cell.ch ≠ 2 := by
            intro two
            apply whole
            refine ⟨wide, ?_⟩
            rw [if_neg (Nat.not_lt.2 grows)]
            simp [two]
          simp [lead, narrow]
      | first :: second :: rest =>
          simp at same grows
          omega

end Rows

/-! ## All rows of a terminal -/

/-- The rows of both screens and of the history are paired. -/
structure AllPaired (unicode : UnicodeWidth) (terminal : Terminal) : Prop where
  grid : ∀ row ∈ terminal.grid, row.Paired unicode
  alternateGrid : ∀ row ∈ terminal.alternateGrid, row.Paired unicode
  history : ∀ row ∈ terminal.history, row.Paired unicode

/-- A cut of a row of the grid. -/
def SplitAt (terminal : Terminal) (row column : Nat) : Prop :=
  Row.SplitAt (terminal.grid.getD row []) column

instance
    (terminal : Terminal)
    (row column : Nat) : Decidable (terminal.SplitAt row column) :=
  inferInstanceAs (Decidable (Row.SplitAt _ _))

theorem splitAt_iff
    {terminal : Terminal}
    {index : Nat}
    {row : Row}
    (known : terminal.grid[index]? = some row)
    (column : Nat) : terminal.SplitAt index column ↔ row.SplitAt column := by
  simp [SplitAt, known]

namespace AllPaired

variable {unicode : UnicodeWidth} {terminal : Terminal}

theorem new
    (rows cols historyLimit : Nat) :
    AllPaired unicode (Terminal.new rows cols historyLimit) where
  grid := by
    intro row member
    rw [mem_blankGrid member]
    exact paired_blanks plain_default _
  alternateGrid := by
    intro row member
    rw [mem_blankGrid member]
    exact paired_blanks plain_default _
  history := by simp [Terminal.new]

theorem damage
    (paired : AllPaired unicode terminal) :
    AllPaired unicode terminal.damage := by
  rw [damage_eq]
  exact { paired with }

/-- A change of one row of the grid. -/
theorem modifyRow
    (paired : AllPaired unicode terminal)
    {index : Nat}
    {change : Row → Row}
    (keeps : ∀ row, terminal.grid[index]? = some row → row.Paired unicode →
      (change row).Paired unicode) :
    AllPaired unicode (terminal.modifyRow index change) :=
  { paired with
    grid := by
      intro row member
      rcases mem_modify member with kept | ⟨old, known, changed⟩
      · exact paired.grid row kept
      · subst changed
        exact keeps old known
          (paired.grid old (List.mem_of_getElem? known)) }

section

variable (paired : AllPaired unicode terminal)
include paired

theorem invalidateTabAt
    (row column : Nat) :
    AllPaired unicode (terminal.invalidateTabAt row column) := by
  apply paired.modifyRow
  intro row _ pairedRow
  exact paired_dropTabs pairedRow _

theorem modifyCell
    (row column : Nat)
    {change : GridCell → GridCell}
    (sameLead : ∀ cols cell,
      lead unicode cols (change cell) = lead unicode cols cell)
    (sameTrail : ∀ cell, trail (change cell) = trail cell) :
    AllPaired unicode
      (terminal.modifyRow row fun cells => cells.modify column change) := by
  apply paired.modifyRow
  intro row _ pairedRow
  apply paired_of_linked row (by simp)
  have changed : row.modify column change =
      row.mapIdx fun position cell =>
        if column = position then change cell else cell := by
    apply List.ext_getElem?
    intro position
    rw [List.getElem?_modify, List.getElem?_mapIdx]
    rfl
  rw [changed, linked_mapIdx]
  · exact pairedRow
  · intro position cell
    split
    · exact sameLead _ cell
    · rfl
  · intro position cell
    split
    · exact sameTrail cell
    · rfl

theorem combine (ch : Char) : AllPaired unicode (terminal.combine ch) := by
  unfold Terminal.combine
  apply AllPaired.damage
  apply paired.modifyCell
  · intro _ _
    rfl
  · intro _
    rfl

theorem clearRowRange
    (sized : WellSized terminal)
    {row start stop : Nat}
    (ordered : start ≤ stop)
    (left : start < stop → ¬ terminal.SplitAt row start)
    (right : start < stop → ¬ terminal.SplitAt row stop) :
    AllPaired unicode (terminal.clearRowRange row start stop) := by
  unfold Terminal.clearRowRange
  apply AllPaired.damage
  apply paired.modifyRow
  intro cells known pairedRow
  have length := sized.gridCols cells (List.mem_of_getElem? known)
  -- A cut behind the last column separates nothing.
  have clamped : ∀ column, ¬ terminal.SplitAt row column →
      ¬ Row.SplitAt cells (min column terminal.cols) := by
    intro column whole
    rcases Nat.lt_or_ge column terminal.cols with inside | outside
    · rw [Nat.min_eq_left (Nat.le_of_lt inside)]
      rwa [splitAt_iff known] at whole
    · rw [Nat.min_eq_right outside, Row.SplitAt,
        List.getElem?_eq_none (by omega)]
      simp
  apply paired_clearRange pairedRow (by omega) (by omega)
  · intro proper
    exact clamped start (left (by omega))
  · intro proper
    exact clamped stop (right (by omega))
  · exact plain_blank terminal

end

theorem scrollUpOnce
    (paired : AllPaired unicode terminal) :
    AllPaired unicode terminal.scrollUpOnce :=
  { paired with
    grid := by
      intro row member
      rcases mem_eraseIdx_insertIdx member with kept | fresh
      · exact paired.grid row kept
      · rw [fresh]
        exact paired_blanks (plain_blank terminal) _
    history := by
      intro row member
      simp only [Terminal.scrollUpOnce] at member
      have known := List.mem_of_mem_drop member
      split at known
      · rcases List.mem_append.1 known with kept | removed
        · exact paired.history row kept
        · rw [List.mem_singleton.1 removed, List.getD_eq_getElem?_getD]
          cases found : terminal.grid[terminal.scrollTop]? with
          | none => exact rfl
          | some row =>
              exact paired.grid row (List.mem_of_getElem? found)
      · exact paired.history row known }

theorem scrollDownOnce
    (paired : AllPaired unicode terminal) :
    AllPaired unicode terminal.scrollDownOnce :=
  { paired with
    grid := by
      intro row member
      rcases mem_eraseIdx_insertIdx member with kept | fresh
      · exact paired.grid row kept
      · rw [fresh]
        exact paired_blanks (plain_blank terminal) _ }

theorem scrollRegionUp
    (paired : AllPaired unicode terminal)
    (count : Nat) : AllPaired unicode (terminal.scrollRegionUp count) :=
  scroll_rule (AllPaired unicode) paired (fun _ held => held.scrollUpOnce)
    (fun _ _ held => AllPaired.damage { held with }) _ _

theorem scrollRegionDown
    (paired : AllPaired unicode terminal)
    (count : Nat) : AllPaired unicode (terminal.scrollRegionDown count) :=
  scroll_rule (AllPaired unicode) paired (fun _ held => held.scrollDownOnce)
    (fun _ _ held => AllPaired.damage { held with }) _ _

theorem lineFeed
    (paired : AllPaired unicode terminal) :
    AllPaired unicode terminal.lineFeed := by
  unfold Terminal.lineFeed
  split
  · exact paired.scrollRegionUp 1
  · exact { paired with }

theorem nextRow
    (paired : AllPaired unicode terminal) :
    AllPaired unicode terminal.nextRow := by
  apply AllPaired.lineFeed
  exact { paired with }

theorem wrapPending
    (paired : AllPaired unicode terminal) :
    AllPaired unicode terminal.wrapPending := by
  unfold Terminal.wrapPending
  split
  · exact paired.nextRow
  · exact paired

end AllPaired

theorem splitAt_invalidateTabAt
    (terminal : Terminal)
    (row column other cut : Nat) :
    (terminal.invalidateTabAt row column).SplitAt other cut ↔
      terminal.SplitAt other cut := by
  unfold SplitAt invalidateTabAt modifyRow
  dsimp only
  rw [List.getD_eq_getElem?_getD, List.getD_eq_getElem?_getD,
    List.getElem?_modify]
  cases known : terminal.grid[other]? with
  | none => exact Iff.rfl
  | some cells =>
      simp only [Option.map_eq_map, Option.map_some, Option.getD_some]
      split
      · exact splitAt_dropTabs _ _ _
      · exact Iff.rfl

theorem splitAt_untabGlyph
    (terminal : Terminal)
    (width row cut : Nat) :
    (terminal.untabGlyph width).SplitAt row cut ↔ terminal.SplitAt row cut := by
  unfold untabGlyph
  dsimp only
  split
  · rw [splitAt_invalidateTabAt, splitAt_invalidateTabAt]
  · exact splitAt_invalidateTabAt _ _ _ _ _

theorem getElem?_modifyRow_of_ne
    (terminal : Terminal)
    (change : Row → Row)
    {index other : Nat}
    (differs : index ≠ other) :
    (terminal.modifyRow index change).grid[other]? = terminal.grid[other]? := by
  unfold modifyRow
  dsimp only
  rw [List.getElem?_modify]
  simp [differs]

theorem modifyRow_modifyRow
    (terminal : Terminal)
    (row : Nat)
    (first second : Row → Row) :
    (terminal.modifyRow row first).modifyRow row second =
      terminal.modifyRow row (second ∘ first) := by
  unfold modifyRow
  simp only [List.modify_modify_eq]

/-- No row is cut behind its last column. -/
theorem not_splitAt_of_le
    {terminal : Terminal}
    (sized : WellSized terminal)
    (row : Nat)
    {column : Nat}
    (outside : terminal.cols ≤ column) : ¬ terminal.SplitAt row column := by
  unfold SplitAt Row.SplitAt
  rw [List.getD_eq_getElem?_getD]
  cases known : terminal.grid[row]? with
  | none => simp
  | some cells =>
      have length := sized.gridCols cells (List.mem_of_getElem? known)
      rw [Option.getD_some, List.getElem?_eq_none (by omega)]
      simp

namespace AllPaired

variable {unicode : UnicodeWidth} {terminal : Terminal}

theorem wrapWide
    (paired : AllPaired unicode terminal)
    (sized : WellSized terminal)
    (width : Nat)
    (whole : width = 2 → terminal.cols ≤ terminal.cursorCol + 1 →
      ¬ terminal.SplitAt terminal.cursorRow terminal.cursorCol) :
    AllPaired unicode (terminal.wrapWide width) := by
  unfold Terminal.wrapWide
  split
  · next wraps =>
      apply AllPaired.nextRow
      apply (paired.invalidateTabAt terminal.cursorRow
        terminal.cursorCol).modifyRow
      intro row known pairedRow
      have left := whole wraps.1 wraps.2
      have right := not_splitAt_of_le sized terminal.cursorRow wraps.2
      rw [← splitAt_invalidateTabAt terminal terminal.cursorRow
        terminal.cursorCol, splitAt_iff known] at left right
      apply paired_set pairedRow _ rfl left right
      simp [lead, Terminal.blank]
  · exact paired

theorem untabGlyph
    (paired : AllPaired unicode terminal)
    (width : Nat) : AllPaired unicode (terminal.untabGlyph width) := by
  unfold Terminal.untabGlyph
  dsimp only
  split
  · exact (paired.invalidateTabAt _ _).invalidateTabAt _ _
  · exact paired.invalidateTabAt _ _

/-- The glyph is put between two cuts, the right one behind its last
column. -/
theorem putGlyph
    (paired : AllPaired unicode terminal)
    (sized : WellSized terminal)
    {ch : Char}
    (printable : unicode.columns ch ≠ 0)
    (room : unicode.columns ch = 2 → 1 < terminal.cols →
      terminal.cursorCol + 1 < terminal.cols)
    (left : ¬ terminal.SplitAt terminal.cursorRow terminal.cursorCol)
    (right : ¬ terminal.SplitAt terminal.cursorRow
      (terminal.cursorCol + unicode.columns ch)) :
    AllPaired unicode (terminal.putGlyph ch (unicode.columns ch)) := by
  have atMostTwo := unicode.columns_le_two ch
  have cols := untabGlyph_cols terminal (unicode.columns ch)
  have sizedClean := sized.untabGlyph (unicode.columns ch)
  have clean := paired.untabGlyph (unicode.columns ch)
  rw [← splitAt_untabGlyph terminal (unicode.columns ch)] at left right
  unfold Terminal.putGlyph
  dsimp only
  generalize terminal.untabGlyph (unicode.columns ch) = untabbed at *
  split
  · next wide =>
      rw [modifyRow_modifyRow]
      have written : AllPaired unicode
          (untabbed.modifyRow terminal.cursorRow
            ((fun cells : Row =>
                cells.set (terminal.cursorCol + 1) terminal.continuation) ∘
              fun cells : Row =>
                cells.set terminal.cursorCol (terminal.glyph ch))) := by
        apply clean.modifyRow
        intro row known pairedRow
        have length := sizedClean.gridCols row (List.mem_of_getElem? known)
        rw [splitAt_iff known] at left right
        rw [wide.1] at right
        apply paired_set_set pairedRow (by omega) rfl _ rfl left right
        have announces : 1 < row.length := by omega
        simp [lead, trail, glyph, continuation, wide.1, announces]
      exact { written with }
  · next narrow =>
      have written : AllPaired unicode
          (untabbed.modifyRow terminal.cursorRow fun cells =>
            cells.set terminal.cursorCol (terminal.glyph ch)) := by
        apply clean.modifyRow
        intro row known pairedRow
        have length := sizedClean.gridCols row (List.mem_of_getElem? known)
        -- The glyph takes one column, or the row has only one.
        have alone : ¬ (1 < row.length ∧ unicode.columns ch = 2) := by
          intro both
          exact narrow ⟨both.2, room both.2 (by omega)⟩
        have rightWhole :
            ¬ untabbed.SplitAt terminal.cursorRow (terminal.cursorCol + 1) := by
          by_cases two : unicode.columns ch = 2
          · apply not_splitAt_of_le sizedClean
            omega
          · have one : unicode.columns ch = 1 := by omega
            rwa [one] at right
        rw [splitAt_iff known] at left rightWhole
        apply paired_set pairedRow _ rfl left rightWhole
        simp only [lead, glyph]
        rw [if_neg]
        intro announced
        exact alone ⟨announced.1, announced.2.2⟩
      exact { written with }

end AllPaired

/-! ## Calls -/

/-- The call separates the two columns of a wide glyph. -/
def SplitsGlyph
    (unicode : UnicodeWidth)
    (terminal : Terminal)
    (call : Call) : Prop :=
  match call with
  | .input ch =>
      let width := unicode.columns ch
      let pending := terminal.wrapPending
      let wide := pending.wrapWide width
      -- The spacer in the last column, and the two ends of the glyph.
      width ≠ 0 ∧
        ((width = 2 ∧ pending.cols ≤ pending.cursorCol + 1 ∧
            pending.SplitAt pending.cursorRow pending.cursorCol) ∨
          wide.SplitAt wide.cursorRow wide.cursorCol ∨
          wide.SplitAt wide.cursorRow (wide.cursorCol + width))
  | .insertBlank count =>
      let count := min count (terminal.cols - terminal.cursorCol)
      0 < count ∧
        (terminal.SplitAt terminal.cursorRow terminal.cursorCol ∨
          terminal.SplitAt terminal.cursorRow (terminal.cols - count))
  | .deleteChars count =>
      let count := min count (terminal.cols - terminal.cursorCol)
      0 < count ∧
        (terminal.SplitAt terminal.cursorRow terminal.cursorCol ∨
          terminal.SplitAt terminal.cursorRow (terminal.cursorCol + count))
  | .eraseChars count =>
      0 < count ∧
        (terminal.SplitAt terminal.cursorRow terminal.cursorCol ∨
          terminal.SplitAt terminal.cursorRow (terminal.cursorCol + count))
  | .clearLine .right =>
      terminal.SplitAt terminal.cursorRow terminal.cursorCol
  | .clearLine .left =>
      terminal.SplitAt terminal.cursorRow (terminal.cursorCol + 1)
  | .clearScreen .below =>
      terminal.SplitAt terminal.cursorRow terminal.cursorCol
  | .clearScreen .above =>
      terminal.SplitAt terminal.cursorRow (terminal.cursorCol + 1)
  | .resize rows cols =>
      ∃ row ∈ terminal.grid.take (max rows 1) ++
          terminal.alternateGrid.take (max rows 1),
        row.SplitByResize unicode (max cols 1)
  | _ => False

namespace AllPaired

variable {unicode : UnicodeWidth} {terminal : Terminal}

section

variable (paired : AllPaired unicode terminal)
include paired

theorem input
    (sized : WellSized terminal)
    {ch : Char}
    (whole : ¬ terminal.SplitsGlyph unicode (.input ch)) :
    AllPaired unicode (terminal.input unicode ch) := by
  unfold Terminal.input
  dsimp only
  split
  · exact paired.combine ch
  · next printable =>
      simp only [SplitsGlyph, not_and, not_or] at whole
      obtain ⟨spacer, left, right⟩ := whole printable
      have inside := wrapPending_inside sized.cols
      have room := (wrapWide_inside inside (unicode.columns ch)).2
      have pending := paired.wrapPending
      have wide := pending.wrapWide sized.wrapPending (unicode.columns ch) spacer
      have sizedWide := sized.wrapPending.wrapWide (unicode.columns ch)
      rw [← (sameSize_wrapWide terminal.wrapPending (unicode.columns ch)).cols] at room
      exact (wide.putGlyph sizedWide printable room left right).damage

theorem putTab (count : Nat) : AllPaired unicode (terminal.putTab count) := by
  unfold Terminal.putTab
  induction count with
  | zero => exact paired
  | succ count ih =>
      rw [Function.iterate_succ_apply']
      generalize Terminal.putTabOnce^[count] terminal = tabbed at *
      unfold Terminal.putTabOnce
      dsimp only
      split
      · refine { ih with
          grid := (ih.modifyCell _ _ ?_ ?_).grid }
        · intro _ _
          rfl
        · intro _
          rfl
      · exact { ih with }

variable {count : Nat}

theorem insertBlank
    (sized : WellSized terminal)
    (whole : ¬ terminal.SplitsGlyph unicode (.insertBlank count)) :
    AllPaired unicode (terminal.insertBlank count) := by
  have column := sized.cursorCol
  simp only [SplitsGlyph, not_and, not_or] at whole
  apply AllPaired.damage
  apply paired.modifyRow
  intro row known pairedRow
  have length := sized.gridCols row (List.mem_of_getElem? known)
  apply paired_insertBlank pairedRow (by omega)
  · intro positive
    rw [← splitAt_iff known]
    exact (whole positive).1
  · intro positive
    rw [← splitAt_iff known, length]
    exact (whole positive).2
  · exact plain_blank terminal

theorem deleteChars
    (sized : WellSized terminal)
    (whole : ¬ terminal.SplitsGlyph unicode (.deleteChars count)) :
    AllPaired unicode (terminal.deleteChars count) := by
  have column := sized.cursorCol
  simp only [SplitsGlyph, not_and, not_or] at whole
  apply AllPaired.damage
  apply paired.modifyRow
  intro row known pairedRow
  have length := sized.gridCols row (List.mem_of_getElem? known)
  apply paired_deleteChars pairedRow (by omega)
  · intro positive
    rw [← splitAt_iff known]
    exact (whole positive).1
  · intro positive
    rw [← splitAt_iff known]
    exact (whole positive).2
  · exact plain_blank terminal

theorem eraseChars
    (sized : WellSized terminal)
    (whole : ¬ terminal.SplitsGlyph unicode (.eraseChars count)) :
    AllPaired unicode (terminal.eraseChars count) := by
  have column := sized.cursorCol
  simp only [SplitsGlyph, not_and, not_or] at whole
  apply paired.clearRowRange sized (by omega)
  · intro proper
    exact (whole (by omega)).1
  · intro proper
    rcases Nat.lt_or_ge (terminal.cursorCol + count) terminal.cols with
      inside | outside
    · rw [Nat.min_eq_left (Nat.le_of_lt inside)]
      exact (whole (by omega)).2
    · rw [Nat.min_eq_right outside]
      exact not_splitAt_of_le sized _ (Nat.le_refl _)

end

end AllPaired

/-- The first column of a row has no column ahead of it to be cut from. -/
theorem not_splitAt_zero
    {unicode : UnicodeWidth}
    {terminal : Terminal}
    (paired : AllPaired unicode terminal)
    (row : Nat) : ¬ terminal.SplitAt row 0 := by
  unfold SplitAt Row.SplitAt
  rw [List.getD_eq_getElem?_getD]
  cases known : terminal.grid[row]? with
  | none => simp
  | some cells =>
      cases first : cells[0]? with
      | none => simp [first]
      | some cell =>
          have expected := trail_head
            (paired.grid cells (List.mem_of_getElem? known)) first
          simp only [Option.getD_some, first, Option.any_some]
          intro isContinuation
          rw [trail_of_continuation isContinuation] at expected
          simp at expected

namespace AllPaired

variable {unicode : UnicodeWidth} {terminal : Terminal}

/-- Clearing whole rows cuts at their ends only. -/
theorem clearRows
    (paired : AllPaired unicode terminal)
    (sized : WellSized terminal)
    (start stop : Nat) : AllPaired unicode (terminal.clearRows start stop) := by
  unfold Terminal.clearRows
  generalize List.range' start (stop - start) = rows
  induction rows generalizing terminal with
  | nil => exact paired
  | cons row rest ih =>
      apply ih _ (sized.clearRowRange _ _ _)
      apply paired.clearRowRange sized (Nat.zero_le _)
      · intro _
        exact not_splitAt_zero paired row
      · intro _
        exact not_splitAt_of_le sized row (Nat.le_refl _)

theorem clearLine
    (paired : AllPaired unicode terminal)
    (sized : WellSized terminal)
    {mode : LineClearMode}
    (whole : ¬ terminal.SplitsGlyph unicode (.clearLine mode)) :
    AllPaired unicode (terminal.clearLine mode) := by
  have first := not_splitAt_zero paired terminal.cursorRow
  have last := not_splitAt_of_le sized terminal.cursorRow (Nat.le_refl _)
  cases mode with
  | right =>
      exact paired.clearRowRange sized sized.cursorCol (fun _ => whole)
        fun _ => last
  | left =>
      exact paired.clearRowRange sized (Nat.zero_le _) (fun _ => first)
        fun _ => whole
  | all =>
      exact paired.clearRowRange sized (Nat.zero_le _) (fun _ => first)
        fun _ => last

/-- Clearing other rows leaves the cuts of a row alone. -/
theorem splitAt_clearRows
    {terminal : Terminal}
    (start stop row column : Nat)
    (other : stop ≤ row) :
    (terminal.clearRows start stop).SplitAt row column ↔
      terminal.SplitAt row column := by
  unfold Terminal.clearRows
  have below : ∀ index ∈ List.range' start (stop - start), index ≠ row := by
    intro index member
    have range := List.mem_range'_1.1 member
    omega
  generalize List.range' start (stop - start) = rows at below
  induction rows generalizing terminal with
  | nil => exact Iff.rfl
  | cons index rest ih =>
      refine (ih ?_).trans ?_
      · intro index member
        exact below index (List.mem_cons_of_mem _ member)
      · have differs : index ≠ row := below index List.mem_cons_self
        unfold SplitAt Terminal.clearRowRange
        dsimp only
        rw [damage_eq]
        dsimp only
        rw [List.getD_eq_getElem?_getD, List.getD_eq_getElem?_getD,
          getElem?_modifyRow_of_ne _ _ differs]

section

variable (paired : AllPaired unicode terminal)
include paired

theorem clearScreen
    (sized : WellSized terminal)
    {mode : ClearMode}
    (whole : ¬ terminal.SplitsGlyph unicode (.clearScreen mode)) :
    AllPaired unicode (terminal.clearScreen mode) := by
  have last := not_splitAt_of_le sized terminal.cursorRow (Nat.le_refl _)
  cases mode with
  | below =>
      have line := paired.clearRowRange sized sized.cursorCol (fun _ => whole)
        fun _ => last
      exact line.clearRows (sized.clearRowRange _ _ _) _ _
  | above =>
      have rows := paired.clearRows sized 0 terminal.cursorRow
      have sizedRows := sized.clearRows 0 terminal.cursorRow
      apply rows.clearRowRange sizedRows (Nat.zero_le _)
      · intro _
        exact not_splitAt_zero rows _
      · intro _
        rw [splitAt_clearRows _ _ _ _ (Nat.le_refl _)]
        exact whole
  | all =>
      apply AllPaired.damage
      exact { paired with
        grid := by
          intro row member
          rw [mem_blankGrid member]
          exact paired_blanks plain_default _ }
  | saved =>
      unfold Terminal.clearScreen
      dsimp only
      split
      · exact { paired with history := by simp [push] }
      · exact { paired with history := by simp }

theorem deviceStatus
    (status : Nat) : AllPaired unicode (terminal.deviceStatus status) := by
  unfold Terminal.deviceStatus
  split
  · exact { paired with }
  · exact { paired with }
  · exact paired

theorem insertBlankLines
    (rows : Nat) : AllPaired unicode (terminal.insertBlankLines rows) := by
  have region :
      AllPaired unicode { terminal with scrollTop := terminal.cursorRow } :=
    { paired with }
  exact { region.scrollRegionDown rows with }

theorem deleteLines
    (rows : Nat) : AllPaired unicode (terminal.deleteLines rows) := by
  have region :
      AllPaired unicode { terminal with scrollTop := terminal.cursorRow } :=
    { paired with }
  exact { region.scrollRegionUp rows with }

end

theorem reverseIndex
    (paired : AllPaired unicode terminal) :
    AllPaired unicode terminal.reverseIndex := by
  unfold Terminal.reverseIndex
  split
  · exact paired.scrollRegionDown 1
  · exact { paired with }

theorem resetState :
    AllPaired unicode terminal.resetState := by
  have blank : ∀ row ∈ blankGrid terminal.rows terminal.cols,
      row.Paired unicode := by
    intro row member
    rw [mem_blankGrid member]
    exact paired_blanks plain_default _
  apply AllPaired.damage
  exact ⟨blank, blank, by simp [push]⟩

theorem updatePrivateMode
    (paired : AllPaired unicode terminal)
    (mode : Nat)
    (enabled : Bool) :
    AllPaired unicode (terminal.updatePrivateMode mode enabled) := by
  have updated : ∀ other : Terminal, AllPaired unicode other →
      AllPaired unicode (other.push (.modeChange other.modes)) :=
    fun _ other => { other with }
  unfold Terminal.updatePrivateMode
  apply updated
  split
  case h_9 =>
    split
    · apply AllPaired.damage
      exact { paired with
        grid := paired.alternateGrid
        alternateGrid := paired.grid }
    · exact paired
  all_goals exact { paired with }

theorem resize
    (paired : AllPaired unicode terminal)
    {rows cols : Nat}
    (whole : ¬ terminal.SplitsGlyph unicode (.resize rows cols)) :
    AllPaired unicode (terminal.resize rows cols) := by
  have positive : 0 < max cols 1 :=
    Nat.lt_of_lt_of_le Nat.one_pos (Nat.le_max_right _ _)
  have resizedRows : ∀ grid : List Row,
      (∀ row ∈ grid, row.Paired unicode) →
      (∀ row ∈ grid.take (max rows 1),
        ¬ row.SplitByResize unicode (max cols 1)) →
      ∀ row ∈ resizeGrid grid (max rows 1) (max cols 1),
        row.Paired unicode := by
    intro grid pairedRows wholeRows row member
    rcases mem_resizeGrid member with ⟨old, known, same⟩ | same
    · rw [same]
      exact paired_resized (pairedRows old (List.mem_of_mem_take known))
        positive (wholeRows old known)
    · rw [same]
      exact paired_blanks plain_default _
  simp only [SplitsGlyph, not_exists, not_and, List.mem_append] at whole
  exact
  { grid := resizedRows terminal.grid paired.grid
      fun row known => whole row (Or.inl known)
    alternateGrid := resizedRows terminal.alternateGrid paired.alternateGrid
      fun row known => whole row (Or.inr known)
    history := paired.history }

/-- A call that separates no glyph keeps every row paired. -/
theorem apply
    (paired : AllPaired unicode terminal)
    (sized : WellSized terminal)
    {call : Call}
    (whole : ¬ terminal.SplitsGlyph unicode call) :
    AllPaired unicode (terminal.apply unicode call) := by
  cases call with
  | input ch => exact paired.input sized whole
  | linefeed => exact paired.lineFeed
  | newline => exact { paired.lineFeed with }
  | putTab count => exact paired.putTab count
  | insertBlank count => exact paired.insertBlank sized whole
  | deleteChars count => exact paired.deleteChars sized whole
  | eraseChars count => exact paired.eraseChars sized whole
  | clearLine mode => exact paired.clearLine sized whole
  | clearScreen mode => exact paired.clearScreen sized whole
  | scrollUp rows => exact paired.scrollRegionUp rows
  | scrollDown rows => exact paired.scrollRegionDown rows
  | insertBlankLines rows => exact paired.insertBlankLines rows
  | deleteLines rows => exact paired.deleteLines rows
  | reverseIndex => exact paired.reverseIndex
  | resetState => exact AllPaired.resetState
  | privateMode mode enabled => exact paired.updatePrivateMode mode enabled
  | deviceStatus status => exact paired.deviceStatus status
  | resize rows cols => exact paired.resize whole
  | _ => exact { paired with }

end AllPaired

/-! ## Runs that separate no glyph -/

theorem allPaired_of_reachable
    {unicode : UnicodeWidth}
    {terminal : Terminal}
    (reachable : (machine unicode).Reachable
      (fun before call => ¬ before.SplitsGlyph unicode call) terminal) :
    AllPaired unicode terminal := by
  induction reachable with
  | initial isNew =>
      obtain ⟨rows, cols, historyLimit, same⟩ := isNew
      exact same ▸ AllPaired.new rows cols historyLimit
  | step before whole stepped paired =>
      exact stepped ▸ paired.apply (wellSized_of_reachable before) whole

/-- In a run whose calls separate no glyph, every row of the grid and of the
history is well formed. -/
theorem wellFormed_viewportLine
    {unicode : UnicodeWidth}
    {terminal : Terminal}
    (reachable : (machine unicode).Reachable
      (fun before call => ¬ before.SplitsGlyph unicode call) terminal)
    {line : Int}
    {row : Row}
    (visible : terminal.viewportLine line = some row) :
    row.WellFormed unicode := by
  have paired := allPaired_of_reachable reachable
  apply Row.Paired.wellFormed
  unfold viewportLine at visible
  split at visible
  · dsimp only at visible
    split at visible
    · exact paired.history row (List.mem_of_getElem? visible)
    · simp at visible
  · exact paired.grid row (List.mem_of_getElem? visible)

/-- A wide glyph in a row of two columns. -/
def hanInRow : Terminal :=
  (Terminal.new 1 2 0).apply latinAndHan (.input '界')

/-- The glyph's row after it was written. -/
theorem wellFormed_hanInRow :
    Row.WellFormed latinAndHan (hanInRow.grid.getD 0 []) := by
  have reachable : (machine latinAndHan).Reachable
      (fun before call => ¬ before.SplitsGlyph latinAndHan call) hanInRow := by
    apply reachable_apply
    · exact .initial ⟨1, 2, 0, rfl⟩
    · simp only [SplitsGlyph]
      decide +kernel
  have visible : hanInRow.viewportLine 0 = some (hanInRow.grid.getD 0 []) := by
    decide +kernel
  exact wellFormed_viewportLine reachable visible

/-- A narrow glyph over the first column of the wide one. -/
def overwrittenHan : Terminal :=
  (hanInRow.apply latinAndHan .carriageReturn).apply latinAndHan (.input 'a')

/-- Overwriting the first column of the glyph leaves its continuation behind
a narrow glyph. -/
theorem overwrittenHan_not_wellFormed :
    (machine latinAndHan).Reachable (fun _ _ => True) overwrittenHan ∧
      overwrittenHan.viewportLine 0 = some (overwrittenHan.grid.getD 0 []) ∧
      ¬ Row.WellFormed latinAndHan (overwrittenHan.grid.getD 0 []) := by
  refine ⟨?_, by decide +kernel, ?_⟩
  · apply reachable_apply _ _ trivial
    apply reachable_apply _ _ trivial
    apply reachable_apply _ _ trivial
    exact .initial ⟨1, 2, 0, rfl⟩
  · intro wellFormed
    obtain ⟨leading, glyph, next, ahead, _, wide, _⟩ :=
      wellFormed.continuation 1 _ (List.getElem?_eq_getElem (by decide +kernel))
        (by decide +kernel)
    have zero : leading = 0 := by omega
    subst zero
    rw [List.getElem?_eq_getElem (by decide +kernel)] at ahead
    rw [← Option.some.inj ahead] at wide
    revert wide
    decide +kernel

end Terminal
end Vvmux
