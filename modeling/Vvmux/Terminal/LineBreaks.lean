import Vvmux.Terminal.Motion
import Vvmux.Terminal.SoftWrap

/-!
# Lines that are erased and rewritten

Erasing a row leaves its wrap flag alone: `clear_row_range` writes cells only.
A row that wrapped once, was erased and got a shorter line is therefore still
joined to the row below it when its text is extracted.
-/

namespace Vvmux
namespace Terminal

/-! ## Text that fits -/

/-- Glyphs that fit behind the cursor write the grid, the cursor's column,
events and the number of inputs. -/
structure Typed (before after : Terminal) : Prop where
  frame : after =
    { before with
      grid := after.grid
      cursorCol := after.cursorCol
      events := after.events
      inputs := after.inputs }

theorem Typed.refl (terminal : Terminal) : Typed terminal terminal :=
  ⟨rfl⟩

theorem Typed.trans
    {first second third : Terminal}
    (before : Typed first second)
    (after : Typed second third) : Typed first third := by
  constructor
  rw [after.frame, before.frame]

theorem typed_damage
    (terminal : Terminal) : Typed terminal terminal.damage := by
  constructor
  rw [damage_eq]

theorem typed_untabGlyph
    (terminal : Terminal)
    (width : Nat) : Typed terminal (terminal.untabGlyph width) := by
  unfold untabGlyph
  dsimp only
  split
  · exact ⟨rfl⟩
  · exact ⟨rfl⟩

theorem typed_putGlyph
    (terminal : Terminal)
    (ch : Char)
    (width : Nat) : Typed terminal (terminal.putGlyph ch width) := by
  have untabbed := typed_untabGlyph terminal width
  unfold putGlyph
  dsimp only
  split
  · exact untabbed.trans ⟨rfl⟩
  · exact untabbed.trans ⟨rfl⟩

variable {terminal : Terminal}

theorem putGlyph_cursorCol
    {width : Nat}
    (narrowOrWide : width = 1 ∨ width = 2)
    (fits : terminal.cursorCol + width ≤ terminal.cols)
    (ch : Char) :
    (terminal.putGlyph ch width).cursorCol = terminal.cursorCol + width := by
  unfold putGlyph
  dsimp only
  rcases narrowOrWide with narrow | wide
  · subst narrow
    rfl
  · subst wide
    rw [if_pos ⟨rfl, by omega⟩]

variable {unicode : UnicodeWidth}

/-- A glyph that fits behind the cursor does not wrap. -/
theorem input_of_fits
    {ch : Char}
    (printed : unicode.columns ch ≠ 0)
    (fits : terminal.cursorCol + unicode.columns ch ≤ terminal.cols) :
    terminal.input unicode ch =
      (terminal.putGlyph ch (unicode.columns ch)).damage := by
  have inRow : terminal.wrapPending = terminal := by
    rw [wrapPending, if_neg (by omega)]
  have whole : terminal.wrapWide (unicode.columns ch) = terminal := by
    rw [wrapWide, if_neg (by omega)]
  unfold input
  dsimp only
  rw [if_neg printed, inRow, whole]

theorem typed_input
    {unicode : UnicodeWidth}
    {terminal : Terminal}
    {ch : Char}
    (printed : unicode.columns ch ≠ 0)
    (fits : terminal.cursorCol + unicode.columns ch ≤ terminal.cols) :
    Typed terminal (terminal.input unicode ch) ∧
      (terminal.input unicode ch).cursorCol =
        terminal.cursorCol + unicode.columns ch := by
  have atMostTwo := unicode.columns_le_two ch
  rw [input_of_fits printed fits]
  constructor
  · exact (typed_putGlyph _ _ _).trans (typed_damage _)
  · rw [damage_eq]
    exact putGlyph_cursorCol (by omega) fits ch

/-- A text that fits behind the cursor stays in its row. -/
theorem typed_print
    {unicode : UnicodeWidth}
    {terminal : Terminal}
    (text : List Char)
    (printed : ∀ ch ∈ text, unicode.columns ch ≠ 0)
    (fits : terminal.cursorCol + lineWidth unicode text ≤ terminal.cols) :
    Typed terminal (print unicode terminal text) ∧
      (print unicode terminal text).cursorCol =
        terminal.cursorCol + lineWidth unicode text := by
  induction text using List.reverseRecOn with
  | nil => exact ⟨Typed.refl terminal, rfl⟩
  | append_singleton text ch ih =>
      rw [lineWidth_concat] at fits
      obtain ⟨typed, column⟩ := ih
        (fun other member => printed other (List.mem_append_left _ member))
        (by omega)
      have cols : (print unicode terminal text).cols = terminal.cols :=
        (sameSize_print unicode terminal text).cols
      obtain ⟨next, moved⟩ := @typed_input unicode (print unicode terminal text) ch
        (printed ch (by simp)) (by rw [cols, column]; omega)
      rw [print_concat, lineWidth_concat]
      exact ⟨typed.trans next, by rw [moved, column]; omega⟩

/-! ## Two rows and what stands between them -/

/-- The text of two rows that both exist, as `extract_rows` joins them. -/
theorem extractRows_two
    {row : Nat}
    {first second : Row}
    {wrapped : Bool}
    (upper : terminal.grid[row]? = some first)
    (lower : terminal.grid[row + 1]? = some second)
    (flag : terminal.gridWrapped[row]? = some wrapped) :
    terminal.extractRows row 2 =
      Row.text (first.take terminal.cols) ++
        (if wrapped = false then ['\n'] else []) ++
        Row.text (second.take terminal.cols) := by
  have known : terminal.lineWrapped row = some wrapped := by
    rw [lineWrapped, if_neg (by omega), Int.toNat_natCast, flag]
  have upperShown := viewportLine_ofNat terminal row
  have lowerShown := viewportLine_ofNat terminal (row + 1)
  rw [upper] at upperShown
  rw [lower] at lowerShown
  push_cast at lowerShown
  simp only [extractRows, List.range_succ, List.range_zero, List.nil_append,
    List.foldl_append, List.foldl_cons, List.foldl_nil, extractRow,
    Int.natCast_zero, Int.add_zero, Int.natCast_one, upperShown, lowerShown,
    known, Option.getD_some]
  cases wrapped with
  | true => simp
  | false => simp

/-- The terminal after a row was erased and got a new line of text. -/
def rewriteLine
    (unicode : UnicodeWidth)
    (terminal : Terminal)
    (text : List Char) : Terminal :=
  (print unicode (terminal.apply unicode (.clearLine .all)) text).apply unicode
    .newline

/-- `extract_rows` shows a row and the next one as two lines. -/
def SeparatesLines (terminal : Terminal) (row : Nat) : Prop :=
  ∃ first second,
    terminal.viewportLine row = some first ∧
      terminal.viewportLine (row + 1 : Nat) = some second ∧
      terminal.extractRows row 2 =
        Row.text (first.take terminal.cols) ++ '\n' ::
          Row.text (second.take terminal.cols)

/-- Two rows are separated exactly if the upper one did not wrap. -/
theorem separatesLines_iff
    (sized : WellSized terminal)
    {row : Nat}
    (inside : row + 1 < terminal.rows) :
    SeparatesLines terminal row ↔ terminal.gridWrapped[row]? = some false := by
  have length := sized.grid
  have flags := sized.gridWrapped
  have upper : terminal.grid[row]? = some terminal.grid[row] :=
    List.getElem?_eq_getElem (by omega)
  have lower : terminal.grid[row + 1]? = some terminal.grid[row + 1] :=
    List.getElem?_eq_getElem (by omega)
  have flag : terminal.gridWrapped[row]? = some terminal.gridWrapped[row] :=
    List.getElem?_eq_getElem (by omega)
  have joined := extractRows_two upper lower flag
  unfold SeparatesLines
  rw [viewportLine_ofNat, viewportLine_ofNat, joined, upper, lower, flag]
  cases terminal.gridWrapped[row] with
  | false =>
      refine iff_of_true ⟨_, _, rfl, rfl, ?_⟩ rfl
      simp
  | true =>
      refine iff_of_false ?_ (by simp)
      rintro ⟨first, second, isUpper, isLower, separated⟩
      obtain rfl := Option.some.inj isUpper
      obtain rfl := Option.some.inj isLower
      have lengths := congrArg List.length separated
      simp at lengths

/-! ## Erasing keeps the flag -/

theorem apply_clearLine_all
    (unicode : UnicodeWidth)
    (terminal : Terminal) :
    Typed terminal (terminal.apply unicode (.clearLine .all)) ∧
      (terminal.apply unicode (.clearLine .all)).cursorCol =
        terminal.cursorCol := by
  simp only [apply, clearLine, clearRowRange]
  constructor
  · exact Typed.trans ⟨rfl⟩ (typed_damage _)
  · rw [damage_eq]
    rfl

/-- A rewritten line leaves every wrap flag and the size as they were. -/
theorem rewriteLine_gridWrapped
    (atStart : terminal.cursorCol = 0)
    (above : terminal.cursorRow + 1 < terminal.scrollBottom)
    (text : List Char)
    (printed : ∀ ch ∈ text, unicode.columns ch ≠ 0)
    (shorter : lineWidth unicode text < terminal.cols) :
    (rewriteLine unicode terminal text).gridWrapped = terminal.gridWrapped := by
  obtain ⟨erased, column⟩ := apply_clearLine_all unicode terminal
  have cols : (terminal.apply unicode (.clearLine .all)).cols =
      terminal.cols := by
    rw [erased.frame]
  obtain ⟨typed, _⟩ := @typed_print unicode
    (terminal.apply unicode (.clearLine .all)) text printed
    (by rw [column, cols]; omega)
  have whole := erased.trans typed
  change (lineFeed (print unicode _ text)).gridWrapped = _
  rw [lineFeed_of_above]
  · dsimp only
    rw [whole.frame]
  · rw [whole.frame]
    exact above

theorem sized_rewriteLine
    {unicode : UnicodeWidth}
    {terminal : Terminal}
    (sized : WellSized terminal)
    (text : List Char) :
    WellSized (rewriteLine unicode terminal text) ∧
      (rewriteLine unicode terminal text).rows = terminal.rows := by
  have erased := sized.apply unicode (.clearLine .all)
  have sameErased : SameSize terminal
      (terminal.apply unicode (.clearLine .all)) :=
    sameSize_apply unicode terminal rfl
  have typed : ∀ start : Terminal, WellSized start →
      WellSized (print unicode start text) := by
    intro start startSized
    induction text generalizing start with
    | nil => exact startSized
    | cons ch rest ih =>
        exact ih _ (startSized.input unicode ch)
  constructor
  · exact (typed _ erased).apply unicode .newline
  · have newline : SameSize
        (print unicode (terminal.apply unicode (.clearLine .all)) text)
        (rewriteLine unicode terminal text) :=
      sameSize_apply unicode _ rfl
    rw [newline.rows, (sameSize_print unicode _ text).rows, sameErased.rows]

/-- A line that was erased and rewritten stays apart from the next one
exactly if the row's wrap flag was not set before. -/
theorem rewriteLine_separates_iff
    {unicode : UnicodeWidth}
    {guard : Terminal → Call → Prop}
    {terminal : Terminal}
    (reachable : (machine unicode).Reachable guard terminal)
    (atStart : terminal.cursorCol = 0)
    (above : terminal.cursorRow + 1 < terminal.scrollBottom)
    (text : List Char)
    (printed : ∀ ch ∈ text, unicode.columns ch ≠ 0)
    (shorter : lineWidth unicode text < terminal.cols) :
    SeparatesLines (rewriteLine unicode terminal text) terminal.cursorRow ↔
      terminal.gridWrapped[terminal.cursorRow]? = some false := by
  have sized := wellSized_of_reachable reachable
  have region := sized.scrollBottom
  obtain ⟨after, rows⟩ := @sized_rewriteLine unicode _ sized text
  rw [separatesLines_iff after (by omega),
    rewriteLine_gridWrapped atStart above text printed shorter]

/-- Two rows of four columns, the first of which wrapped. -/
def wrappedOnce : Terminal :=
  (print latinAndHan (Terminal.new 3 4 10) "aaaab".toList).apply latinAndHan
    (.goto 0 0)

theorem reachable_wrappedOnce :
    (machine latinAndHan).Reachable (fun _ _ => True) wrappedOnce := by
  have typed : ∀ (text : List Char) (start : Terminal),
      (machine latinAndHan).Reachable (fun _ _ => True) start →
      (machine latinAndHan).Reachable (fun _ _ => True)
        (print latinAndHan start text) := by
    intro text
    induction text with
    | nil => exact fun _ reachable => reachable
    | cons ch rest ih =>
        intro start reachable
        exact ih _ (reachable_apply reachable (.input ch) trivial)
  exact reachable_apply (typed _ _ (.initial ⟨3, 4, 10, rfl⟩)) _ trivial

theorem rewriteLine_separates_wrappedOnce :
    SeparatesLines (rewriteLine latinAndHan wrappedOnce ['x'])
        wrappedOnce.cursorRow ↔
      wrappedOnce.gridWrapped[wrappedOnce.cursorRow]? = some false :=
  rewriteLine_separates_iff reachable_wrappedOnce (by decide +kernel)
    (by decide +kernel) ['x']
    (by
      intro ch member
      rw [List.mem_singleton.1 member]
      decide +kernel)
    (by decide +kernel)

/-- The row that wrapped once is erased, gets an `x` and a newline, and its
text is still joined to the row below. -/
theorem rewriteLine_joined :
    ∃ terminal : Terminal,
      (machine latinAndHan).Reachable (fun _ _ => True) terminal ∧
      2 ≤ terminal.cols ∧ terminal.cursorCol = 0 ∧
      terminal.cursorRow + 1 < terminal.scrollBottom ∧
      (rewriteLine latinAndHan terminal ['x']).extractRows
          terminal.cursorRow 2 = "xb".toList := by
  refine ⟨wrappedOnce, reachable_wrappedOnce, ?_⟩
  decide +kernel

end Terminal
end Vvmux
