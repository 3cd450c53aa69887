import Vvmux.Terminal.ScrolledRows
import Vvmux.Media.Projection

/-!
# Anchors scroll with their text

`scroll_anchors` moves every anchor of a pane by the count of a `GridScroll`
event, and the event names no region.  The text follows whatever the rows show
exactly if the scroll moves the whole screen and no row of it is written
before it moves.
-/

namespace Vvmux
namespace Terminal

/-! ## The statement -/

/-- The `GridScroll` counts that a call adds to the events. -/
def emitted
    (unicode : UnicodeWidth)
    (terminal : Terminal)
    (call : Call) : List Int :=
  (terminal.apply unicode call).scrolls.drop terminal.scrolls.length

/-- Every visible row stands `lines` further up, as far as the history
reaches. -/
def Follows (before after : Terminal) (lines : Int) : Prop :=
  ∀ row : Nat, row < before.rows →
    -(before.historyLimit : Int) ≤ row - lines → row - lines < before.rows →
      after.viewportLine (row - lines) = before.viewportLine row

/-- The terminal with other rows on its screen and in its history. -/
def showing
    (terminal : Terminal)
    (grid history : List Row)
    (historyWrapped : List Bool) : Terminal :=
  { terminal with
    grid := grid
    history := history
    historyWrapped := historyWrapped }

/-- The text follows the scroll events of the call, whatever the screen and
the history show. -/
def FollowsText
    (unicode : UnicodeWidth)
    (terminal : Terminal)
    (call : Call) : Prop :=
  ∀ grid history historyWrapped,
    WellSized (terminal.showing grid history historyWrapped) →
    history.length ≤ terminal.historyLimit →
      Follows (terminal.showing grid history historyWrapped)
        ((terminal.showing grid history historyWrapped).apply unicode call)
        (terminal.emitted unicode call).sum

/-- The first row of the region that a call scrolls. -/
def regionTop (terminal : Terminal) (call : Call) : Nat :=
  match call with
  | .insertBlankLines _ => terminal.cursorRow
  | .deleteLines _ => terminal.cursorRow
  | _ => terminal.scrollTop

/-- The region that a call scrolls is the whole screen. -/
def Whole (terminal : Terminal) (call : Call) : Prop :=
  terminal.regionTop call = 0 ∧ terminal.scrollBottom = terminal.rows

/-- A glyph scrolls because the cursor stood behind the last row, and not only
because a wide glyph does not fit, which writes to the row first. -/
def WrapsFirst (terminal : Terminal) (call : Call) : Prop :=
  ∀ ch, call = .input ch →
    terminal.cols ≤ terminal.cursorCol ∧
      terminal.scrollBottom ≤ terminal.cursorRow + 1

/-- A wide glyph on a screen of one column scrolls twice. -/
def WrapsTwice
    (unicode : UnicodeWidth)
    (terminal : Terminal)
    (call : Call) : Prop :=
  ∃ ch, call = .input ch ∧ unicode.columns ch = 2 ∧ terminal.cols = 1 ∧
    terminal.cols ≤ terminal.cursorCol ∧
    terminal.scrollBottom ≤ terminal.cursorRow + 1

/-- Without a history, a screen that scrolls away at once. -/
def NoLineInReach
    (unicode : UnicodeWidth)
    (terminal : Terminal)
    (call : Call) : Prop :=
  terminal.historyLimit = 0 ∧
    (terminal.rows = 1 ∨ terminal.rows = 2 ∧ terminal.WrapsTwice unicode call)

/-! ## What a call emits -/

variable {terminal : Terminal} {unicode : UnicodeWidth} {call : Call}
  {line : Int} {ch : Char} {row : Nat}

theorem upScrolls_one
    (region : terminal.scrollTop < terminal.scrollBottom) :
    terminal.upScrolls 1 = [1] := by
  have one : min 1 (terminal.scrollBottom - terminal.scrollTop) = 1 := by omega
  rw [upScrolls, one]
  rfl

/-- The row behind the first wrap of `input`. -/
def wrappedRow (terminal : Terminal) : Nat :=
  if terminal.cols ≤ terminal.cursorCol then
    if terminal.scrollBottom ≤ terminal.cursorRow + 1 then terminal.cursorRow
    else min (terminal.cursorRow + 1) (terminal.rows - 1)
  else
    terminal.cursorRow

/-- The column behind the first wrap of `input`. -/
def wrappedCol (terminal : Terminal) : Nat :=
  if terminal.cols ≤ terminal.cursorCol then 0 else terminal.cursorCol

/-- What the first wrap of `input` leaves as it was, and the new cursor. -/
theorem wrapPending_frame
    (terminal : Terminal) :
    terminal.wrapPending =
      { terminal with
        grid := terminal.wrapPending.grid
        gridWrapped := terminal.wrapPending.gridWrapped
        history := terminal.wrapPending.history
        historyWrapped := terminal.wrapPending.historyWrapped
        events := terminal.wrapPending.events
        cursorRow := terminal.wrappedRow
        cursorCol := terminal.wrappedCol } := by
  by_cases behind : terminal.cols ≤ terminal.cursorCol
  · by_cases last : terminal.scrollBottom ≤ terminal.cursorRow + 1
    · have feeds : terminal.wrapPending =
          { terminal.markWrapped terminal.cursorRow with
            cursorCol := 0 }.scrollRegionUp 1 := by
        rw [wrapPending, if_pos behind, nextRow]
        exact lineFeed_of_last last
      rw [feeds, wrappedRow, wrappedCol, if_pos behind, if_pos last,
        if_pos behind]
      exact (scrolled_scrollRegionUp _ 1).frame
    · have above : terminal.cursorRow + 1 < terminal.scrollBottom := by omega
      have moves : terminal.wrapPending =
          { terminal.markWrapped terminal.cursorRow with
            cursorCol := 0
            cursorRow := min (terminal.cursorRow + 1) (terminal.rows - 1) } := by
        rw [wrapPending, if_pos behind, nextRow]
        exact lineFeed_of_above above
      rw [moves, wrappedRow, wrappedCol, if_pos behind, if_neg last,
        if_pos behind]
      rfl
  · rw [wrapPending, if_neg behind, wrappedRow, wrappedCol, if_neg behind,
      if_neg behind]

/-- The scrolls of `input` by the cursor and the region alone. -/
theorem inputScrolls_eq
    (unicode : UnicodeWidth)
    {terminal : Terminal}
    (region : terminal.scrollTop < terminal.scrollBottom)
    (ch : Char) :
    terminal.inputScrolls unicode ch =
      if unicode.columns ch = 0 then []
      else
        (if terminal.cols ≤ terminal.cursorCol ∧
            terminal.scrollBottom ≤ terminal.cursorRow + 1 then [1] else []) ++
          (if unicode.columns ch = 2 ∧
              terminal.cols ≤ terminal.wrappedCol + 1 ∧
              terminal.scrollBottom ≤ terminal.wrappedRow + 1 then [1]
            else []) := by
  have feeds : ∀ {fed : Terminal}, fed.scrollTop < fed.scrollBottom →
      fed.feedScrolls =
        if fed.scrollBottom ≤ fed.cursorRow + 1 then [1] else [] := by
    intro fed inside
    rw [feedScrolls, upScrolls_one inside]
  have frame := wrapPending_frame terminal
  have wrapped : terminal.wrapPending.feedScrolls =
      if terminal.scrollBottom ≤ terminal.wrappedRow + 1 then [1] else [] := by
    rw [feeds (by rw [frame]; exact region), frame]
  have cols : terminal.wrapPending.cols = terminal.cols := by rw [frame]
  have col : terminal.wrapPending.cursorCol = terminal.wrappedCol := by
    rw [frame]
  rw [inputScrolls, wrapped, feeds region, cols, col]
  congr 2
  · split
    · next behind => simp only [behind, true_and]
    · next inside => simp only [inside, false_and, if_false]
  · split
    · next wide => simp only [wide, true_and]
    · next narrow =>
        have none : ¬ (unicode.columns ch = 2 ∧
            terminal.cols ≤ terminal.wrappedCol + 1 ∧
            terminal.scrollBottom ≤ terminal.wrappedRow + 1) := by
          rintro ⟨isWide, noRoom, _⟩
          exact narrow ⟨isWide, noRoom⟩
        rw [if_neg none]

/-- The counts that a call emits are the ones it announces. -/
theorem emitted_eq
    (unicode : UnicodeWidth)
    (terminal : Terminal)
    (call : Call) :
    terminal.emitted unicode call = terminal.announces unicode call := by
  unfold emitted
  cases call with
  | takeEvents => exact List.drop_nil
  | resize rows cols =>
      have silent : (terminal.apply unicode (.resize rows cols)).scrolls =
          terminal.scrolls := by
        simp [apply, resize, scrolls]
      rw [silent, List.drop_length]
      rfl
  | _ => rw [scrolls_apply unicode terminal rfl, List.drop_left]

/-! ## Rows without combining marks -/

/-- No cell of the row has combining marks. -/
def Bare (shown : Option Row) : Prop :=
  ∀ row, shown = some row → ∀ cell ∈ row, cell.combining = ""

theorem bare_none : Bare none := by
  intro row isNone
  cases isNone

theorem bare_blankRow
    (terminal : Terminal) : Bare (some terminal.blankRow) := by
  intro row isBlank cell member
  obtain rfl := Option.some.inj isBlank
  rw [List.eq_of_mem_replicate member]
  rfl

/-- A step that keeps the history, and without combining marks the rows
outside of a region and the region. -/
structure KeepsBare (top bottom : Nat) (before after : Terminal) : Prop where
  history : after.history = before.history
  outside : ∀ row : Nat, row < top ∨ bottom ≤ row →
    Bare before.grid[row]? → Bare after.grid[row]?
  inside :
    (∀ row : Nat, top ≤ row → row < bottom → Bare before.grid[row]?) →
      ∀ row : Nat, top ≤ row → row < bottom → Bare after.grid[row]?

namespace KeepsBare

variable {top bottom : Nat}

theorem of_same
    {before after : Terminal}
    (grid : after.grid = before.grid)
    (history : after.history = before.history) :
    KeepsBare top bottom before after where
  history := history
  outside := by
    intro row _ bare
    rw [grid]
    exact bare
  inside := by
    intro bare
    rw [grid]
    exact bare

theorem trans
    {first second third : Terminal}
    (before : KeepsBare top bottom first second)
    (after : KeepsBare top bottom second third) :
    KeepsBare top bottom first third where
  history := after.history.trans before.history
  outside row beyond bare :=
    after.outside row beyond (before.outside row beyond bare)
  inside bare := after.inside (before.inside bare)

/-- A change of one row that adds no combining marks. -/
theorem modifyRow
    (terminal : Terminal)
    (index : Nat)
    {change : Row → Row}
    (keeps : ∀ cells : Row, (∀ cell ∈ cells, cell.combining = "") →
      ∀ cell ∈ change cells, cell.combining = "") :
    KeepsBare top bottom terminal (terminal.modifyRow index change) := by
  have each : ∀ row : Nat, Bare terminal.grid[row]? →
      Bare (terminal.modifyRow index change).grid[row]? := by
    intro row bare cells isRow
    simp only [Terminal.modifyRow, List.getElem?_modify] at isRow
    cases found : terminal.grid[row]? with
    | none =>
        rw [found] at isRow
        cases isRow
    | some old =>
        rw [found] at isRow
        have oldBare := bare old found
        split at isRow
        · obtain rfl := Option.some.inj isRow
          exact keeps old oldBare
        · obtain rfl := Option.some.inj isRow
          exact oldBare
  exact ⟨rfl, fun row _ => each row, fun bare row above below =>
    each row (bare row above below)⟩

theorem setCell
    (terminal : Terminal)
    (row column : Nat)
    (cell : GridCell)
    (bare : cell.combining = "") :
    KeepsBare top bottom terminal
      (terminal.modifyRow row fun cells => cells.set column cell) := by
  apply modifyRow
  intro cells cellsBare other member
  rcases List.mem_or_eq_of_mem_set member with kept | isNew
  · exact cellsBare other kept
  · rw [isNew]
    exact bare

theorem invalidateTabAt
    (terminal : Terminal)
    (row column : Nat) :
    KeepsBare top bottom terminal (terminal.invalidateTabAt row column) := by
  apply modifyRow
  intro cells cellsBare cell member
  obtain ⟨position, inside, isCell⟩ := List.mem_mapIdx.mp member
  have kept : cell.combining = cells[position].combining := by
    rw [← isCell]
    split
    · split
      · rfl
      · rfl
    · rfl
  rw [kept]
  exact cellsBare _ (List.getElem_mem inside)

variable {terminal : Terminal}

/-- One turn of `scroll_region_up` on a part of the screen. -/
theorem scrollUpOnce
    (sized : WellSized terminal)
    (part : ¬ Retains terminal) :
    KeepsBare terminal.scrollTop terminal.scrollBottom terminal
      terminal.scrollUpOnce := by
  have region := sized.scrollTop
  have length := sized.scrollBottom
  rw [← sized.grid] at length
  have rows : ∀ index, terminal.scrollUpOnce.grid[index]? = _ :=
    getElem?_shiftUp region length terminal.blankRow
  constructor
  · exact history_iterate_scrollUpOnce part 1
  · intro row beyond bare
    rw [rows]
    rcases beyond with above | below
    · rw [if_pos above]
      exact bare
    · rw [if_neg (by omega), if_neg (by omega), if_neg (by omega)]
      exact bare
  · intro bare row above below
    rw [rows, if_neg (by omega), if_pos below]
    split
    · exact bare (row + 1) (by omega) (by assumption)
    · exact bare_blankRow terminal

/-- One turn of `scroll_region_down`. -/
theorem scrollDownOnce
    (sized : WellSized terminal) :
    KeepsBare terminal.scrollTop terminal.scrollBottom terminal
      terminal.scrollDownOnce := by
  have region := sized.scrollTop
  have length := sized.scrollBottom
  rw [← sized.grid] at length
  have rows : ∀ index, terminal.scrollDownOnce.grid[index]? = _ :=
    getElem?_shiftDown region length terminal.blankRow
  constructor
  · rfl
  · intro row beyond bare
    rw [rows]
    rcases beyond with above | below
    · rw [if_pos above]
      exact bare
    · rw [if_neg (by omega), if_neg (by omega), if_neg (by omega)]
      exact bare
  · intro bare row above below
    rw [rows, if_neg (by omega), if_pos below]
    split
    · exact bare_blankRow terminal
    · exact bare (row - 1) (by omega) (by omega)

/-- The turns of a loop of scrolls. -/
theorem iterate
    (once : Terminal → Terminal)
    (scrolled : ∀ terminal, Scrolled terminal (once terminal))
    (sizes : ∀ terminal, WellSized terminal → WellSized (once terminal))
    (step : ∀ terminal, WellSized terminal → ¬ Retains terminal →
      KeepsBare terminal.scrollTop terminal.scrollBottom terminal
        (once terminal))
    {terminal : Terminal}
    (sized : WellSized terminal)
    (part : ¬ Retains terminal)
    (turns : Nat) :
    KeepsBare terminal.scrollTop terminal.scrollBottom terminal
      (once^[turns] terminal) := by
  induction turns with
  | zero => exact of_same rfl rfl
  | succ turns ih =>
      have frame := (scrolled_iterate scrolled terminal turns).frame
      have next := step _ (Function.Iterate.rec WellSized sized sizes turns) (by
        rw [frame]
        exact part)
      have top : (once^[turns] terminal).scrollTop = terminal.scrollTop := by
        rw [frame]
      have bottom : (once^[turns] terminal).scrollBottom =
          terminal.scrollBottom := by
        rw [frame]
      rw [top, bottom] at next
      rw [Function.iterate_succ_apply']
      exact ih.trans next

theorem pushDamage
    {before after : Terminal}
    (keeps : KeepsBare top bottom before after)
    (event : TerminalEvent) :
    KeepsBare top bottom before (after.push event).damage := by
  rw [damage_eq]
  exact keeps.trans (of_same rfl rfl)

section

variable (sized : WellSized terminal)
include sized

theorem scrollRegionUp
    (part : ¬ Retains terminal)
    (count : Nat) :
    KeepsBare terminal.scrollTop terminal.scrollBottom terminal
      (terminal.scrollRegionUp count) := by
  have turned := iterate Terminal.scrollUpOnce scrolled_scrollUpOnce
    (fun _ held => held.scrollUpOnce) (fun _ => scrollUpOnce) sized part
    (min count (terminal.scrollBottom - terminal.scrollTop))
  unfold Terminal.scrollRegionUp
  dsimp only
  split
  · exact turned.pushDamage _
  · exact turned

theorem lineFeed
    (part : ¬ Retains terminal) :
    KeepsBare terminal.scrollTop terminal.scrollBottom terminal
      terminal.lineFeed := by
  unfold Terminal.lineFeed
  split
  · exact scrollRegionUp sized part 1
  · exact of_same rfl rfl

theorem nextRow
    (part : ¬ Retains terminal) :
    KeepsBare terminal.scrollTop terminal.scrollBottom terminal
      terminal.nextRow := by
  have marked : KeepsBare terminal.scrollTop terminal.scrollBottom terminal
      { terminal.markWrapped terminal.cursorRow with cursorCol := 0 } :=
    of_same rfl rfl
  exact marked.trans (lineFeed (sized.markWrapped _).carriageReturn part)

theorem wrapPending
    (part : ¬ Retains terminal) :
    KeepsBare terminal.scrollTop terminal.scrollBottom terminal
      terminal.wrapPending := by
  unfold Terminal.wrapPending
  split
  · exact nextRow sized part
  · exact of_same rfl rfl

theorem wrapWide
    (part : ¬ Retains terminal)
    (width : Nat) :
    KeepsBare terminal.scrollTop terminal.scrollBottom terminal
      (terminal.wrapWide width) := by
  unfold Terminal.wrapWide
  split
  · have untabbed : KeepsBare terminal.scrollTop terminal.scrollBottom terminal
        (terminal.invalidateTabAt terminal.cursorRow terminal.cursorCol) :=
      invalidateTabAt terminal _ _
    have spaced := untabbed.trans (setCell _ terminal.cursorRow
      terminal.cursorCol { terminal.blank with leadingWideSpacer := true } rfl)
    exact spaced.trans
      (nextRow ((sized.invalidateTabAt _ _).setCell _ _ _) part)
  · exact of_same rfl rfl

end

theorem putGlyph
    (terminal : Terminal)
    (ch : Char)
    (width : Nat) :
    KeepsBare top bottom terminal (terminal.putGlyph ch width) := by
  have untabbed : KeepsBare top bottom terminal (terminal.untabGlyph width) := by
    unfold Terminal.untabGlyph
    dsimp only
    split
    · exact (invalidateTabAt terminal _ _).trans (invalidateTabAt _ _ _)
    · exact invalidateTabAt terminal _ _
  have written := untabbed.trans (setCell _ terminal.cursorRow
    terminal.cursorCol (terminal.glyph ch) rfl)
  unfold Terminal.putGlyph
  dsimp only
  split
  · have continued := written.trans (setCell _ terminal.cursorRow
      (terminal.cursorCol + 1) terminal.continuation rfl)
    exact continued.trans (of_same rfl rfl)
  · exact written.trans (of_same rfl rfl)

/-- A glyph that is no combining mark, on a part of the screen. -/
theorem input
    (unicode : UnicodeWidth)
    (sized : WellSized terminal)
    (part : ¬ Retains terminal)
    {ch : Char}
    (printed : unicode.columns ch ≠ 0) :
    KeepsBare terminal.scrollTop terminal.scrollBottom terminal
      (terminal.input unicode ch) := by
  have frame := wrapPending_frame terminal
  have top : terminal.wrapPending.scrollTop = terminal.scrollTop := by
    rw [frame]
  have bottom : terminal.wrapPending.scrollBottom = terminal.scrollBottom := by
    rw [frame]
  have also : ¬ Retains terminal.wrapPending := by
    rw [frame]
    exact part
  have wide := wrapWide sized.wrapPending also (unicode.columns ch)
  rw [top, bottom] at wide
  have put := ((wrapPending sized part).trans wide).trans
    (putGlyph _ ch (unicode.columns ch))
  unfold Terminal.input
  dsimp only
  rw [if_neg printed, damage_eq]
  exact put.trans (of_same rfl rfl)

end KeepsBare

/-! ## The calls that scroll a region -/

theorem viewportLine_congr
    {first second : Terminal}
    (grid : first.grid = second.grid)
    (history : first.history = second.history)
    (line : Int) : first.viewportLine line = second.viewportLine line := by
  rw [viewportLine, viewportLine, grid, history]

/-- The terminal with the region that a call scrolls. -/
def regionOf (terminal : Terminal) (call : Call) : Terminal :=
  { terminal with scrollTop := terminal.regionTop call }

/-- A call that scrolls by this loop announces `count` and leaves its rows. -/
structure Runs
    (unicode : UnicodeWidth)
    (terminal : Terminal)
    (call : Call)
    (once : Terminal → Terminal)
    (turns : Nat)
    (count : Int) : Prop where
  announced : terminal.announces unicode call = [count]
  grid : (terminal.apply unicode call).grid =
    (once^[turns] (terminal.regionOf call)).grid
  history : (terminal.apply unicode call).history =
    (once^[turns] (terminal.regionOf call)).history

theorem upScrolls_ne_nil
    {count : Nat}
    (announced : terminal.upScrolls count ≠ []) :
    ∃ turns : Nat, 0 < turns ∧
      turns ≤ terminal.scrollBottom - terminal.scrollTop ∧
      terminal.upScrolls count = [(turns : Int)] ∧
      (terminal.scrollRegionUp count).grid =
        (scrollUpOnce^[turns] terminal).grid ∧
      (terminal.scrollRegionUp count).history =
        (scrollUpOnce^[turns] terminal).history := by
  unfold upScrolls at announced ⊢
  unfold scrollRegionUp
  dsimp only at announced ⊢
  split at announced
  · next positive =>
      refine ⟨_, positive, Nat.min_le_right _ _, if_pos positive, ?_, ?_⟩
      · rw [if_pos positive, damage_eq]
        rfl
      · rw [if_pos positive, damage_eq]
        rfl
  · exact absurd rfl announced

theorem downScrolls_ne_nil
    {count : Nat}
    (announced : terminal.downScrolls count ≠ []) :
    ∃ turns : Nat, 0 < turns ∧
      turns ≤ terminal.scrollBottom - terminal.scrollTop ∧
      terminal.downScrolls count = [-(turns : Int)] ∧
      (terminal.scrollRegionDown count).grid =
        (scrollDownOnce^[turns] terminal).grid ∧
      (terminal.scrollRegionDown count).history =
        (scrollDownOnce^[turns] terminal).history := by
  unfold downScrolls at announced ⊢
  unfold scrollRegionDown
  dsimp only at announced ⊢
  split at announced
  · next positive =>
      refine ⟨_, positive, Nat.min_le_right _ _, if_pos positive, ?_, ?_⟩
      · rw [if_pos positive, damage_eq]
        rfl
      · rw [if_pos positive, damage_eq]
        rfl
  · exact absurd rfl announced

/-- A call that scrolls and types no glyph runs one of the two loops on its
region. -/
theorem runs_of_announces
    (noGlyph : ∀ ch, call ≠ .input ch)
    (announced : terminal.announces unicode call ≠ []) :
    ∃ turns : Nat, 0 < turns ∧
      turns ≤ terminal.scrollBottom - terminal.regionTop call ∧
      (Runs unicode terminal call scrollUpOnce turns turns ∨
        Runs unicode terminal call scrollDownOnce turns (-turns)) := by
  have feeds : terminal.feedScrolls ≠ [] →
      ∃ turns : Nat, 0 < turns ∧
        turns ≤ terminal.scrollBottom - terminal.scrollTop ∧
        terminal.feedScrolls = [(turns : Int)] ∧
        terminal.lineFeed.grid = (scrollUpOnce^[turns] terminal).grid ∧
        terminal.lineFeed.history =
          (scrollUpOnce^[turns] terminal).history := by
    intro fed
    unfold feedScrolls at fed ⊢
    unfold lineFeed
    split at fed
    · next last =>
        rw [if_pos last, if_pos last]
        exact upScrolls_ne_nil fed
    · exact absurd rfl fed
  cases call with
  | input ch => exact absurd rfl (noGlyph ch)
  | linefeed | newline =>
      obtain ⟨turns, positive, inside, sum, grid, history⟩ := feeds announced
      exact ⟨turns, positive, inside, .inl ⟨sum, grid, history⟩⟩
  | scrollUp rows | deleteLines rows =>
      obtain ⟨turns, positive, inside, sum, grid, history⟩ :=
        upScrolls_ne_nil announced
      exact ⟨turns, positive, inside, .inl ⟨sum, grid, history⟩⟩
  | scrollDown rows | insertBlankLines rows =>
      obtain ⟨turns, positive, inside, sum, grid, history⟩ :=
        downScrolls_ne_nil announced
      exact ⟨turns, positive, inside, .inr ⟨sum, grid, history⟩⟩
  | reverseIndex =>
      by_cases first : terminal.cursorRow = terminal.scrollTop
      · have scrolls : terminal.announces unicode .reverseIndex =
            terminal.downScrolls 1 := if_pos first
        have scrolled : terminal.apply unicode .reverseIndex =
            terminal.scrollRegionDown 1 := if_pos first
        rw [scrolls] at announced
        obtain ⟨turns, positive, inside, sum, grid, history⟩ :=
          downScrolls_ne_nil announced
        exact ⟨turns, positive, inside, .inr ⟨scrolls.trans sum,
          scrolled ▸ grid, scrolled ▸ history⟩⟩
      · exact absurd (if_neg first) announced
  | _ => exact absurd rfl announced

/-! ## Scrolls of the whole screen -/

theorem wellSized_regionOf
    (sized : WellSized terminal)
    (region : terminal.regionTop call < terminal.scrollBottom) :
    WellSized (terminal.regionOf call) :=
  { sized with scrollTop := region }

/-- A loop on the whole screen moves every row by the announced count. -/
theorem Runs.follows
    (sized : WellSized terminal)
    (within : terminal.history.length ≤ terminal.historyLimit)
    (primary : terminal.alternateScreen = false)
    (whole : terminal.Whole call)
    {turns : Nat}
    (inside : turns ≤ terminal.scrollBottom - terminal.regionTop call)
    (positive : 0 < turns)
    (runs : Runs unicode terminal call scrollUpOnce turns turns ∨
      Runs unicode terminal call scrollDownOnce turns (-turns)) :
    Follows terminal (terminal.apply unicode call)
      (terminal.announces unicode call).sum := by
  have regionSized : WellSized (terminal.regionOf call) :=
    wellSized_regionOf sized (by omega)
  intro row visible inReach onScreen
  rcases runs with up | down
  · rw [up.announced, List.sum_singleton] at inReach onScreen ⊢
    rw [viewportLine_congr up.grid up.history]
    exact viewportLine_iterate_scrollUpOnce regionSized within
      ⟨whole.1, whole.2, primary⟩ turns (by exact_mod_cast visible) inReach
  · rw [down.announced, List.sum_singleton] at inReach onScreen ⊢
    have position : (row : Int) - -(turns : Int) = (row + turns : Nat) := by
      omega
    rw [position] at onScreen ⊢
    have rows := grid_iterate_scrollDownOnce regionSized inside (row + turns)
    have top : (terminal.regionOf call).scrollTop = 0 := whole.1
    have bottom : (terminal.regionOf call).scrollBottom = terminal.rows :=
      whole.2
    rw [top, bottom, if_neg (by omega), if_neg (by omega),
      if_pos (by omega), Nat.add_sub_cancel] at rows
    rw [viewportLine_congr down.grid down.history, viewportLine_ofNat, rows,
      viewportLine_ofNat]
    rfl

/-! ## Glyphs that scroll the whole screen -/

theorem viewportLine_modifyRow
    (terminal : Terminal)
    (row : Nat)
    (change : Row → Row)
    (other : line ≠ row) :
    (terminal.modifyRow row change).viewportLine line =
      terminal.viewportLine line := by
  unfold viewportLine
  split
  · rfl
  · exact List.getElem?_modify_ne _ _ (by omega)

/-- A glyph writes to the row of the cursor. -/
theorem viewportLine_putGlyph
    (terminal : Terminal)
    (ch : Char)
    (width : Nat)
    (other : line ≠ terminal.cursorRow) :
    (terminal.putGlyph ch width).viewportLine line =
      terminal.viewportLine line := by
  have untabbed : (terminal.untabGlyph width).viewportLine line =
      terminal.viewportLine line := by
    unfold untabGlyph invalidateTabAt
    dsimp only
    split
    · rw [viewportLine_modifyRow _ _ _ other,
        viewportLine_modifyRow _ _ _ other]
    · exact viewportLine_modifyRow _ _ _ other
  have written := (viewportLine_modifyRow (terminal.untabGlyph width)
    terminal.cursorRow (fun cells =>
      cells.set terminal.cursorCol (terminal.glyph ch)) other).trans untabbed
  unfold putGlyph
  dsimp only
  split
  · exact (viewportLine_modifyRow _ _ _ other).trans written
  · exact written

/-- `input` wraps from the last row of the screen: every line moves up by one
and the cursor stays in its row. -/
theorem nextRow_atFoot
    (sized : WellSized terminal)
    (within : terminal.history.length ≤ terminal.historyLimit)
    (whole : Retains terminal)
    (foot : terminal.cursorRow + 1 = terminal.rows) :
    terminal.nextRow.cursorRow = terminal.cursorRow ∧
      ∀ line : Int, line < terminal.rows →
        -(terminal.historyLimit : Int) ≤ line - 1 →
          terminal.nextRow.viewportLine (line - 1) =
            terminal.viewportLine line := by
  have last : terminal.scrollBottom ≤ terminal.cursorRow + 1 := by
    rw [whole.2.1]
    omega
  have feeds : terminal.nextRow =
      (terminal.markWrapped terminal.cursorRow).carriageReturn.scrollRegionUp
        1 :=
    lineFeed_of_last last
  have marked := (sized.markWrapped terminal.cursorRow).carriageReturn
  have announced := upScrolls_one marked.scrollTop
  obtain ⟨turns, positive, inside, sum, grid, history⟩ :=
    upScrolls_ne_nil (announced ▸ List.cons_ne_nil _ _)
  have one : turns = 1 := by
    rw [announced] at sum
    have same := (List.cons.inj sum).1
    omega
  rw [feeds]
  constructor
  · rw [(scrolled_scrollRegionUp _ 1).frame]
    rfl
  · intro line onScreen inReach
    rw [one, Function.iterate_one] at grid history
    rw [viewportLine_congr grid history]
    exact viewportLine_scrollUpOnce marked within whole onScreen inReach

/-- Below the wraps `input` writes to the row of the cursor. -/
theorem viewportLine_input
    (printed : unicode.columns ch ≠ 0)
    (other : line ≠
      (terminal.wrapPending.wrapWide (unicode.columns ch)).cursorRow) :
    (terminal.input unicode ch).viewportLine line =
      (terminal.wrapPending.wrapWide (unicode.columns ch)).viewportLine
        line := by
  unfold input
  dsimp only
  rw [if_neg printed, damage_eq]
  exact viewportLine_putGlyph _ _ _ other

/-- The blank cell that stands in for a wide glyph without room. -/
def spaced (terminal : Terminal) : Terminal :=
  (terminal.invalidateTabAt terminal.cursorRow terminal.cursorCol).modifyRow
    terminal.cursorRow fun cells =>
      cells.set terminal.cursorCol
        { terminal.blank with leadingWideSpacer := true }

theorem wrapWide_eq
    (terminal : Terminal)
    (width : Nat) :
    terminal.wrapWide width =
      if width = 2 ∧ terminal.cols ≤ terminal.cursorCol + 1 then
        terminal.spaced.nextRow
      else
        terminal :=
  rfl

theorem viewportLine_spaced
    (terminal : Terminal)
    (other : line ≠ terminal.cursorRow) :
    terminal.spaced.viewportLine line = terminal.viewportLine line := by
  unfold spaced invalidateTabAt
  rw [viewportLine_modifyRow _ _ _ other, viewportLine_modifyRow _ _ _ other]

theorem wellSized_spaced
    (sized : WellSized terminal) : WellSized terminal.spaced :=
  (sized.invalidateTabAt _ _).setCell _ _ _

/-- A glyph that scrolls from behind the last row of the screen. -/
theorem follows_input
    (sized : WellSized terminal)
    (within : terminal.history.length ≤ terminal.historyLimit)
    (whole : Retains terminal)
    (printed : unicode.columns ch ≠ 0)
    (behind : terminal.cols ≤ terminal.cursorCol)
    (last : terminal.scrollBottom ≤ terminal.cursorRow + 1) :
    Follows terminal (terminal.input unicode ch)
      (terminal.inputScrolls unicode ch).sum := by
  have foot : terminal.cursorRow + 1 = terminal.rows := by
    have cursor := sized.cursorRow
    rw [whole.2.1] at last
    omega
  have frame := wrapPending_frame terminal
  have pending : terminal.wrapPending = terminal.nextRow := by
    rw [wrapPending, if_pos behind]
  have row : terminal.wrappedRow = terminal.cursorRow := by
    rw [wrappedRow, if_pos behind, if_pos last]
  have moved := (nextRow_atFoot sized within whole foot).2
  rw [← pending] at moved
  have wrappedAt : terminal.wrapPending.cursorRow = terminal.cursorRow := by
    rw [frame]
    exact row
  have cols : terminal.wrapPending.cols = terminal.cols := by rw [frame]
  have col : terminal.wrapPending.cursorCol = terminal.wrappedCol := by
    rw [frame]
  intro line visible inReach onScreen
  rw [inputScrolls_eq unicode sized.scrollTop, if_neg printed,
    if_pos ⟨behind, last⟩, row] at inReach onScreen ⊢
  by_cases wide : unicode.columns ch = 2 ∧
      terminal.cols ≤ terminal.wrappedCol + 1
  · -- The wide glyph scrolls once more, with the blank cell in the new row.
    have twice : terminal.wrapPending.wrapWide (unicode.columns ch) =
        terminal.wrapPending.spaced.nextRow := by
      rw [wrapWide_eq, cols, col, if_pos wide]
    have wrappedRows : terminal.wrapPending.rows = terminal.rows := by
      rw [frame]
    have limit : terminal.wrapPending.historyLimit = terminal.historyLimit := by
      rw [frame]
    have wrappedWithin : terminal.wrapPending.history.length ≤
        terminal.wrapPending.historyLimit := by
      rw [pending]
      exact ((GrowsHistory.nextRow terminal).grows within).2
    have wrappedWhole : Retains terminal.wrapPending := by
      rw [frame]
      exact whole
    obtain ⟨stays, again⟩ := nextRow_atFoot
      (wellSized_spaced sized.wrapPending) wrappedWithin wrappedWhole (by
        change terminal.wrapPending.cursorRow + 1 = terminal.wrapPending.rows
        omega)
    have sum : (([1] : List Int) ++ [1]).sum = 2 := rfl
    have position : (line : Int) - 2 = line - 1 - 1 := by omega
    rw [if_pos ⟨wide.1, wide.2, last⟩, sum, position] at inReach onScreen ⊢
    have staysAt : terminal.wrapPending.spaced.nextRow.cursorRow =
        terminal.cursorRow := stays.trans wrappedAt
    rw [viewportLine_input printed (by rw [twice, staysAt]; omega), twice]
    rw [again _ (by
        change (line : Int) - 1 < terminal.wrapPending.rows
        omega) (by
        change -(terminal.wrapPending.historyLimit : Int) ≤ _
        omega)]
    rw [viewportLine_spaced _ (by omega)]
    exact moved _ (by omega) (by omega)
  · have once : terminal.wrapPending.wrapWide (unicode.columns ch) =
        terminal.wrapPending := by
      rw [wrapWide_eq, cols, col, if_neg wide]
    have none : ¬ (unicode.columns ch = 2 ∧
        terminal.cols ≤ terminal.wrappedCol + 1 ∧
        terminal.scrollBottom ≤ terminal.cursorRow + 1) :=
      fun both => wide ⟨both.1, both.2.1⟩
    have sum : (([1] : List Int) ++ []).sum = 1 := rfl
    rw [if_neg none, sum] at inReach onScreen ⊢
    rw [viewportLine_input printed (by rw [once, wrappedAt]; omega), once]
    exact moved _ (by omega) inReach

/-- The text follows every call that scrolls the whole screen, unless a wide
glyph writes to it first. -/
theorem follows_of_whole
    (sized : WellSized terminal)
    (within : terminal.history.length ≤ terminal.historyLimit)
    (primary : terminal.alternateScreen = false)
    (announced : terminal.announces unicode call ≠ [])
    (whole : terminal.Whole call)
    (first : terminal.WrapsFirst call) :
    Follows terminal (terminal.apply unicode call)
      (terminal.announces unicode call).sum := by
  by_cases glyph : ∃ ch, call = .input ch
  · obtain ⟨ch, rfl⟩ := glyph
    obtain ⟨behind, last⟩ := first ch rfl
    apply follows_input sized within ⟨whole.1, whole.2, primary⟩ _ behind last
    intro combining
    exact announced (if_pos combining)
  · obtain ⟨turns, positive, inside, runs⟩ := runs_of_announces
      (fun ch same => glyph ⟨ch, same⟩) announced
    exact Runs.follows sized within primary whole inside positive runs

/-! ## A marked row -/

/-- What a call announces does not depend on what the rows show. -/
theorem announces_showing
    {unicode : UnicodeWidth}
    {terminal : Terminal}
    (region : terminal.scrollTop < terminal.scrollBottom)
    (grid history : List Row)
    (historyWrapped : List Bool)
    (call : Call) :
    (terminal.showing grid history historyWrapped).announces unicode call =
      terminal.announces unicode call := by
  cases call with
  | input ch =>
      have shown := @inputScrolls_eq unicode
        (terminal.showing grid history historyWrapped) region ch
      exact shown.trans (inputScrolls_eq unicode region ch).symm
  | _ => rfl

/-- The rows of a screen on which one row carries combining marks. -/
def markedRows (rows cols marked : Nat) : List Row :=
  (List.range rows).map fun row =>
    List.replicate cols (if row = marked then { combining := "x" } else {})

theorem getElem?_markedRows
    {rows row : Nat}
    (visible : row < rows)
    (cols marked : Nat) :
    (markedRows rows cols marked)[row]? =
      some (List.replicate cols
        (if row = marked then { combining := "x" } else {})) := by
  rw [markedRows, List.getElem?_map, List.getElem?_range visible]
  rfl

theorem bare_markedRows
    {row marked : Nat}
    (other : row ≠ marked)
    (rows cols : Nat) : Bare (markedRows rows cols marked)[row]? := by
  rcases Nat.lt_or_ge row rows with visible | beyond
  · rw [getElem?_markedRows visible, if_neg other]
    intro shown isShown cell member
    obtain rfl := Option.some.inj isShown
    rw [List.eq_of_mem_replicate member]
  · have none : (markedRows rows cols marked)[row]? = none := by
      rw [List.getElem?_eq_none_iff, markedRows, List.length_map,
        List.length_range]
      exact beyond
    rw [none]
    exact bare_none

/-- The terminal with one marked row and no history. -/
def marking (terminal : Terminal) (marked : Nat) : Terminal :=
  terminal.showing (markedRows terminal.rows terminal.cols marked) [] []

theorem wellSized_marking
    (sized : WellSized terminal)
    (marked : Nat) : WellSized (terminal.marking marked) :=
  { sized with
    grid := by
      change (markedRows terminal.rows terminal.cols marked).length = _
      rw [markedRows, List.length_map, List.length_range]
      rfl
    gridCols := by
      intro row member
      obtain ⟨_, _, rfl⟩ := List.mem_map.mp member
      exact List.length_replicate
    historyWrapped := rfl }

/-- A text that follows the scroll brings its marks along. -/
theorem not_bare_of_follows
    (sized : WellSized terminal)
    (follows : FollowsText unicode terminal call)
    (marked : Nat)
    (visible : marked < terminal.rows)
    (inReach : -(terminal.historyLimit : Int) ≤
      marked - (terminal.announces unicode call).sum)
    (onScreen : marked - (terminal.announces unicode call).sum <
      terminal.rows) :
    ¬ Bare (((terminal.marking marked).apply unicode call).viewportLine
      (marked - (terminal.announces unicode call).sum)) := by
  intro bare
  have moved := follows _ _ _ (wellSized_marking sized marked)
    (Nat.zero_le _) marked visible
  rw [emitted_eq] at moved
  have kept := moved inReach onScreen
  have shown : (terminal.marking marked).viewportLine marked =
      some (List.replicate terminal.cols
        (if marked = marked then { combining := "x" } else {})) :=
    (viewportLine_ofNat _ _).trans (getElem?_markedRows visible _ _)
  have empty := bare _ (kept.trans shown) { combining := "x" } (by
    rw [if_pos rfl]
    exact List.mem_replicate.mpr ⟨Nat.ne_of_gt sized.cols, rfl⟩)
  exact absurd empty (by decide)

/-! ## Scrolls of a part of the screen -/

section

variable (sized : WellSized terminal) (part : ¬ terminal.Whole call)
include sized part

theorem keepsBare_apply
    (announced : terminal.announces unicode call ≠ []) :
    KeepsBare (terminal.regionTop call) terminal.scrollBottom terminal
      (terminal.apply unicode call) := by
  by_cases glyph : ∃ ch, call = .input ch
  · obtain ⟨ch, rfl⟩ := glyph
    apply KeepsBare.input unicode sized
    · rintro ⟨top, bottom, _⟩
      exact part ⟨top, bottom⟩
    · intro combining
      exact announced (if_pos combining)
  · obtain ⟨turns, positive, inside, runs⟩ := runs_of_announces
      (fun ch same => glyph ⟨ch, same⟩) announced
    have regionSized : WellSized (terminal.regionOf call) :=
      wellSized_regionOf sized (by omega)
    have regionPart : ¬ Retains (terminal.regionOf call) := by
      rintro ⟨top, bottom, _⟩
      exact part ⟨top, bottom⟩
    have start := @KeepsBare.of_same (terminal.regionTop call)
      terminal.scrollBottom terminal (terminal.regionOf call) rfl rfl
    rcases runs with up | down
    · have turned := KeepsBare.iterate scrollUpOnce scrolled_scrollUpOnce
        (fun _ held => held.scrollUpOnce)
        (fun _ => KeepsBare.scrollUpOnce) regionSized regionPart turns
      exact (start.trans turned).trans (.of_same up.grid up.history)
    · have turned := KeepsBare.iterate scrollDownOnce scrolled_scrollDownOnce
        (fun _ held => held.scrollDownOnce)
        (fun _ held _ => KeepsBare.scrollDownOnce held) regionSized regionPart
        turns
      exact (start.trans turned).trans (.of_same down.grid down.history)

/-- How far a call scrolls a part of the screen. -/
theorem sum_announces_of_part
    (announced : terminal.announces unicode call ≠ [])
    (inReach : ¬ terminal.NoLineInReach unicode call) :
    terminal.regionTop call < terminal.scrollBottom ∧
      ((∃ count : Nat, (terminal.announces unicode call).sum = count ∧
          0 < count ∧ count ≤ terminal.rows ∧
          count < terminal.rows + terminal.historyLimit) ∨
        ∃ count : Nat, (terminal.announces unicode call).sum = -count ∧
          0 < count ∧
          count ≤ terminal.scrollBottom - terminal.regionTop call) := by
  have bottom := sized.scrollBottom
  by_cases glyph : ∃ ch, call = .input ch
  · obtain ⟨ch, rfl⟩ := glyph
    have region : terminal.regionTop (.input ch) < terminal.scrollBottom :=
      sized.scrollTop
    have rows : 2 ≤ terminal.rows := by
      by_contra few
      exact part ⟨by omega, by omega⟩
    refine ⟨region, .inl ?_⟩
    have scrolls : terminal.announces unicode (.input ch) = _ :=
      inputScrolls_eq unicode sized.scrollTop ch
    rw [scrolls] at announced ⊢
    by_cases combining : unicode.columns ch = 0
    · exact absurd (if_pos combining) announced
    · rw [if_neg combining] at announced ⊢
      by_cases pending : terminal.cols ≤ terminal.cursorCol ∧
          terminal.scrollBottom ≤ terminal.cursorRow + 1
      · by_cases wide : unicode.columns ch = 2 ∧
            terminal.cols ≤ terminal.wrappedCol + 1 ∧
            terminal.scrollBottom ≤ terminal.wrappedRow + 1
        · rw [if_pos pending, if_pos wide]
          refine ⟨2, rfl, by omega, rows, ?_⟩
          by_contra far
          have col : terminal.wrappedCol = 0 := if_pos pending.1
          have narrow : terminal.cols = 1 := by
            have cols := sized.cols
            omega
          exact inReach ⟨by omega, .inr ⟨by omega, ch, rfl, wide.1, narrow,
            pending⟩⟩
        · rw [if_pos pending, if_neg wide]
          exact ⟨1, rfl, by omega, by omega, by omega⟩
      · by_cases wide : unicode.columns ch = 2 ∧
            terminal.cols ≤ terminal.wrappedCol + 1 ∧
            terminal.scrollBottom ≤ terminal.wrappedRow + 1
        · rw [if_neg pending, if_pos wide]
          exact ⟨1, rfl, by omega, by omega, by omega⟩
        · rw [if_neg pending, if_neg wide] at announced
          exact absurd rfl announced
  · obtain ⟨turns, positive, inside, runs⟩ := runs_of_announces
      (fun ch same => glyph ⟨ch, same⟩) announced
    have fewer : turns < terminal.rows := by
      by_contra all
      exact part ⟨by omega, by omega⟩
    refine ⟨by omega, ?_⟩
    rcases runs with up | down
    · rw [up.announced, List.sum_singleton]
      exact .inl ⟨turns, rfl, positive, by omega, by omega⟩
    · rw [down.announced, List.sum_singleton]
      exact .inr ⟨turns, rfl, positive, inside⟩

/-- A scroll of a part of the screen leaves some text behind. -/
theorem not_followsText_of_part
    (announced : terminal.announces unicode call ≠ [])
    (inReach : ¬ terminal.NoLineInReach unicode call) :
    ¬ FollowsText unicode terminal call := by
  intro follows
  obtain ⟨region, counts⟩ := sum_announces_of_part sized part announced inReach
  have bottom := sized.scrollBottom
  have beyond : 0 < terminal.regionTop call ∨
      terminal.scrollBottom < terminal.rows := by
    by_contra neither
    exact part ⟨by omega, by omega⟩
  have keeps : ∀ marked, KeepsBare (terminal.regionTop call)
      terminal.scrollBottom (terminal.marking marked)
      ((terminal.marking marked).apply unicode call) := by
    intro marked
    apply keepsBare_apply (wellSized_marking sized marked) part
    rw [marking, announces_showing sized.scrollTop]
    exact announced
  -- The history stays empty.
  have above : ∀ marked (line : Int), line < 0 →
      Bare (((terminal.marking marked).apply unicode call).viewportLine
        line) := by
    intro marked line negative
    have empty : ((terminal.marking marked).apply unicode call).history = [] :=
      (keeps marked).history
    rw [viewportLine, if_pos negative, empty]
    dsimp only
    rw [if_neg (by simp only [List.length_nil]; omega)]
    exact bare_none
  have outside : ∀ marked row : Nat, row ≠ marked →
      row < terminal.regionTop call ∨ terminal.scrollBottom ≤ row →
      Bare (((terminal.marking marked).apply unicode call).viewportLine
        row) := by
    intro marked row other out
    rw [viewportLine_ofNat]
    exact (keeps marked).outside row out (bare_markedRows other _ _)
  -- A mark outside of the region does not come in.
  have elsewhere : ∀ marked row : Nat, row ≠ marked →
      marked < terminal.regionTop call ∨ terminal.scrollBottom ≤ marked →
      Bare (((terminal.marking marked).apply unicode call).viewportLine
        row) := by
    intro marked row other out
    by_cases within : terminal.regionTop call ≤ row ∧
        row < terminal.scrollBottom
    · rw [viewportLine_ofNat]
      exact (keeps marked).inside (fun index _ below =>
        bare_markedRows (by omega) _ _) row within.1 within.2
    · exact outside marked row other (by omega)
  rcases counts with ⟨count, sum, positive, most, near⟩ |
    ⟨count, sum, positive, most⟩
  · by_cases below : terminal.scrollBottom < terminal.rows
    · -- The last row of the screen stays.
      apply not_bare_of_follows sized follows (terminal.rows - 1)
        (by omega) (by omega) (by omega)
      rcases Nat.lt_or_ge (terminal.rows - 1) count with far | close
      · exact above _ _ (by omega)
      · obtain ⟨row, isRow⟩ : ∃ row : Nat,
            ((terminal.rows - 1 : Nat) : Int) -
              (terminal.announces unicode call).sum = row :=
          ⟨terminal.rows - 1 - count, by omega⟩
        rw [isRow]
        exact elsewhere _ _ (by omega) (by omega)
    · by_cases history : 0 < terminal.historyLimit
      · -- No row enters the history.
        apply not_bare_of_follows sized follows (count - 1)
          (by omega) (by omega) (by omega)
        exact above _ _ (by omega)
      · -- The first row of the screen stays.
        apply not_bare_of_follows sized follows count
          (by omega) (by omega) (by omega)
        have first : (count : Int) - (terminal.announces unicode call).sum =
            (0 : Nat) := by
          omega
        rw [first]
        exact outside _ _ (by omega) (by omega)
  · by_cases top : 0 < terminal.regionTop call
    · -- The first row of the screen stays.
      apply not_bare_of_follows sized follows 0
        (by omega) (by omega) (by omega)
      have moved : ((0 : Nat) : Int) - (terminal.announces unicode call).sum =
          count := by
        omega
      rw [moved]
      exact elsewhere _ _ (by omega) (by omega)
    · -- The last row of the screen stays.
      apply not_bare_of_follows sized follows
        (terminal.rows - 1 - count) (by omega) (by omega) (by omega)
      have moved : ((terminal.rows - 1 - count : Nat) : Int) -
          (terminal.announces unicode call).sum = (terminal.rows - 1 : Nat) := by
        omega
      rw [moved]
      exact outside _ _ (by omega) (by omega)

end

/-! ## Wide glyphs without room -/

/-- Without a scroll the first wrap of `input` leaves the rows as they are. -/
theorem wrapPending_rows
    (still : ¬ (terminal.cols ≤ terminal.cursorCol ∧
      terminal.scrollBottom ≤ terminal.cursorRow + 1)) :
    terminal.wrapPending.grid = terminal.grid ∧
      terminal.wrapPending.history = terminal.history := by
  by_cases behind : terminal.cols ≤ terminal.cursorCol
  · have above : terminal.cursorRow + 1 < terminal.scrollBottom := by
      by_contra last
      exact still ⟨behind, by omega⟩
    have moves : terminal.wrapPending =
        { terminal.markWrapped terminal.cursorRow with
          cursorCol := 0
          cursorRow := min (terminal.cursorRow + 1) (terminal.rows - 1) } := by
      rw [wrapPending, if_pos behind, nextRow]
      exact lineFeed_of_above above
    rw [moves]
    exact ⟨rfl, rfl⟩
  · rw [wrapPending, if_neg behind]
    exact ⟨rfl, rfl⟩

/-- A wide glyph without room writes to the last row of the screen before it
scrolls it. -/
theorem spaced_row
    (sized : WellSized terminal)
    (within : terminal.history.length ≤ terminal.historyLimit)
    (whole : Retains terminal)
    (announced : terminal.inputScrolls unicode ch ≠ [])
    (still : ¬ (terminal.cols ≤ terminal.cursorCol ∧
      terminal.scrollBottom ≤ terminal.cursorRow + 1))
    (inReach : 2 ≤ terminal.rows + terminal.historyLimit) :
    (terminal.inputScrolls unicode ch).sum = 1 ∧
      ∃ row : Row,
        (terminal.input unicode ch).viewportLine
            ((terminal.rows : Int) - 1 - 1) = some row ∧
          ∃ cell ∈ row, cell.combining = "" := by
  have scrolls := inputScrolls_eq unicode sized.scrollTop ch
  rw [scrolls] at announced
  have printed : unicode.columns ch ≠ 0 := fun combining =>
    announced (if_pos combining)
  rw [if_neg printed, if_neg still] at announced scrolls
  by_cases wide : unicode.columns ch = 2 ∧
      terminal.cols ≤ terminal.wrappedCol + 1 ∧
      terminal.scrollBottom ≤ terminal.wrappedRow + 1
  · have frame := wrapPending_frame terminal
    have cols : terminal.wrapPending.cols = terminal.cols := by rw [frame]
    have rows : terminal.wrapPending.rows = terminal.rows := by rw [frame]
    have col : terminal.wrapPending.cursorCol = terminal.wrappedCol := by
      rw [frame]
    have row : terminal.wrapPending.cursorRow = terminal.wrappedRow := by
      rw [frame]
    have limit : terminal.wrapPending.historyLimit = terminal.historyLimit := by
      rw [frame]
    have sizes := sized.wrapPending
    have cursor := sizes.cursorRow
    have sameHistory := (wrapPending_rows still).2
    have wrappedWithin : terminal.wrapPending.history.length ≤
        terminal.wrapPending.historyLimit := by
      rw [sameHistory, limit]
      exact within
    have wrappedWhole : Retains terminal.wrapPending := by
      rw [frame]
      exact whole
    have screen := whole.2.1
    have foot : terminal.wrapPending.cursorRow + 1 =
        terminal.wrapPending.rows := by
      omega
    have inside : terminal.wrapPending.cursorCol <
        terminal.wrapPending.cols := by
      rw [col, cols, wrappedCol]
      have positive := sized.cols
      split
      · exact positive
      · omega
    have scrolled : terminal.wrapPending.wrapWide (unicode.columns ch) =
        terminal.wrapPending.spaced.nextRow := by
      rw [wrapWide_eq, if_pos ⟨wide.1, by omega⟩]
    obtain ⟨stays, moved⟩ := nextRow_atFoot (wellSized_spaced sizes)
      wrappedWithin wrappedWhole foot
    have staysAt : terminal.wrapPending.spaced.nextRow.cursorRow =
        terminal.wrapPending.cursorRow := stays
    have position : (terminal.rows : Int) - 1 =
        terminal.wrapPending.cursorRow := by
      omega
    rw [scrolls, if_pos wide]
    refine ⟨rfl, ?_⟩
    have lastRow := moved terminal.wrapPending.cursorRow (by
        change (terminal.wrapPending.cursorRow : Int) <
          terminal.wrapPending.rows
        omega) (by
        change -(terminal.wrapPending.historyLimit : Int) ≤ _
        omega)
    rw [viewportLine_input printed (by rw [scrolled, staysAt]; omega), scrolled,
      position, lastRow, viewportLine_ofNat]
    have visible : terminal.wrapPending.cursorRow <
        terminal.wrapPending.grid.length := by
      rw [sizes.grid]
      exact cursor
    have length := sizes.gridCols _ (List.getElem_mem visible)
    refine ⟨((terminal.wrapPending.grid[terminal.wrapPending.cursorRow]
        ).invalidateTabAt terminal.wrapPending.cursorCol).set
          terminal.wrapPending.cursorCol { terminal.wrapPending.blank with
            leadingWideSpacer := true }, ?_,
      { terminal.wrapPending.blank with leadingWideSpacer := true }, ?_, rfl⟩
    · unfold spaced invalidateTabAt modifyRow
      dsimp only
      rw [List.getElem?_modify_eq, List.getElem?_modify_eq,
        List.getElem?_eq_getElem visible]
      rfl
    · apply List.mem_set
      rw [Row.length_invalidateTabAt, length]
      exact inside
  · rw [if_neg wide] at announced
    exact absurd rfl announced

/-- The blank cell of a wide glyph is not the text that it overwrites. -/
theorem not_followsText_of_spaced
    (sized : WellSized terminal)
    (primary : terminal.alternateScreen = false)
    (whole : terminal.Whole call)
    (announced : terminal.announces unicode call ≠ [])
    (inReach : ¬ terminal.NoLineInReach unicode call)
    (spaces : ¬ terminal.WrapsFirst call) :
    ¬ FollowsText unicode terminal call := by
  intro follows
  obtain ⟨ch, isInput⟩ := not_forall.mp spaces
  obtain ⟨rfl, still⟩ := Classical.not_imp.mp isInput
  have reach : 2 ≤ terminal.rows + terminal.historyLimit := by
    have rows := sized.rows
    by_contra few
    exact inReach ⟨by omega, .inl (by omega)⟩
  have same : (terminal.marking (terminal.rows - 1)).inputScrolls unicode ch =
      terminal.announces unicode (.input ch) :=
    announces_showing sized.scrollTop _ _ _ (.input ch)
  have marked := wellSized_marking sized (terminal.rows - 1)
  have scrolls : (terminal.marking (terminal.rows - 1)).inputScrolls unicode
      ch ≠ [] := by
    rw [same]
    exact announced
  obtain ⟨one, row, isRow, cell, member, bare⟩ := spaced_row marked
    (Nat.zero_le _) ⟨whole.1, whole.2, primary⟩ scrolls
    still reach
  rw [same] at one
  have rows := sized.rows
  have moved := follows _ _ _ marked (Nat.zero_le _) (terminal.rows - 1)
    (Nat.sub_lt rows Nat.one_pos)
  rw [emitted_eq, one] at moved
  have position : ((terminal.rows - 1 : Nat) : Int) - 1 =
      ((terminal.marking (terminal.rows - 1)).rows : Int) - 1 - 1 := by
    change _ = (terminal.rows : Int) - 1 - 1
    omega
  have shown : (terminal.marking (terminal.rows - 1)).viewportLine
      (terminal.rows - 1 : Nat) = _ :=
    (viewportLine_ofNat _ _).trans
      (getElem?_markedRows (Nat.sub_lt rows Nat.one_pos) _ _)
  have kept := moved (by
      change -(terminal.historyLimit : Int) ≤ _
      omega) (by
      change _ < (terminal.rows : Int)
      omega)
  rw [position] at kept
  have isMarked := Option.some.inj (isRow.symm.trans (kept.trans shown))
  rw [isMarked, if_pos rfl] at member
  rw [List.eq_of_mem_replicate member] at bare
  exact absurd bare (by decide)

/-! ## Screens without a line in reach -/

/-- Whatever scrolls moves the lines. -/
theorem sum_announces_ne_zero
    (sized : WellSized terminal)
    (announced : terminal.announces unicode call ≠ []) :
    (terminal.announces unicode call).sum ≠ 0 := by
  by_cases glyph : ∃ ch, call = .input ch
  · obtain ⟨ch, rfl⟩ := glyph
    have scrolls : terminal.announces unicode (.input ch) = _ :=
      inputScrolls_eq unicode sized.scrollTop ch
    rw [scrolls] at announced ⊢
    have printed : unicode.columns ch ≠ 0 := fun combining =>
      announced (if_pos combining)
    rw [if_neg printed] at announced ⊢
    by_cases pending : terminal.cols ≤ terminal.cursorCol ∧
        terminal.scrollBottom ≤ terminal.cursorRow + 1
    · rw [if_pos pending]
      split
      · decide
      · decide
    · rw [if_neg pending] at announced ⊢
      split at announced
      · next wide =>
          rw [if_pos wide]
          decide
      · exact absurd rfl announced
  · obtain ⟨turns, positive, _, runs⟩ := runs_of_announces
      (fun ch same => glyph ⟨ch, same⟩) announced
    rcases runs with up | down
    · rw [up.announced, List.sum_singleton]
      omega
    · rw [down.announced, List.sum_singleton]
      omega

theorem sum_announces_of_wrapsTwice
    (sized : WellSized terminal)
    (twice : terminal.WrapsTwice unicode call) :
    (terminal.announces unicode call).sum = 2 := by
  obtain ⟨ch, rfl, wide, narrow, behind, last⟩ := twice
  have row : terminal.wrappedRow = terminal.cursorRow := by
    rw [wrappedRow, if_pos behind, if_pos last]
  have again : unicode.columns ch = 2 ∧
      terminal.cols ≤ terminal.wrappedCol + 1 ∧
      terminal.scrollBottom ≤ terminal.wrappedRow + 1 :=
    ⟨wide, by omega, by omega⟩
  have scrolls : terminal.announces unicode (.input ch) = _ :=
    inputScrolls_eq unicode sized.scrollTop ch
  rw [scrolls, if_neg (by omega), if_pos ⟨behind, last⟩, if_pos again]
  rfl

/-! ## Anchors -/

/-- Where the text follows a scroll, `scroll_anchors` leaves the anchor of a
visible row at the line of its text. -/
theorem anchor_follows_text
    {before after : Terminal}
    {lines : Int}
    (follows : Follows before after lines)
    (visible : row < before.rows)
    (inReach : -(before.historyLimit : Int) ≤ row - lines)
    (onScreen : row - lines < before.rows)
    (inRange : -2147483648 ≤ (row : Int) - lines ∧
      (row : Int) - lines ≤ 2147483647)
    {state : Media.State}
    {owner : Media.ProducerId}
    {producer : Media.Producer}
    (found : state.producers.find? owner = some producer)
    {key column : Nat}
    (placed : producer.anchors.find? key = some ((row : Int), column)) :
    ∃ moved line,
      (state.moveAnchors producer.pane lines).producers.find? owner =
          some moved ∧
        moved.anchors.find? key = some (line, column) ∧
        after.viewportLine line = before.viewportLine row := by
  have unclamped : Media.saturatingSubI32 row lines = row - lines := by
    unfold Media.saturatingSubI32
    omega
  refine ⟨{ producer with
    anchors := producer.anchors.mapValues fun _ place =>
      (Media.saturatingSubI32 place.1 lines, place.2) },
    row - lines, ?_, ?_, follows row visible inReach onScreen⟩
  · rw [Media.State.moveAnchors, Library.OrderedMap.find?_mapValues, found,
      Option.map_some, if_pos rfl]
  · rw [Library.OrderedMap.find?_mapValues, placed, Option.map_some, unclamped]

/-- A text in the first row, above a region of the other two rows. -/
def textAboveRegion : Terminal :=
  (((Terminal.new 3 4 3).apply latinAndHan (.input 'a')).apply latinAndHan
    (.setScrollingRegion 2 (some 3))).apply latinAndHan (.goto 2 0)

theorem reachable_textAboveRegion :
    (machine latinAndHan).Reachable (fun _ _ => True) textAboveRegion :=
  reachable_apply (reachable_apply (reachable_apply
    (.initial ⟨3, 4, 3, rfl⟩) _ trivial) _ trivial) _ trivial

end Terminal
end Vvmux
