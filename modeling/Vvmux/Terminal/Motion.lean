import Vvmux.Terminal.Shape

/-!
# Vertical motion and the scroll region

`move_up`, `move_down` and `line_feed` clamp the cursor against one bound of
the scroll region.  Inside the region that is what a terminal does; a cursor
above the region is pulled down by `move_up`, one below it is pulled up by
`move_down`, and `line_feed` below the region scrolls it.
-/

namespace Vvmux
namespace Terminal

/-- The counts of the scrolls a terminal has announced. -/
def scrolls (terminal : Terminal) : List Int :=
  terminal.events.filterMap fun event =>
    match event with
    | .gridScroll count => some count
    | _ => none

@[simp] theorem scrolls_damage
    (terminal : Terminal) : terminal.damage.scrolls = terminal.scrolls := by
  unfold damage
  split
  · rfl
  · simp [scrolls, push]

variable (terminal : Terminal)

@[simp] theorem scrolls_push_gridScroll
    (count : Int) :
    (terminal.push (.gridScroll count)).scrolls =
      terminal.scrolls ++ [count] := by
  simp [scrolls, push]

/-- One turn of the loop of `scroll_region_up` announces nothing. -/
theorem events_iterate_scrollUpOnce
    (turns : Nat) :
    (scrollUpOnce^[turns] terminal).events = terminal.events := by
  induction turns with
  | zero => rfl
  | succ turns ih =>
      rw [Function.iterate_succ_apply']
      exact ih

theorem events_iterate_scrollDownOnce
    (turns : Nat) :
    (scrollDownOnce^[turns] terminal).events = terminal.events := by
  induction turns with
  | zero => rfl
  | succ turns ih =>
      rw [Function.iterate_succ_apply']
      exact ih

/-- What `scroll_region_up` announces. -/
theorem scrolls_scrollRegionUp
    (count : Nat) :
    (terminal.scrollRegionUp count).scrolls =
      if 0 < min count (terminal.scrollBottom - terminal.scrollTop) then
        terminal.scrolls ++
          [((min count (terminal.scrollBottom - terminal.scrollTop) : Nat) :
            Int)]
      else
        terminal.scrolls := by
  have silent : ∀ turns,
      (scrollUpOnce^[turns] terminal).scrolls = terminal.scrolls := by
    intro turns
    simp only [scrolls, events_iterate_scrollUpOnce]
  unfold scrollRegionUp
  dsimp only
  split
  · rw [scrolls_damage, scrolls_push_gridScroll, silent]
  · exact silent _

/-- What `scroll_region_down` announces. -/
theorem scrolls_scrollRegionDown
    (count : Nat) :
    (terminal.scrollRegionDown count).scrolls =
      if 0 < min count (terminal.scrollBottom - terminal.scrollTop) then
        terminal.scrolls ++
          [-((min count (terminal.scrollBottom - terminal.scrollTop) : Nat) :
            Int)]
      else
        terminal.scrolls := by
  have silent : ∀ turns,
      (scrollDownOnce^[turns] terminal).scrolls = terminal.scrolls := by
    intro turns
    simp only [scrolls, events_iterate_scrollDownOnce]
  unfold scrollRegionDown
  dsimp only
  split
  · rw [scrolls_damage, scrolls_push_gridScroll, silent]
  · exact silent _

/-! ## Cursor up and cursor down -/

/-- `move_up` moves down exactly from above the region. -/
theorem moveUp_le_iff
    (rows : Nat) :
    (terminal.moveUp rows).cursorRow ≤ terminal.cursorRow ↔
      terminal.scrollTop ≤ terminal.cursorRow := by
  simp only [moveUp]
  omega

/-- `move_down` moves up exactly from below the region. -/
theorem le_moveDown_iff
    {terminal : Terminal}
    (bottom : 0 < terminal.scrollBottom)
    (rows : Nat) :
    terminal.cursorRow ≤ (terminal.moveDown rows).cursorRow ↔
      terminal.cursorRow < terminal.scrollBottom := by
  simp only [moveDown]
  omega

/-! ## Line feed -/

/-- `line_feed` scrolls only from the last row of the region.  From any other
row it changes no row and moves down, unless it is the last row of the
screen. -/
structure FeedsInRegion (terminal : Terminal) : Prop where
  scrollsAtEnd : terminal.lineFeed.scrolls ≠ terminal.scrolls →
    terminal.cursorRow + 1 = terminal.scrollBottom
  keepsGrid : terminal.cursorRow + 1 ≠ terminal.scrollBottom →
    terminal.lineFeed.grid = terminal.grid
  movesDown : terminal.cursorRow + 1 ≠ terminal.scrollBottom →
    terminal.lineFeed.cursorRow =
      if terminal.cursorRow + 1 = terminal.rows then terminal.cursorRow
      else terminal.cursorRow + 1

theorem lineFeed_of_last
    {terminal : Terminal}
    (last : terminal.scrollBottom ≤ terminal.cursorRow + 1) :
    terminal.lineFeed = terminal.scrollRegionUp 1 := by
  rw [lineFeed, if_pos last]

theorem lineFeed_of_above
    {terminal : Terminal}
    (above : terminal.cursorRow + 1 < terminal.scrollBottom) :
    terminal.lineFeed =
      { terminal with
        cursorRow := min (terminal.cursorRow + 1) (terminal.rows - 1) } := by
  rw [lineFeed, if_neg (by omega)]

/-- A line feed behind the last row of the region announces a scroll. -/
theorem scrolls_lineFeed_of_last
    {terminal : Terminal}
    (sized : WellSized terminal)
    (last : terminal.scrollBottom ≤ terminal.cursorRow + 1) :
    terminal.lineFeed.scrolls = terminal.scrolls ++ [1] := by
  have region := sized.scrollTop
  have one : min 1 (terminal.scrollBottom - terminal.scrollTop) = 1 := by omega
  rw [lineFeed_of_last last, scrolls_scrollRegionUp, one]
  rfl

theorem feedsInRegion_iff
    {terminal : Terminal}
    (sized : WellSized terminal) :
    FeedsInRegion terminal ↔ terminal.cursorRow < terminal.scrollBottom := by
  constructor
  · intro feeds
    by_contra below
    have last : terminal.scrollBottom ≤ terminal.cursorRow + 1 := by omega
    have announced := scrolls_lineFeed_of_last sized last
    have atEnd := feeds.scrollsAtEnd (by simp [announced])
    omega
  · intro inside
    rcases Nat.lt_or_ge (terminal.cursorRow + 1) terminal.scrollBottom with
      above | last
    · have moved := lineFeed_of_above above
      have screen := sized.scrollBottom
      constructor
      · intro scrolled
        exact absurd (by rw [moved]; rfl) scrolled
      · intro _
        rw [moved]
      · intro _
        rw [moved, if_neg (by omega)]
        dsimp only
        omega
    · have atEnd : terminal.cursorRow + 1 = terminal.scrollBottom := by omega
      exact ⟨fun _ => atEnd, fun other => absurd atEnd other,
        fun other => absurd atEnd other⟩

/-- The terminals on which a call runs `line_feed`: the terminal itself for
`linefeed` and `newline`, and the two places where `input` wraps. -/
inductive FeedsLine
    (unicode : UnicodeWidth)
    (terminal : Terminal) : Call → Terminal → Prop where
  | linefeed : FeedsLine unicode terminal .linefeed terminal
  | newline : FeedsLine unicode terminal .newline terminal
  | pending
      (ch : Char)
      (printed : unicode.columns ch ≠ 0)
      (behind : terminal.cols ≤ terminal.cursorCol) :
      FeedsLine unicode terminal (.input ch)
        { terminal.markWrapped terminal.cursorRow with cursorCol := 0 }
  | wide
      (ch : Char)
      (isWide : unicode.columns ch = 2)
      (spaced : Terminal)
      (noRoom : terminal.wrapPending.cols ≤ terminal.wrapPending.cursorCol + 1)
      (same : spaced =
        (terminal.wrapPending.invalidateTabAt terminal.wrapPending.cursorRow
          terminal.wrapPending.cursorCol).modifyRow
            terminal.wrapPending.cursorRow fun cells =>
              cells.set terminal.wrapPending.cursorCol
                { terminal.wrapPending.blank with
                  leadingWideSpacer := true }) :
      FeedsLine unicode terminal (.input ch)
        { spaced.markWrapped spaced.cursorRow with cursorCol := 0 }

/-- A line feed keeps the cursor in the region, or outside of it below. -/
theorem lineFeed_cursorRow_lt_iff
    (terminal : Terminal) :
    terminal.lineFeed.cursorRow < terminal.lineFeed.scrollBottom ↔
      terminal.cursorRow < terminal.scrollBottom := by
  rcases Nat.lt_or_ge (terminal.cursorRow + 1) terminal.scrollBottom with
    above | last
  · rw [lineFeed_of_above above]
    dsimp only
    omega
  · rw [lineFeed_of_last last, (scrolled_scrollRegionUp terminal 1).frame]

theorem wrapPending_cursorRow_lt_iff
    (terminal : Terminal) :
    terminal.wrapPending.cursorRow < terminal.wrapPending.scrollBottom ↔
      terminal.cursorRow < terminal.scrollBottom := by
  unfold wrapPending
  split
  · exact lineFeed_cursorRow_lt_iff _
  · exact Iff.rfl

/-- Every line feed of a call runs on a well-sized terminal whose cursor is
below the region exactly if it was before the call. -/
theorem FeedsLine.sized
    {unicode : UnicodeWidth}
    {terminal fed : Terminal}
    {call : Call}
    (feeds : FeedsLine unicode terminal call fed)
    (sized : WellSized terminal) :
    WellSized fed ∧
      (fed.cursorRow < fed.scrollBottom ↔
        terminal.cursorRow < terminal.scrollBottom) := by
  cases feeds with
  | linefeed => exact ⟨sized, Iff.rfl⟩
  | newline => exact ⟨sized, Iff.rfl⟩
  | pending ch printed behind =>
      exact ⟨(sized.markWrapped _).carriageReturn, Iff.rfl⟩
  | wide ch isWide spaced noRoom same =>
      subst same
      have wrapped := sized.wrapPending
      refine ⟨WellSized.carriageReturn (WellSized.markWrapped ?_ _),
        wrapPending_cursorRow_lt_iff terminal⟩
      exact (wrapped.invalidateTabAt _ _).setCell _ _ _

/-- The vertical motions respect the region exactly while the cursor is not
beyond the bound that they do not look at. -/
theorem vertical_motion_iff
    {unicode : UnicodeWidth}
    {guard : Terminal → Call → Prop}
    {terminal : Terminal}
    (reachable : (machine unicode).Reachable guard terminal) :
    (∀ rows,
      (terminal.apply unicode (.moveUp rows)).cursorRow ≤ terminal.cursorRow ↔
        terminal.scrollTop ≤ terminal.cursorRow) ∧
      (∀ rows,
        terminal.cursorRow ≤
            (terminal.apply unicode (.moveDown rows)).cursorRow ↔
          terminal.cursorRow < terminal.scrollBottom) ∧
      ∀ call fed, FeedsLine unicode terminal call fed →
        (FeedsInRegion fed ↔ terminal.cursorRow < terminal.scrollBottom) := by
  have sized := wellSized_of_reachable reachable
  have bottom : 0 < terminal.scrollBottom := by
    have top := sized.scrollTop
    omega
  refine ⟨moveUp_le_iff terminal, le_moveDown_iff bottom, ?_⟩
  intro call fed feeds
  obtain ⟨fedSized, sameSide⟩ := feeds.sized sized
  exact (feedsInRegion_iff fedSized).trans sameSide

/-- A screen of five rows that scrolls its third and fourth. -/
def regionInMiddle : Terminal :=
  (Terminal.new 5 4 0).apply latinAndHan (.setScrollingRegion 3 (some 4))

theorem reachable_regionInMiddle :
    (machine latinAndHan).Reachable (fun _ _ => True) regionInMiddle :=
  reachable_apply (.initial ⟨5, 4, 0, rfl⟩) _ trivial

/-- On that screen and on its reached successors every motion obeys the
equivalences, from above the region and from below it. -/
theorem vertical_motion_regionInMiddle :
    ((regionInMiddle.apply latinAndHan (.moveUp 1)).cursorRow ≤
        regionInMiddle.cursorRow ↔
      regionInMiddle.scrollTop ≤ regionInMiddle.cursorRow) ∧
      (FeedsInRegion regionInMiddle ↔
        regionInMiddle.cursorRow < regionInMiddle.scrollBottom) :=
  ⟨(vertical_motion_iff reachable_regionInMiddle).1 1,
    (vertical_motion_iff reachable_regionInMiddle).2.2 .linefeed _ .linefeed⟩

/-- From above the region `move_up` goes down; from below it `move_down` goes
up and `linefeed` scrolls rows that the cursor is not on. -/
theorem motion_outside_region :
    ∃ above below : Terminal,
      (machine latinAndHan).Reachable (fun _ _ => True) above ∧
      (machine latinAndHan).Reachable (fun _ _ => True) below ∧
      above.cursorRow < (above.apply latinAndHan (.moveUp 1)).cursorRow ∧
      (below.apply latinAndHan (.moveDown 1)).cursorRow < below.cursorRow ∧
      below.cursorRow + 1 ≠ below.scrollBottom ∧
      (below.apply latinAndHan .linefeed).scrolls = [1] := by
  refine ⟨regionInMiddle, regionInMiddle.apply latinAndHan (.goto 4 0),
    reachable_regionInMiddle,
    reachable_apply reachable_regionInMiddle _ trivial, ?_⟩
  decide +kernel

end Terminal
end Vvmux
