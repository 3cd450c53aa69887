import Vvmux.Terminal.Checked
import Vvmux.Terminal.Motion
import Vvmux.Terminal.Text

/-!
# Where scrolling leaves the rows

Which row stands where after the loops of `scroll_region_up` and
`scroll_region_down`, for any region, and which scrolls every call announces.
-/

namespace Vvmux
namespace Terminal

/-! ## Removing one row and inserting another -/

section Lists

variable {Item : Type} {items : List Item} {top bottom : Nat}

/-- Removing the first entry of a region and inserting one at its end. -/
theorem getElem?_shiftUp
    (region : top < bottom)
    (inside : bottom ≤ items.length)
    (fresh : Item)
    (index : Nat) :
    ((items.eraseIdx top).insertIdx (bottom - 1) fresh)[index]? =
      if index < top then items[index]?
      else if index + 1 < bottom then items[index + 1]?
      else if index < bottom then some fresh
      else items[index]? := by
  have shorter : (items.eraseIdx top).length = items.length - 1 :=
    List.length_eraseIdx_of_lt (by omega)
  rw [List.getElem?_insertIdx, List.getElem?_eraseIdx, List.getElem?_eraseIdx,
    shorter]
  rcases Nat.lt_trichotomy index (bottom - 1) with before | same | after
  · rw [if_pos before]
    by_cases above : index < top
    · rw [if_pos above, if_pos above]
    · rw [if_neg above, if_neg above, if_pos (by omega)]
  · rw [if_neg (by omega), if_pos same, if_pos (by omega), if_neg (by omega),
      if_neg (by omega), if_pos (by omega)]
  · have position : index - 1 + 1 = index := by omega
    rw [if_neg (by omega), if_neg (by omega), if_neg (by omega),
      if_neg (by omega), if_neg (by omega), if_neg (by omega), position]

/-- Removing the last entry of a region and inserting one at its start. -/
theorem getElem?_shiftDown
    (region : top < bottom)
    (inside : bottom ≤ items.length)
    (fresh : Item)
    (index : Nat) :
    ((items.eraseIdx (bottom - 1)).insertIdx top fresh)[index]? =
      if index < top then items[index]?
      else if index < top + 1 then some fresh
      else if index < bottom then items[index - 1]?
      else items[index]? := by
  have shorter : (items.eraseIdx (bottom - 1)).length = items.length - 1 :=
    List.length_eraseIdx_of_lt (by omega)
  rw [List.getElem?_insertIdx, List.getElem?_eraseIdx, List.getElem?_eraseIdx,
    shorter]
  rcases Nat.lt_trichotomy index top with before | same | after
  · rw [if_pos before, if_pos (by omega), if_pos before]
  · rw [if_neg (by omega), if_pos same, if_pos (by omega), if_neg (by omega),
      if_pos (by omega)]
  · rw [if_neg (by omega), if_neg (by omega)]
    by_cases within : index < bottom
    · rw [if_pos (by omega), if_neg (by omega), if_neg (by omega),
        if_pos within]
    · have position : index - 1 + 1 = index := by omega
      rw [if_neg (by omega), if_neg (by omega), if_neg (by omega),
        if_neg within, position]

end Lists

/-! ## The loops -/

/-- The row that scrolling inserts. -/
def blankRow (terminal : Terminal) : Row :=
  List.replicate terminal.cols terminal.blank

/-- The rows of the grid after some turns of `scroll_region_down`. -/
theorem grid_iterate_scrollDownOnce
    {terminal : Terminal}
    (sized : WellSized terminal)
    {turns : Nat}
    (inside : turns ≤ terminal.scrollBottom - terminal.scrollTop)
    (index : Nat) :
    (scrollDownOnce^[turns] terminal).grid[index]? =
      if index < terminal.scrollTop then terminal.grid[index]?
      else if index < terminal.scrollTop + turns then some terminal.blankRow
      else if index < terminal.scrollBottom then terminal.grid[index - turns]?
      else terminal.grid[index]? := by
  induction turns generalizing index with
  | zero =>
      rw [Function.iterate_zero, id_eq, Nat.add_zero, Nat.sub_zero]
      by_cases above : index < terminal.scrollTop
      · rw [if_pos above]
      · rw [if_neg above, if_neg above]
        split
        · rfl
        · rfl
  | succ turns ih =>
      have before := Function.Iterate.rec WellSized sized
        (fun _ held => held.scrollDownOnce) turns
      have frame := (scrolled_iterate scrolled_scrollDownOnce terminal
        turns).frame
      have earlier := ih (by omega)
      rw [Function.iterate_succ_apply']
      generalize scrollDownOnce^[turns] terminal = scrolled at *
      have top : scrolled.scrollTop = terminal.scrollTop := by rw [frame]
      have bottom : scrolled.scrollBottom = terminal.scrollBottom := by
        rw [frame]
      have blank : List.replicate scrolled.cols scrolled.blank =
          terminal.blankRow := by
        rw [frame]
        rfl
      have length : scrolled.scrollBottom ≤ scrolled.grid.length := by
        rw [before.grid]
        exact before.scrollBottom
      change ((scrolled.grid.eraseIdx (scrolled.scrollBottom - 1)).insertIdx
        scrolled.scrollTop
        (List.replicate scrolled.cols scrolled.blank))[index]? = _
      rw [getElem?_shiftDown before.scrollTop length, earlier, earlier, top,
        bottom, blank]
      by_cases above : index < terminal.scrollTop
      · rw [if_pos above, if_pos above, if_pos above]
      · rw [if_neg above, if_neg above, if_neg above]
        by_cases first : index < terminal.scrollTop + 1
        · rw [if_pos first, if_pos (by omega)]
        · have next : index - 1 - turns = index - (turns + 1) := by omega
          rw [if_neg first, next]
          by_cases within : index < terminal.scrollBottom
          · rw [if_pos within, if_neg (by omega), if_pos within]
            by_cases covered : index < terminal.scrollTop + (turns + 1)
            · rw [if_pos (by omega), if_pos covered]
            · rw [if_neg (by omega), if_neg covered,
                if_pos (by omega)]
          · rw [if_neg within, if_neg (by omega), if_neg within,
              if_neg (by omega), if_neg within]

/-! ## The history -/

/-- Only a scroll of the whole primary screen moves rows to the history. -/
def Retains (terminal : Terminal) : Prop :=
  terminal.scrollTop = 0 ∧ terminal.scrollBottom = terminal.rows ∧
    terminal.alternateScreen = false

theorem history_iterate_scrollUpOnce
    {terminal : Terminal}
    (part : ¬ Retains terminal)
    (turns : Nat) :
    (scrollUpOnce^[turns] terminal).history = terminal.history := by
  induction turns with
  | zero => rfl
  | succ turns ih =>
      have frame := (scrolled_iterate scrolled_scrollUpOnce terminal
        turns).frame
      rw [Function.iterate_succ_apply']
      generalize scrollUpOnce^[turns] terminal = scrolled at *
      have also : ¬ Retains scrolled := by
        rw [frame]
        exact part
      unfold Retains at also
      simp only [scrollUpOnce, also, if_false, List.drop_zero]
      exact ih

/-- One turn on the whole primary screen moves every line up by one, as far
as the history reaches. -/
theorem viewportLine_scrollUpOnce
    {terminal : Terminal}
    (sized : WellSized terminal)
    (within : terminal.history.length ≤ terminal.historyLimit)
    (whole : Retains terminal)
    {line : Int}
    (onScreen : line < terminal.rows)
    (inReach : -(terminal.historyLimit : Int) ≤ line - 1) :
    terminal.scrollUpOnce.viewportLine (line - 1) =
      terminal.viewportLine line := by
  have length := sized.grid
  have rows := sized.rows
  obtain ⟨top, bottom, primary⟩ := whole
  have retains : terminal.scrollTop = 0 ∧
      terminal.scrollBottom = terminal.rows ∧
      terminal.alternateScreen = false := ⟨top, bottom, primary⟩
  have history : terminal.scrollUpOnce.history =
      (terminal.history ++ [terminal.grid.getD 0 []]).drop
        (terminal.history.length + 1 - terminal.historyLimit) := by
    simp only [scrollUpOnce, retains, and_self, if_true, List.length_append,
      List.length_singleton]
  have historyLength : terminal.scrollUpOnce.history.length =
      terminal.history.length + 1 -
        (terminal.history.length + 1 - terminal.historyLimit) := by
    rw [history, List.length_drop, List.length_append, List.length_singleton]
  rcases lt_or_ge 0 line with below | atOrAbove
  · obtain ⟨index, isIndex⟩ : ∃ index : Nat, line = (index + 1 : Nat) :=
      ⟨(line - 1).toNat, by omega⟩
    have moved : (line - 1).toNat = index := by omega
    have here : line.toNat = index + 1 := by omega
    have shifted := @getElem?_shiftUp _ terminal.grid terminal.scrollTop
      terminal.scrollBottom (by omega) (by omega) terminal.blankRow index
    rw [if_neg (by omega), if_pos (by omega)] at shifted
    rw [viewportLine, viewportLine, if_neg (by omega), if_neg (by omega),
      moved, here]
    exact shifted
  · have negative : line - 1 < 0 := by omega
    rw [viewportLine, if_pos negative]
    dsimp only
    rw [historyLength]
    by_cases known : 0 ≤ (terminal.history.length : Int) + line
    · -- The lines of the history and the first row of the screen.
      obtain ⟨index, isIndex⟩ : ∃ index : Nat,
          (index : Int) = terminal.history.length + line :=
        ⟨((terminal.history.length : Int) + line).toNat, by omega⟩
      have position : terminal.history.length + 1 - terminal.historyLimit +
          (((terminal.history.length + 1 -
            (terminal.history.length + 1 - terminal.historyLimit) : Nat) :
              Int) + (line - 1)).toNat = index := by
        omega
      rw [if_pos (by omega), history, List.getElem?_drop, position]
      rcases Int.lt_or_eq_of_le atOrAbove with above | first
      · have same : ((terminal.history.length : Int) + line).toNat = index := by
          omega
        rw [viewportLine, if_pos above]
        dsimp only
        rw [if_pos known, List.getElem?_append_left (by omega), same]
      · have same : index = terminal.history.length := by omega
        subst first
        rw [viewportLine, if_neg (by omega), Int.toNat_zero, same,
          List.getElem?_append_right le_rfl, Nat.sub_self,
          List.getElem?_cons_zero, List.getD_eq_getElem?_getD,
          List.getElem?_eq_getElem (by omega)]
        rfl
    · rw [if_neg (by omega), viewportLine, if_pos (by omega)]
      dsimp only
      rw [if_neg known]

/-- Some turns on the whole primary screen move every line up by as many. -/
theorem viewportLine_iterate_scrollUpOnce
    {terminal : Terminal}
    (sized : WellSized terminal)
    (within : terminal.history.length ≤ terminal.historyLimit)
    (whole : Retains terminal)
    (turns : Nat)
    {line : Int}
    (onScreen : line < terminal.rows)
    (inReach : -(terminal.historyLimit : Int) ≤ line - turns) :
    (scrollUpOnce^[turns] terminal).viewportLine (line - turns) =
      terminal.viewportLine line := by
  induction turns with
  | zero =>
      rw [Function.iterate_zero, id_eq, Int.natCast_zero, Int.sub_zero]
  | succ turns ih =>
      have before := Function.Iterate.rec WellSized sized
        (fun _ held => held.scrollUpOnce) turns
      have frame := (scrolled_iterate scrolled_scrollUpOnce terminal
        turns).frame
      have limited := ((Function.Iterate.rec (GrowsHistory terminal) (.refl _)
        (fun _ grown => grown.trans (.scrollUpOnce _)) turns).grows within).2
      have earlier := ih (by omega)
      rw [Function.iterate_succ_apply']
      generalize scrollUpOnce^[turns] terminal = scrolled at *
      have also : Retains scrolled := by
        rw [frame]
        exact whole
      have rows : scrolled.rows = terminal.rows := by rw [frame]
      have limit : scrolled.historyLimit = terminal.historyLimit := by
        rw [frame]
      have next : line - (turns + 1 : Nat) = line - turns - 1 := by omega
      rw [next, viewportLine_scrollUpOnce before limited also (by omega)
        (by omega), earlier]

/-! ## What a call announces -/

/-- What a scroll up of the region by `count` rows announces. -/
def upScrolls (terminal : Terminal) (count : Nat) : List Int :=
  let turns := min count (terminal.scrollBottom - terminal.scrollTop)
  if 0 < turns then [(turns : Int)] else []

/-- What a scroll down of the region by `count` rows announces. -/
def downScrolls (terminal : Terminal) (count : Nat) : List Int :=
  let turns := min count (terminal.scrollBottom - terminal.scrollTop)
  if 0 < turns then [-(turns : Int)] else []

/-- What a line feed announces. -/
def feedScrolls (terminal : Terminal) : List Int :=
  if terminal.scrollBottom ≤ terminal.cursorRow + 1 then terminal.upScrolls 1
  else []

/-- What the two wraps of `input` announce. -/
def inputScrolls
    (unicode : UnicodeWidth)
    (terminal : Terminal)
    (ch : Char) : List Int :=
  if unicode.columns ch = 0 then []
  else
    (if terminal.cols ≤ terminal.cursorCol then terminal.feedScrolls else []) ++
      (if unicode.columns ch = 2 ∧
          terminal.wrapPending.cols ≤ terminal.wrapPending.cursorCol + 1 then
        terminal.wrapPending.feedScrolls
      else [])

/-- The counts of the `GridScroll` events of a call. -/
def announces
    (unicode : UnicodeWidth)
    (terminal : Terminal)
    (call : Call) : List Int :=
  match call with
  | .input ch => terminal.inputScrolls unicode ch
  | .linefeed => terminal.feedScrolls
  | .newline => terminal.feedScrolls
  | .scrollUp rows => terminal.upScrolls rows
  | .scrollDown rows => terminal.downScrolls rows
  | .insertBlankLines rows =>
      { terminal with scrollTop := terminal.cursorRow }.downScrolls rows
  | .deleteLines rows =>
      { terminal with scrollTop := terminal.cursorRow }.upScrolls rows
  | .reverseIndex =>
      if terminal.cursorRow = terminal.scrollTop then terminal.downScrolls 1
      else []
  | _ => []

variable (terminal : Terminal)

theorem scrolls_up
    (count : Nat) :
    (terminal.scrollRegionUp count).scrolls =
      terminal.scrolls ++ terminal.upScrolls count := by
  rw [scrolls_scrollRegionUp, upScrolls]
  split
  · rfl
  · rw [List.append_nil]

theorem scrolls_down
    (count : Nat) :
    (terminal.scrollRegionDown count).scrolls =
      terminal.scrolls ++ terminal.downScrolls count := by
  rw [scrolls_scrollRegionDown, downScrolls]
  split
  · rfl
  · rw [List.append_nil]

theorem scrolls_lineFeed
    (terminal : Terminal) :
    terminal.lineFeed.scrolls = terminal.scrolls ++ terminal.feedScrolls := by
  unfold lineFeed feedScrolls
  split
  · exact scrolls_up terminal 1
  · rw [List.append_nil]
    rfl

theorem scrolls_wrapPending
    (terminal : Terminal) :
    terminal.wrapPending.scrolls = terminal.scrolls ++
      (if terminal.cols ≤ terminal.cursorCol then terminal.feedScrolls
        else []) := by
  unfold wrapPending
  split
  · exact scrolls_lineFeed _
  · rw [List.append_nil]

theorem scrolls_wrapWide
    (width : Nat) :
    (terminal.wrapWide width).scrolls = terminal.scrolls ++
      (if width = 2 ∧ terminal.cols ≤ terminal.cursorCol + 1 then
        terminal.feedScrolls else []) := by
  unfold wrapWide
  split
  · exact scrolls_lineFeed _
  · rw [List.append_nil]

theorem scrolls_putGlyph
    (ch : Char)
    (width : Nat) :
    (terminal.putGlyph ch width).scrolls = terminal.scrolls := by
  unfold putGlyph untabGlyph
  dsimp only
  split
  · split
    · rfl
    · rfl
  · split
    · rfl
    · rfl

theorem scrolls_input
    (unicode : UnicodeWidth)
    (terminal : Terminal)
    (ch : Char) :
    (terminal.input unicode ch).scrolls =
      terminal.scrolls ++ terminal.inputScrolls unicode ch := by
  unfold input inputScrolls
  dsimp only
  split
  · rw [List.append_nil, combine, scrolls_damage]
    rfl
  · rw [scrolls_damage, scrolls_putGlyph, scrolls_wrapWide,
      scrolls_wrapPending, List.append_assoc]

theorem scrolls_clearRowRange
    (row start stop : Nat) :
    (terminal.clearRowRange row start stop).scrolls = terminal.scrolls := by
  rw [clearRowRange, scrolls_damage]
  rfl

theorem scrolls_clearRows
    (start stop : Nat) :
    (terminal.clearRows start stop).scrolls = terminal.scrolls := by
  unfold clearRows
  generalize List.range' start (stop - start) = rows
  induction rows generalizing terminal with
  | nil => rfl
  | cons row rest ih =>
      rw [List.foldl_cons, ih, scrolls_clearRowRange]

theorem scrolls_putTab
    (count : Nat) : (terminal.putTab count).scrolls = terminal.scrolls := by
  unfold putTab
  induction count with
  | zero => rfl
  | succ count ih =>
      rw [Function.iterate_succ_apply', ← ih]
      unfold putTabOnce
      dsimp only
      split
      · rfl
      · rfl

/-- An event that is no scroll announces none. -/
theorem scrolls_push
    {event : TerminalEvent}
    (other : ∀ count, event ≠ .gridScroll count) :
    (terminal.push event).scrolls = terminal.scrolls := by
  unfold scrolls push
  rw [List.filterMap_append]
  cases event with
  | gridScroll count => exact absurd rfl (other count)
  | _ => exact List.append_nil _

/-- Every call of the parser announces just these scrolls. -/
theorem scrolls_apply
    (unicode : UnicodeWidth)
    (terminal : Terminal)
    {call : Call}
    (output : call.isOutput = true) :
    (terminal.apply unicode call).scrolls =
      terminal.scrolls ++ terminal.announces unicode call := by
  have silent : ∀ {after : Terminal}, after.scrolls = terminal.scrolls →
      after.scrolls = terminal.scrolls ++ [] := by
    intro after same
    rw [same, List.append_nil]
  cases call with
  | input ch => exact scrolls_input unicode terminal ch
  | linefeed | newline => exact scrolls_lineFeed terminal
  | scrollUp rows => exact scrolls_up terminal rows
  | scrollDown rows => exact scrolls_down terminal rows
  | insertBlankLines rows => exact scrolls_down _ rows
  | deleteLines rows => exact scrolls_up _ rows
  | reverseIndex =>
      simp only [apply, reverseIndex, announces]
      split
      · exact scrolls_down terminal 1
      · exact silent rfl
  | putTab count => exact silent (scrolls_putTab terminal count)
  | insertBlank count | deleteChars count => exact silent (scrolls_damage _)
  | eraseChars count => exact silent (scrolls_clearRowRange _ _ _ _)
  | clearLine mode =>
      cases mode with
      | right | left | all => exact silent (scrolls_clearRowRange _ _ _ _)
  | clearScreen mode =>
      apply silent
      cases mode with
      | below =>
          exact (scrolls_clearRows _ _ _).trans (scrolls_clearRowRange _ _ _ _)
      | above =>
          exact (scrolls_clearRowRange _ _ _ _).trans (scrolls_clearRows _ _ _)
      | all =>
          simp only [apply, clearScreen, scrolls_damage]
          exact scrolls_push _ (by intro count; exact TerminalEvent.noConfusion)
      | saved =>
          simp only [apply, clearScreen]
          split
          · exact scrolls_push _
              (by intro count; exact TerminalEvent.noConfusion)
          · rfl
  | resetState =>
      apply silent
      simp only [apply, resetState, scrolls_damage]
      exact scrolls_push _ (by intro count; exact TerminalEvent.noConfusion)
  | privateMode mode enabled =>
      apply silent
      simp only [apply, updatePrivateMode]
      rw [scrolls_push _ (by intro count; exact TerminalEvent.noConfusion)]
      split
      case h_9 =>
        split
        · exact scrolls_damage _
        · rfl
      all_goals rfl
  | setTitle title | keypadApplicationMode enabled | bell | identifyTerminal =>
      exact silent
        (scrolls_push _ (by intro count; exact TerminalEvent.noConfusion))
  | deviceStatus status =>
      apply silent
      simp only [apply, deviceStatus]
      split
      · exact scrolls_push _ (by intro count; exact TerminalEvent.noConfusion)
      · exact scrolls_push _ (by intro count; exact TerminalEvent.noConfusion)
      · rfl
  | marker marker =>
      exact silent
        (scrolls_push _ (by intro count; exact TerminalEvent.noConfusion))
  | takeEvents => cases output
  | resize rows cols => cases output
  | _ => exact silent rfl

end Terminal
end Vvmux
