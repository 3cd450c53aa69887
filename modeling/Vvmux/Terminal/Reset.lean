import Vvmux.Terminal.Shape

/-!
# Resetting a terminal

`reset_state` sets every field back that `Terminal::new` sets, except the
title, the saved cursor and the flag of the alternate screen.  A call reads
the saved cursor only to restore it, so the saved cursor and the flag are all
that can tell a reset terminal from a fresh one.
-/

namespace Vvmux
namespace Terminal

/-! ## What two terminals are compared by -/

/-- Where `restore_cursor_position` would put the cursor. -/
def restoredCursor (terminal : Terminal) : Nat × Nat :=
  (min terminal.savedCursor.1 (terminal.rows - 1),
    min terminal.savedCursor.2 (terminal.cols - 1))

/-- The terminal without its pending events and its title, and with the saved
cursor as it can be restored. -/
def observed (terminal : Terminal) : Terminal :=
  { terminal with
    events := []
    title := none
    savedCursor := terminal.restoredCursor }

/-- A newly constructed terminal of the same size and history limit.  The
numbering of inputs, which is not in the source, goes on. -/
def freshLike (terminal : Terminal) : Terminal :=
  { Terminal.new terminal.rows terminal.cols terminal.historyLimit with
    inputs := terminal.inputs }

/-- The terminal after a sequence of calls. -/
def run
    (unicode : UnicodeWidth)
    (terminal : Terminal)
    (calls : List Call) : Terminal :=
  calls.foldl (apply unicode) terminal

/-! ## Calls do not look at events, title and saved cursor -/

/-- Exchange the fields that no call but the restoring one looks at. -/
def reframe
    (terminal : Terminal)
    (events : List TerminalEvent)
    (title : Option String)
    (savedCursor : Nat × Nat) : Terminal :=
  { terminal with
    events := events
    title := title
    savedCursor := savedCursor }

/-- An operation that keeps the saved cursor and does to all fields but the
events and the title what it does for any others. -/
def Reframes (operation : Terminal → Terminal) : Prop :=
  ∀ terminal events title savedCursor, ∃ nextEvents nextTitle,
    operation (terminal.reframe events title savedCursor) =
      (operation terminal).reframe nextEvents nextTitle savedCursor

namespace Reframes

theorem comp
    {first second : Terminal → Terminal}
    (before : Reframes first)
    (after : Reframes second) :
    Reframes fun terminal => second (first terminal) := by
  intro terminal events title savedCursor
  obtain ⟨midEvents, midTitle, same⟩ := before terminal events title savedCursor
  obtain ⟨nextEvents, nextTitle, alsoSame⟩ :=
    after (first terminal) midEvents midTitle savedCursor
  refine ⟨nextEvents, nextTitle, ?_⟩
  dsimp only
  rw [same, alsoSame]

/-- A second operation that also depends on the terminal before the first. -/
theorem compFrom
    {first : Terminal → Terminal}
    {second : Terminal → Terminal → Terminal}
    (before : Reframes first)
    (after : ∀ terminal, Reframes (second terminal))
    (same : ∀ terminal events title savedCursor,
      second (terminal.reframe events title savedCursor) = second terminal) :
    Reframes fun terminal => second terminal (first terminal) := by
  intro terminal events title savedCursor
  obtain ⟨midEvents, midTitle, equal⟩ := before terminal events title savedCursor
  obtain ⟨nextEvents, nextTitle, alsoEqual⟩ :=
    after terminal (first terminal) midEvents midTitle savedCursor
  refine ⟨nextEvents, nextTitle, ?_⟩
  dsimp only
  rw [same, equal, alsoEqual]

/-- A branch on fields that are not exchanged. -/
theorem cond
    {condition : Terminal → Prop}
    [DecidablePred condition]
    {first second : Terminal → Terminal}
    (same : ∀ terminal events title savedCursor,
      condition (terminal.reframe events title savedCursor) ↔
        condition terminal)
    (yes : Reframes first)
    (no : Reframes second) :
    Reframes fun terminal =>
      if condition terminal then first terminal else second terminal := by
  intro terminal events title savedCursor
  have branch := same terminal events title savedCursor
  by_cases holds : condition terminal
  · obtain ⟨nextEvents, nextTitle, equal⟩ :=
      yes terminal events title savedCursor
    refine ⟨nextEvents, nextTitle, ?_⟩
    dsimp only
    rw [if_pos holds, if_pos (branch.2 holds), equal]
  · obtain ⟨nextEvents, nextTitle, equal⟩ :=
      no terminal events title savedCursor
    refine ⟨nextEvents, nextTitle, ?_⟩
    dsimp only
    rw [if_neg holds, if_neg (fun other => holds (branch.1 other)), equal]

theorem keeps :
    Reframes fun terminal => terminal := by
  intro terminal events title savedCursor
  exact ⟨events, title, rfl⟩

theorem push
    (event : Terminal → TerminalEvent)
    (same : ∀ terminal events title savedCursor,
      event (terminal.reframe events title savedCursor) = event terminal) :
    Reframes fun terminal => terminal.push (event terminal) := by
  intro terminal events title savedCursor
  refine ⟨events ++ [event terminal], title, ?_⟩
  dsimp only
  rw [same]
  rfl

theorem damage :
    Reframes Terminal.damage := by
  intro terminal events title savedCursor
  refine ⟨(terminal.reframe events title savedCursor).damage.events, title, ?_⟩
  rw [damage_eq (terminal.reframe events title savedCursor),
    damage_eq terminal]
  rfl

variable {operation : Terminal → Terminal}

theorem iterate
    (once : Reframes operation)
    (turns : Nat) : Reframes operation^[turns] := by
  induction turns with
  | zero => exact keeps
  | succ turns ih => exact once.comp ih

theorem scrollUpOnce :
    Reframes Terminal.scrollUpOnce := by
  intro terminal events title savedCursor
  exact ⟨events, title, rfl⟩

theorem scrollDownOnce :
    Reframes Terminal.scrollDownOnce := by
  intro terminal events title savedCursor
  exact ⟨events, title, rfl⟩

/-- Scrolling, whatever number of turns the region allows. -/
theorem scrolled
    (once : Reframes operation)
    (turns : Terminal → Nat)
    (same : ∀ terminal events title savedCursor,
      turns (terminal.reframe events title savedCursor) = turns terminal)
    (event : Nat → TerminalEvent) :
    Reframes fun terminal =>
      if 0 < turns terminal then
        ((operation^[turns terminal] terminal).push
          (event (turns terminal))).damage
      else
        operation^[turns terminal] terminal := by
  intro terminal events title savedCursor
  obtain ⟨midEvents, midTitle, iterated⟩ :=
    once.iterate (turns terminal) terminal events title savedCursor
  dsimp only
  rw [same, iterated]
  split
  · obtain ⟨nextEvents, nextTitle, equal⟩ := damage
      ((operation^[turns terminal] terminal).push (event (turns terminal)))
      (midEvents ++ [event (turns terminal)]) midTitle savedCursor
    exact ⟨nextEvents, nextTitle, equal⟩
  · exact ⟨midEvents, midTitle, rfl⟩

theorem scrollRegionUp
    (count : Nat) : Reframes fun terminal => terminal.scrollRegionUp count :=
  scrollUpOnce.scrolled
    (fun terminal => min count (terminal.scrollBottom - terminal.scrollTop))
    (fun _ _ _ _ => rfl) fun turns => .gridScroll turns

theorem scrollRegionDown
    (count : Nat) : Reframes fun terminal => terminal.scrollRegionDown count :=
  scrollDownOnce.scrolled
    (fun terminal => min count (terminal.scrollBottom - terminal.scrollTop))
    (fun _ _ _ _ => rfl) fun turns => .gridScroll (-turns)

theorem lineFeed :
    Reframes Terminal.lineFeed := by
  apply cond
  · exact fun _ _ _ _ => Iff.rfl
  · exact scrollRegionUp 1
  · exact fun _ events title _ => ⟨events, title, rfl⟩

theorem nextRow :
    Reframes Terminal.nextRow := by
  have marked : Reframes fun terminal =>
      { terminal.markWrapped terminal.cursorRow with cursorCol := 0 } :=
    fun _ events title _ => ⟨events, title, rfl⟩
  exact marked.comp lineFeed

theorem wrapPending :
    Reframes Terminal.wrapPending :=
  cond (fun _ _ _ _ => Iff.rfl) nextRow keeps

theorem wrapWide
    (width : Nat) : Reframes fun terminal => terminal.wrapWide width := by
  have spaced : Reframes fun terminal =>
      (terminal.invalidateTabAt terminal.cursorRow terminal.cursorCol).modifyRow
        terminal.cursorRow fun cells =>
          cells.set terminal.cursorCol
            { terminal.blank with leadingWideSpacer := true } :=
    fun _ events title _ => ⟨events, title, rfl⟩
  exact cond (fun _ _ _ _ => Iff.rfl) (spaced.comp nextRow) keeps

theorem putGlyph
    (ch : Char)
    (width : Nat) : Reframes fun terminal => terminal.putGlyph ch width := by
  intro terminal events title savedCursor
  refine ⟨events, title, ?_⟩
  unfold Terminal.putGlyph untabGlyph
  by_cases wide : width = 2
  · by_cases roomy : terminal.cursorCol + 1 < terminal.cols
    · simp [wide, roomy, reframe, modifyRow, Terminal.invalidateTabAt,
        Terminal.glyph, continuation, blank]
    · simp [wide, roomy, reframe, modifyRow, Terminal.invalidateTabAt,
        Terminal.glyph]
  · simp [wide, reframe, modifyRow, Terminal.invalidateTabAt, Terminal.glyph]

theorem input
    (unicode : UnicodeWidth)
    (ch : Char) : Reframes fun terminal => terminal.input unicode ch := by
  have combined : Reframes fun terminal => terminal.combine ch := by
    have written : Reframes fun terminal =>
        terminal.modifyRow terminal.cursorRow fun cells =>
          cells.modify (terminal.cursorCol - 1) fun cell =>
            { cell with combining := cell.combining.push ch } :=
      fun _ events title _ => ⟨events, title, rfl⟩
    exact written.comp damage
  have printed := ((wrapPending.comp (wrapWide (unicode.columns ch))).comp
    (putGlyph ch (unicode.columns ch))).comp damage
  exact cond (fun _ _ _ _ => Iff.rfl) combined printed

theorem putTab
    (count : Nat) : Reframes fun terminal => terminal.putTab count := by
  have once : Reframes putTabOnce := by
    intro terminal events title savedCursor
    refine ⟨events, title, ?_⟩
    have same : (terminal.reframe events title savedCursor).cursorCol <
        (terminal.reframe events title savedCursor).nextTabStop
          (terminal.reframe events title savedCursor).cursorCol ↔
        terminal.cursorCol < terminal.nextTabStop terminal.cursorCol := Iff.rfl
    unfold putTabOnce
    dsimp only
    by_cases further : terminal.cursorCol <
        terminal.nextTabStop terminal.cursorCol
    · rw [if_pos further, if_pos (same.2 further)]
      rfl
    · rw [if_neg further, if_neg (fun other => further (same.1 other))]
      rfl
  exact once.iterate count

theorem clearRowRange
    (row start stop : Terminal → Nat)
    (same : ∀ terminal events title savedCursor,
      row (terminal.reframe events title savedCursor) = row terminal ∧
        start (terminal.reframe events title savedCursor) = start terminal ∧
        stop (terminal.reframe events title savedCursor) = stop terminal) :
    Reframes fun terminal =>
      terminal.clearRowRange (row terminal) (start terminal)
        (stop terminal) := by
  have written : Reframes fun terminal =>
      terminal.modifyRow (row terminal) fun cells =>
        cells.clearRange (min (start terminal) terminal.cols)
          (min (stop terminal) terminal.cols) terminal.blank := by
    intro terminal events title savedCursor
    obtain ⟨sameRow, sameStart, sameStop⟩ :=
      same terminal events title savedCursor
    refine ⟨events, title, ?_⟩
    dsimp only
    rw [sameRow, sameStart, sameStop]
    rfl
  exact written.comp damage

theorem clearRows
    (start stop : Terminal → Nat)
    (same : ∀ terminal events title savedCursor,
      start (terminal.reframe events title savedCursor) = start terminal ∧
        stop (terminal.reframe events title savedCursor) = stop terminal) :
    Reframes fun terminal =>
      terminal.clearRows (start terminal) (stop terminal) := by
  have each : ∀ rows : List Nat, Reframes fun terminal =>
      rows.foldl (fun cleared row => cleared.clearRowRange row 0 cleared.cols)
        terminal := by
    intro rows
    induction rows with
    | nil => exact keeps
    | cons row rest ih =>
        have once := clearRowRange (fun _ => row) (fun _ => 0)
          (fun terminal => terminal.cols) fun _ _ _ _ => ⟨rfl, rfl, rfl⟩
        exact once.comp ih
  intro terminal events title savedCursor
  obtain ⟨sameStart, sameStop⟩ := same terminal events title savedCursor
  dsimp only [Terminal.clearRows]
  rw [sameStart, sameStop]
  exact each _ terminal events title savedCursor

/-- An operation that does not even look at the events. -/
theorem plain
    (same : ∀ terminal events title savedCursor,
      operation (terminal.reframe events title savedCursor) =
        (operation terminal).reframe events title savedCursor) :
    Reframes operation := by
  intro terminal events title savedCursor
  exact ⟨events, title, same terminal events title savedCursor⟩

theorem clearScreen
    (mode : ClearMode) :
    Reframes fun terminal => terminal.clearScreen mode := by
  cases mode with
  | below =>
      have here := clearRowRange (fun terminal => terminal.cursorRow)
        (fun terminal => terminal.cursorCol) (fun terminal => terminal.cols)
        fun _ _ _ _ => ⟨rfl, rfl, rfl⟩
      exact here.compFrom
        (fun terminal => clearRows (fun _ => terminal.cursorRow + 1)
          (fun cleared => terminal.rows) fun _ _ _ _ => ⟨rfl, rfl⟩)
        fun _ _ _ _ => rfl
  | above =>
      have before := clearRows (fun _ => 0) (fun terminal => terminal.cursorRow)
        fun _ _ _ _ => ⟨rfl, rfl⟩
      exact before.compFrom
        (fun terminal => clearRowRange (fun _ => terminal.cursorRow)
          (fun _ => 0) (fun _ => terminal.cursorCol + 1)
          fun _ _ _ _ => ⟨rfl, rfl, rfl⟩)
        fun _ _ _ _ => rfl
  | all =>
      have blanked : Reframes fun terminal =>
          { terminal with
            grid := blankGrid terminal.rows terminal.cols
            gridWrapped := terminal.gridWrapped.map fun _ => false } :=
        plain fun _ _ _ _ => rfl
      exact (blanked.comp (push (fun _ => .clear) fun _ _ _ _ => rfl)).comp
        damage
  | saved =>
      have purged : Reframes fun terminal =>
          { terminal with history := [], historyWrapped := [] } :=
        plain fun _ _ _ _ => rfl
      exact cond (fun _ _ _ _ => Iff.rfl)
        (purged.comp (push (fun _ => .clear) fun _ _ _ _ => rfl)) purged

/-- A scroll below the cursor with the region's start put back. -/
theorem fromCursor
    (scrolls : Reframes operation) :
    Reframes fun terminal =>
      { operation { terminal with scrollTop := terminal.cursorRow } with
        scrollTop := terminal.scrollTop } := by
  have started : Reframes fun terminal =>
      { terminal with scrollTop := terminal.cursorRow } :=
    plain fun _ _ _ _ => rfl
  have putBack : ∀ terminal : Terminal, Reframes fun after =>
      { after with scrollTop := terminal.scrollTop } :=
    fun _ => plain fun _ _ _ _ => rfl
  exact (started.comp scrolls).compFrom putBack fun _ _ _ _ => rfl

theorem updatePrivateMode
    (mode : Nat)
    (enabled : Bool) :
    Reframes fun terminal => terminal.updatePrivateMode mode enabled := by
  have told := push (fun terminal => .modeChange terminal.modes)
    fun _ _ _ _ => rfl
  have swapped : Reframes fun terminal =>
      { terminal with
        grid := terminal.alternateGrid
        alternateGrid := terminal.grid
        gridWrapped := terminal.alternateGridWrapped
        alternateGridWrapped := terminal.gridWrapped
        alternateScreen := enabled
        cursorRow := 0
        cursorCol := 0 } :=
    plain fun _ _ _ _ => rfl
  unfold Terminal.updatePrivateMode
  split
  case h_9 =>
    have switched := @cond (fun terminal => enabled ≠ terminal.alternateScreen)
      _ _ _ (fun _ _ _ _ => Iff.rfl) (swapped.comp damage) keeps
    exact switched.comp told
  all_goals exact Reframes.comp (plain fun _ _ _ _ => rfl) told

theorem deviceStatus
    (status : Nat) : Reframes fun terminal => terminal.deviceStatus status := by
  unfold Terminal.deviceStatus
  split
  · exact push (fun _ => _) fun _ _ _ _ => rfl
  · exact push _ fun _ _ _ _ => rfl
  · exact keeps

/-- Every call of the parser but those that save or restore the cursor. -/
theorem apply
    (unicode : UnicodeWidth)
    {call : Call}
    (output : call.isOutput = true)
    (notSave : call ≠ .saveCursorPosition)
    (notRestore : call ≠ .restoreCursorPosition) :
    Reframes fun terminal => terminal.apply unicode call := by
  cases call with
  | input ch => exact input unicode ch
  | linefeed => exact lineFeed
  | newline =>
      have returned : Reframes carriageReturn := plain fun _ _ _ _ => rfl
      exact lineFeed.comp returned
  | putTab count => exact putTab count
  | insertBlank count =>
      have inserted : Reframes fun terminal =>
          terminal.modifyRow terminal.cursorRow fun cells =>
            cells.insertBlank terminal.cursorCol
              (min count (terminal.cols - terminal.cursorCol)) terminal.blank :=
        plain fun _ _ _ _ => rfl
      exact inserted.comp damage
  | deleteChars count =>
      have deleted : Reframes fun terminal =>
          terminal.modifyRow terminal.cursorRow fun cells =>
            cells.deleteChars terminal.cursorCol
              (min count (terminal.cols - terminal.cursorCol)) terminal.blank :=
        plain fun _ _ _ _ => rfl
      exact deleted.comp damage
  | eraseChars count =>
      exact clearRowRange (fun terminal => terminal.cursorRow)
        (fun terminal => terminal.cursorCol)
        (fun terminal => min (terminal.cursorCol + count) terminal.cols)
        fun _ _ _ _ => ⟨rfl, rfl, rfl⟩
  | clearLine mode =>
      cases mode with
      | right =>
          exact clearRowRange (fun terminal => terminal.cursorRow)
            (fun terminal => terminal.cursorCol) (fun terminal => terminal.cols)
            fun _ _ _ _ => ⟨rfl, rfl, rfl⟩
      | left =>
          exact clearRowRange (fun terminal => terminal.cursorRow)
            (fun _ => 0) (fun terminal => terminal.cursorCol + 1)
            fun _ _ _ _ => ⟨rfl, rfl, rfl⟩
      | all =>
          exact clearRowRange (fun terminal => terminal.cursorRow)
            (fun _ => 0) (fun terminal => terminal.cols)
            fun _ _ _ _ => ⟨rfl, rfl, rfl⟩
  | clearScreen mode => exact clearScreen mode
  | scrollUp rows => exact scrollRegionUp rows
  | scrollDown rows => exact scrollRegionDown rows
  | insertBlankLines rows => exact fromCursor (scrollRegionDown rows)
  | deleteLines rows => exact fromCursor (scrollRegionUp rows)
  | reverseIndex =>
      exact cond (fun _ _ _ _ => Iff.rfl) (scrollRegionDown 1)
        (plain fun _ _ _ _ => rfl)
  | resetState =>
      have cleared : Reframes fun terminal =>
          { terminal with
            grid := blankGrid terminal.rows terminal.cols
            alternateGrid := blankGrid terminal.rows terminal.cols
            gridWrapped := terminal.gridWrapped.map fun _ => false
            alternateGridWrapped :=
              terminal.alternateGridWrapped.map fun _ => false
            history := []
            historyWrapped := []
            cursorRow := 0
            cursorCol := 0
            scrollTop := 0
            scrollBottom := terminal.rows
            template := {}
            tabStops := defaultTabStops terminal.cols 8
            tabStopsCustomized := false
            modes := { cursorVisible := true } } :=
        plain fun _ _ _ _ => rfl
      exact (cleared.comp (push (fun _ => .clear) fun _ _ _ _ => rfl)).comp
        damage
  | privateMode mode enabled => exact updatePrivateMode mode enabled
  | setTitle title =>
      exact fun _ events _ _ => ⟨events ++ [.title title], title, rfl⟩
  | keypadApplicationMode enabled =>
      have set : Reframes fun terminal =>
          { terminal with
            modes := { terminal.modes with applicationKeypad := enabled } } :=
        plain fun _ _ _ _ => rfl
      exact set.comp (push (fun terminal => .modeChange terminal.modes)
        fun _ _ _ _ => rfl)
  | bell => exact push (fun _ => .bell) fun _ _ _ _ => rfl
  | identifyTerminal => exact push (fun _ => _) fun _ _ _ _ => rfl
  | deviceStatus status => exact deviceStatus status
  | marker marker =>
      exact push (fun terminal =>
        .vividMarker marker terminal.cursorRow terminal.cursorCol)
        fun _ _ _ _ => rfl
  | saveCursorPosition => exact absurd rfl notSave
  | restoreCursorPosition => exact absurd rfl notRestore
  | takeEvents => cases output
  | resize rows cols => cases output
  | _ => exact plain fun _ _ _ _ => rfl

end Reframes

/-! ## Equal for every later call -/

/-- Two terminals that a program cannot tell apart. -/
def Alike (first second : Terminal) : Prop :=
  first.observed = second.observed

theorem reframe_self
    (terminal : Terminal) :
    terminal.reframe terminal.events terminal.title terminal.savedCursor =
      terminal :=
  rfl

/-- An operation that reframes keeps the saved cursor. -/
theorem Reframes.savedCursor
    {operation : Terminal → Terminal}
    (reframes : Reframes operation)
    (terminal : Terminal) :
    (operation terminal).savedCursor = terminal.savedCursor := by
  obtain ⟨events, title, same⟩ := reframes terminal terminal.events
    terminal.title terminal.savedCursor
  rw [reframe_self] at same
  rw [same]
  rfl

variable {first second terminal : Terminal}

theorem Alike.reframed
    (alike : Alike first second) :
    second = first.reframe second.events second.title second.savedCursor ∧
      second.restoredCursor = first.restoredCursor := by
  constructor
  · calc
      second = second.observed.reframe second.events second.title
          second.savedCursor := rfl
      _ = first.observed.reframe second.events second.title
          second.savedCursor := by rw [alike]
      _ = first.reframe second.events second.title second.savedCursor := rfl
  · exact (congrArg Terminal.savedCursor alike).symm

variable {savedCursor : Nat × Nat}

theorem alike_reframe
    (events : List TerminalEvent)
    (title : Option String)
    (same : (terminal.reframe events title savedCursor).restoredCursor =
      terminal.restoredCursor) :
    Alike terminal (terminal.reframe events title savedCursor) := by
  unfold Alike observed
  rw [same]
  rfl

/-- The saved cursor of a terminal of the same size is restored alike. -/
theorem restoredCursor_reframe
    {operation : Terminal → Terminal}
    (reframes : Reframes operation)
    (size : SameSize terminal (operation terminal))
    {events nextEvents : List TerminalEvent}
    {title nextTitle : Option String}
    (same : (terminal.reframe events title savedCursor).restoredCursor =
      terminal.restoredCursor) :
    ((operation terminal).reframe nextEvents nextTitle
        savedCursor).restoredCursor =
      (operation terminal).restoredCursor := by
  have kept := reframes.savedCursor terminal
  unfold restoredCursor at same ⊢
  rw [kept, size.rows, size.cols, ← same]
  dsimp only [reframe]
  rw [size.rows, size.cols]

/-- A call keeps two terminals alike. -/
theorem Alike.apply
    (alike : Alike first second)
    (unicode : UnicodeWidth)
    {call : Call}
    (output : call.isOutput = true) :
    Alike (first.apply unicode call) (second.apply unicode call) := by
  obtain ⟨equal, restored⟩ := alike.reframed
  by_cases isSave : call = .saveCursorPosition
  · subst isSave
    rw [equal]
    rfl
  by_cases isRestore : call = .restoreCursorPosition
  · subst isRestore
    have moved : second.apply unicode .restoreCursorPosition =
        (first.apply unicode .restoreCursorPosition).reframe second.events
          second.title second.savedCursor := by
      change { second with
        cursorRow := second.restoredCursor.1
        cursorCol := second.restoredCursor.2 } = _
      rw [restored]
      conv_lhs => rw [equal]
      rfl
    rw [equal] at restored
    rw [moved]
    exact alike_reframe _ _ restored
  have reframes := Reframes.apply unicode output isSave isRestore
  obtain ⟨events, title, same⟩ := reframes first second.events second.title
    second.savedCursor
  dsimp only at same
  rw [equal] at restored
  rw [equal, same]
  exact alike_reframe _ _ (restoredCursor_reframe reframes
    (sameSize_apply unicode first output) restored)

theorem Alike.run
    (alike : Alike first second)
    (unicode : UnicodeWidth)
    (calls : List Call)
    (output : ∀ call ∈ calls, call.isOutput = true) :
    Alike (first.run unicode calls) (second.run unicode calls) := by
  induction calls generalizing first second with
  | nil => exact alike
  | cons call rest ih =>
      exact ih (alike.apply unicode (output call (by simp)))
        fun other member => output other (List.mem_cons_of_mem _ member)

/-! ## What reset leaves behind -/

/-- A reset terminal is a fresh one up to the two fields that reset keeps. -/
theorem resetState_eq
    (sized : WellSized terminal) :
    terminal.resetState =
      { terminal.freshLike.reframe terminal.resetState.events terminal.title
          terminal.savedCursor with
        alternateScreen := terminal.alternateScreen } := by
  have rows : max terminal.rows 1 = terminal.rows := by
    have positive := sized.rows
    omega
  have cols : max terminal.cols 1 = terminal.cols := by
    have positive := sized.cols
    omega
  have flags : (terminal.gridWrapped.map fun _ => false) =
      List.replicate terminal.rows false := by
    rw [List.map_const', sized.gridWrapped]
  have alternateFlags : (terminal.alternateGridWrapped.map fun _ => false) =
      List.replicate terminal.rows false := by
    rw [List.map_const', sized.alternateWrapped]
  generalize known : terminal.resetState.events = events
  unfold resetState at known ⊢
  rw [damage_eq, known]
  simp only [freshLike, reframe, Terminal.new, rows, cols, flags,
    alternateFlags, push]

/-- A reset terminal stays like a fresh one under every sequence of calls
exactly if the program was on the primary screen and restoring the cursor
would put it home. -/
theorem resetState_fresh_iff
    {unicode : UnicodeWidth}
    {guard : Terminal → Call → Prop}
    {terminal : Terminal}
    (reachable : (machine unicode).Reachable guard terminal) :
    (∀ calls : List Call, (∀ call ∈ calls, call.isOutput = true) →
      Alike (terminal.resetState.run unicode calls)
        (terminal.freshLike.run unicode calls)) ↔
      terminal.alternateScreen = false ∧ terminal.restoredCursor = (0, 0) := by
  have sized := wellSized_of_reachable reachable
  have isReset := resetState_eq sized
  have rows : max terminal.rows 1 = terminal.rows := by
    have positive := sized.rows
    omega
  have cols : max terminal.cols 1 = terminal.cols := by
    have positive := sized.cols
    omega
  have home : terminal.freshLike.restoredCursor = (0, 0) := by
    simp [freshLike, restoredCursor, Terminal.new]
  have restored : terminal.resetState.restoredCursor =
      terminal.restoredCursor := by
    rw [isReset]
    simp only [restoredCursor, reframe, freshLike, Terminal.new, rows, cols]
  constructor
  · intro alike
    have now : Alike terminal.resetState terminal.freshLike :=
      alike [] (by simp)
    have screen := congrArg Terminal.alternateScreen now
    have saved := congrArg Terminal.savedCursor now
    constructor
    · rw [isReset] at screen
      exact screen
    · calc
        terminal.restoredCursor = terminal.resetState.restoredCursor :=
          restored.symm
        _ = terminal.freshLike.restoredCursor := saved
        _ = (0, 0) := home
  · rintro ⟨primary, toHome⟩ calls output
    have framed : terminal.resetState = terminal.freshLike.reframe
        terminal.resetState.events terminal.title terminal.savedCursor := by
      conv_lhs => rw [isReset]
      rw [primary]
      rfl
    have now : Alike terminal.freshLike terminal.resetState := by
      rw [framed]
      apply alike_reframe
      rw [← framed, restored, toHome, home]
    exact (now.run unicode calls output).symm

/-- A program that saved its cursor in the alternate screen. -/
def savedInAlternate : Terminal :=
  (Terminal.new 4 4 10).run latinAndHan
    [.goto 2 3, .saveCursorPosition, .privateMode 1049 true]

theorem reachable_savedInAlternate :
    (machine latinAndHan).Reachable (fun _ _ => True) savedInAlternate :=
  reachable_apply (reachable_apply (reachable_apply
    (.initial ⟨4, 4, 10, rfl⟩) (.goto 2 3) trivial) .saveCursorPosition trivial)
    (.privateMode 1049 true) trivial

theorem resetState_fresh_savedInAlternate :
    (∀ calls : List Call, (∀ call ∈ calls, call.isOutput = true) →
      Alike (savedInAlternate.resetState.run latinAndHan calls)
        (savedInAlternate.freshLike.run latinAndHan calls)) ↔
      savedInAlternate.alternateScreen = false ∧
        savedInAlternate.restoredCursor = (0, 0) :=
  resetState_fresh_iff reachable_savedInAlternate

/-- After the reset the flag of the alternate screen is still set, so that a
full scroll keeps no history, and restoring the cursor leads away from home;
a fresh terminal keeps the row and stays at home. -/
theorem resetState_remembers :
    (machine latinAndHan).Reachable (fun _ _ => True) savedInAlternate ∧
      savedInAlternate.resetState.alternateScreen = true ∧
      savedInAlternate.freshLike.alternateScreen = false ∧
      (savedInAlternate.resetState.run latinAndHan
        [.scrollUp 1]).history.length = 0 ∧
      (savedInAlternate.freshLike.run latinAndHan
        [.scrollUp 1]).history.length = 1 ∧
      (savedInAlternate.resetState.run latinAndHan
        [.restoreCursorPosition]).cursorRow = 2 ∧
      (savedInAlternate.freshLike.run latinAndHan
        [.restoreCursorPosition]).cursorRow = 0 := by
  refine ⟨reachable_savedInAlternate, ?_⟩
  decide +kernel

end Terminal
end Vvmux
