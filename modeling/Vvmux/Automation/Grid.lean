import Vvmux.Automation.Pane

/-!
# Grid snapshots

`grid_snapshot`: the rows of a pane with their cells, all of them or, for a
client that has seen an earlier screen sequence, those that changed since.
Cells name their styles by the position in the snapshot's table of styles.
`style_json` and `color_json` only render what is in that table.
-/

namespace Vvmux

open Library

namespace Automation

open Layout (PaneId)
open Session (AutomationError)
open Screen (Cell TerminalColor UnderlineStyle TerminalHyperlink)
open Terminal (Row GridCell resized)

/-- `AUTOMATION_REPLY_LIMIT` -/
def automationReplyLimit : Nat := 16 * 1024 * 1024

/-- `isize::MAX` -/
def isizeMax : Int := 9223372036854775807

/-! ## Styles -/

structure StyleKey where
  foreground : TerminalColor
  background : TerminalColor
  underlineColor : Option TerminalColor
  bold : Bool
  dim : Bool
  italic : Bool
  underline : UnderlineStyle
  blink : Bool
  inverse : Bool
  hidden : Bool
  strikeout : Bool
  hyperlink : Option TerminalHyperlink
deriving DecidableEq

/-- `StyleKey::from` -/
def StyleKey.ofCell (cell : Cell) : StyleKey where
  foreground := cell.foreground
  background := cell.background
  underlineColor := cell.underlineColor
  bold := cell.bold
  dim := cell.dim
  italic := cell.italic
  underline := cell.underlineStyle
  blink := cell.blink
  inverse := cell.inverse
  hidden := cell.hidden
  strikeout := cell.strikeout
  hyperlink := cell.hyperlink

/-- `style_ids.entry(key).or_insert_with(..)`: the position of a style in the
table, into which it is entered if it is new. -/
def internStyle
    (styles : List StyleKey)
    (key : StyleKey) : List StyleKey × Nat :=
  match styles.idxOf? key with
  | some id => (styles, id)
  | none => (styles ++ [key], styles.length)

variable (styles : List StyleKey)

theorem internStyle_finds
    (key : StyleKey) :
    (internStyle styles key).1[(internStyle styles key).2]? = some key := by
  unfold internStyle
  split
  · rename_i id position
    obtain ⟨inside, same, -⟩ := List.idxOf?_eq_some_iff.mp position
    exact List.getElem?_eq_some_iff.mpr ⟨inside, same⟩
  · exact List.getElem?_concat_length

theorem internStyle_extends
    (key : StyleKey) : styles <+: (internStyle styles key).1 := by
  unfold internStyle
  split
  · exact List.prefix_rfl
  · exact List.prefix_append _ _

/-! ## Cells -/

inductive CellKind where
  | continuation
  | leadingWideSpacer
  | tab
  | character
deriving DecidableEq

/-- A cell of a snapshot under the style `Style`: in the snapshot a position in
its table of styles, to a reader the style there. -/
structure SerializedCell (Style : Type) where
  text : String
  width : Nat
  kind : CellKind
  tabWidth : Option UInt16
  style : Style
deriving DecidableEq

/-- One cell of a row, before its style is known. -/
def serializeCell
    {Style : Type}
    (cell : Cell)
    (next : Option Cell)
    (style : Style) : SerializedCell Style where
  text :=
    if cell.wideContinuation || cell.leadingWideSpacer then ""
    else if cell.tabWidth.isSome then "\t"
    else cell.ch.toString ++ cell.combining
  width :=
    if cell.wideContinuation || cell.leadingWideSpacer then 0
    else if next.any Cell.wideContinuation then 2
    else 1
  kind :=
    if cell.wideContinuation then .continuation
    else if cell.leadingWideSpacer then .leadingWideSpacer
    else if cell.tabWidth.isSome then .tab
    else .character
  tabWidth := cell.tabWidth
  style := style

/-- The cells of a row, under a growing table of styles. -/
def serializeCells :
    List StyleKey → List Cell → List StyleKey × List (SerializedCell Nat)
  | styles, [] => (styles, [])
  | styles, cell :: rest =>
      let interned := internStyle styles (.ofCell cell)
      let serialized := serializeCells interned.1 rest
      (serialized.1,
        serializeCell cell rest.head? interned.2 :: serialized.2)

/-! ## Snapshots -/

structure GridRow where
  gridLine : Int
  viewportRow : Option Int
  wrapped : Bool
  cells : List (SerializedCell Nat)
deriving DecidableEq

structure Gap where
  requestedSequence : Nat
  oldestSequence : Option Nat
  currentSequence : Nat
  reason : String
deriving DecidableEq

structure GridCursor where
  line : Nat
  column : Nat
  visible : Bool
deriving DecidableEq

structure GridSelection where
  cursor : Nat × Nat
  start : Option (Int × Nat)
deriving DecidableEq

structure GridSnapshot where
  paneId : PaneId
  screenSequence : Nat
  sessionSequence : Nat
  full : Bool
  gap : Option Gap
  columns : Nat
  rowCount : Nat
  returnedStart : Option Int
  returnedEnd : Option Int
  historySize : Nat
  displayOffset : Nat
  screen : String
  terminalModes : List String
  cursor : GridCursor
  selection : Option GridSelection
  styles : List StyleKey
  rows : List GridRow
deriving DecidableEq

/-- `terminal_mode_names` -/
def terminalModeNames (modes : Terminal.TerminalModes) : List String :=
  (if modes.applicationCursor then ["application_cursor"] else []) ++
  (if modes.applicationKeypad then ["application_keypad"] else []) ++
  (if modes.bracketedPaste then ["bracketed_paste"] else []) ++
  (if modes.mouseClicks then ["mouse_clicks"] else []) ++
  (if modes.mouseMotion then ["mouse_motion"] else []) ++
  (if modes.sgrMouse then ["sgr_mouse"] else []) ++
  (if modes.focusReporting then ["focus_reporting"] else []) ++
  (if modes.cursorVisible then ["cursor_visible"] else [])

namespace Pane

/-- What `since_screen` selects. -/
structure SelectedRows where
  full : Bool
  gap : Option Gap
  /-- No rows stand for all of them. -/
  viewportRows : Option (List Nat)

/-- `BTreeSet::insert` -/
def insertRow (rows : List Nat) (row : Nat) : List Nat :=
  if row ∈ rows then rows else rows.orderedInsert (· ≤ ·) row

/-- The rows of some changes, ascending. -/
def collectRows (changes : List ScreenChange) : List Nat :=
  (changes.flatMap fun change => change.places.getD []).foldl insertRow []

/-- The rows that changed since a sequence that the log may not reach back
to. -/
def changedSince (pane : Pane) (since : Nat) : SelectedRows :=
  let oldest := (pane.screenChanges.head?.map LoggedChange.sequence).getD
    pane.screenSequence
  if saturatingAdd u64Max since 1 < oldest then
    { full := true
      gap := some
        { requestedSequence := since
          oldestSequence := some oldest
          currentSequence := pane.screenSequence
          reason := "history_evicted" }
      viewportRows := none }
  else
    let changes := pane.screenChanges.filter fun change =>
      since < change.sequence
    if changes.any fun change => change.places.isNone then
      { full := true, gap := none, viewportRows := none }
    else
      { full := false
        gap := none
        viewportRows := some (collectRows changes) }

/-- The part of `grid_snapshot` about `since_screen`. -/
def selectRows
    (pane : Pane)
    (startLine : Option Int)
    (rowCount : Option Nat)
    (sinceScreen : Option Nat) : Except AutomationError SelectedRows :=
  match sinceScreen with
  | none => .ok { full := true, gap := none, viewportRows := none }
  | some since =>
      if startLine.isSome || rowCount.isSome then
        .error
          { code := "invalid_params"
            message := "--since-screen conflicts with explicit line ranges" }
      else if pane.screenSequence < since then
        .error
          { code := "sequence_gap"
            message := "requested screen sequence is newer than the pane" }
      else if since = pane.screenSequence then
        .ok { full := false, gap := none, viewportRows := some [] }
      else if 0 < pane.displayOffset then
        .ok
          { full := true
            gap := some
              { requestedSequence := since
                oldestSequence :=
                  pane.screenChanges.head?.map LoggedChange.sequence
                currentSequence := pane.screenSequence
                reason := "copy_view" }
            viewportRows := none }
      else .ok (pane.changedSince since)

/-- The first line of the range and how many there are. -/
def lineRange
    (pane : Pane)
    (startLine : Option Int)
    (rowCount : Option Nat) : Int × Nat :=
  match startLine, rowCount with
  | some start, some count => (start, count)
  | _, _ => (-(pane.displayOffset : Int), pane.terminal.rows)

/-- The bytes a cell adds to the estimate. -/
def cellBytes (cell : Cell) (estimated : Nat) : Option Nat :=
  (checkedAdd u64Max estimated cell.combining.utf8ByteSize).bind fun size =>
    checkedAdd u64Max size ((cell.hyperlink.map fun link =>
      link.uri.utf8ByteSize + (link.id.map String.utf8ByteSize).getD 0).getD 0)

def estimateOverflows :
    AutomationError where
  code := "limit_exceeded"
  message := "grid reply size overflows"

/-- One turn of the loop that estimates the size of the reply. -/
def estimateRow
    (pane : Pane)
    (rangeStart : Int)
    (estimated row : Nat) : Except AutomationError Nat :=
  match pane.terminal.viewportLine (rangeStart + row) with
  | none => .ok estimated
  | some cells =>
      match (checkedAdd u64Max estimated
          (min (pane.terminal.cols * 160) u64Max)).bind fun estimated =>
        (cells.take pane.terminal.cols).foldlM
          (fun estimated cell => cellBytes cell.toCell estimated)
          estimated with
      | none => .error estimateOverflows
      | some estimated =>
          if automationReplyLimit < estimated then
            .error
              { code := "limit_exceeded"
                message :=
                  "estimated grid reply exceeds 16 MiB; request fewer rows" }
          else .ok estimated

/-- The rows of a snapshot, under a growing table of styles. -/
def serializeRows
    (pane : Pane)
    (rangeStart : Int)
    (count : Nat) :
    List StyleKey → List Nat → List StyleKey × List GridRow
  | styles, [] => (styles, [])
  | styles, row :: rest =>
      if count ≤ row then pane.serializeRows rangeStart count styles rest
      else
        let line := rangeStart + row
        match pane.terminal.viewportLine line with
        | none => pane.serializeRows rangeStart count styles rest
        | some source =>
            let cells := (resized source pane.terminal.cols {}).map
              GridCell.toCell
            let serialized := serializeCells styles cells
            let viewport := line + pane.displayOffset
            let others :=
              pane.serializeRows rangeStart count serialized.1 rest
            (others.1,
              { gridLine := line
                viewportRow :=
                  if 0 ≤ viewport ∧ viewport < pane.terminal.rows then
                    some viewport
                  else none
                wrapped := (pane.terminal.lineWrapped line).getD false
                cells := serialized.2 } :: others.2)

/-- Whether a range reaches outside the history and the screen. -/
def outside (pane : Pane) (range : Int × Nat) : Prop :=
  range.1 < -(pane.terminal.history.length : Int) ∨
    (pane.terminal.rows : Int) < range.1 ∨
    (pane.terminal.rows : Int) < min (range.1 + range.2) isizeMax

instance
    (pane : Pane)
    (range : Int × Nat) : Decidable (pane.outside range) :=
  inferInstanceAs (Decidable (_ ∨ _ ∨ _))

def outsideError (pane : Pane) : AutomationError where
  code := "invalid_params"
  message :=
    let availableStart : Int := -(pane.terminal.history.length : Int)
    let availableEnd := pane.terminal.rows
    s!"grid range must be within {availableStart}..{availableEnd}"

/-- The snapshot with some rows under their table of styles. -/
def snapshot
    (pane : Pane)
    (paneId : PaneId)
    (sessionSequence : Nat)
    (selected : SelectedRows)
    (serialized : List StyleKey × List GridRow) : GridSnapshot where
  paneId := paneId
  screenSequence := pane.screenSequence
  sessionSequence := sessionSequence
  full := selected.full
  gap := selected.gap
  columns := pane.terminal.cols
  rowCount := pane.terminal.rows
  returnedStart := serialized.2.head?.map GridRow.gridLine
  returnedEnd := serialized.2.getLast?.map GridRow.gridLine
  historySize := pane.terminal.history.length
  displayOffset := pane.displayOffset
  screen := if pane.terminal.alternateScreen then "alternate" else "primary"
  terminalModes := terminalModeNames pane.terminal.modes
  cursor :=
    { line := pane.terminal.cursorRow
      column := pane.terminal.cursorCol
      visible := pane.terminal.modes.cursorVisible }
  selection := pane.copy.map fun copy =>
    { cursor := (copy.row, copy.column)
      start := copy.selectionStart }
  styles := serialized.1
  rows := serialized.2

/-- `grid_snapshot` of a pane that exists. -/
def gridSnapshot
    (pane : Pane)
    (paneId : PaneId)
    (sessionSequence : Nat)
    (startLine : Option Int)
    (rowCount sinceScreen : Option Nat) : Except AutomationError GridSnapshot :=
  match pane.selectRows startLine rowCount sinceScreen with
  | .error refused => .error refused
  | .ok selected =>
      let range := pane.lineRange startLine rowCount
      if pane.outside range then .error pane.outsideError
      else
        let selectedRows := selected.viewportRows.getD (List.range range.2)
        match (selectedRows.filter fun row => row < range.2).foldlM
            (pane.estimateRow range.1) 4096 with
        | .error refused => .error refused
        | .ok _ =>
            .ok (pane.snapshot paneId sessionSequence selected
              (pane.serializeRows range.1 range.2 [] selectedRows))

/-- A snapshot that is taken holds the selected rows. -/
theorem gridSnapshot_ok
    {pane : Pane}
    {paneId : PaneId}
    {sessionSequence : Nat}
    {startLine : Option Int}
    {rowCount sinceScreen : Option Nat}
    {taken : GridSnapshot}
    (ok : pane.gridSnapshot paneId sessionSequence startLine rowCount
      sinceScreen = .ok taken) :
    ∃ selected,
      pane.selectRows startLine rowCount sinceScreen = .ok selected ∧
        ¬ pane.outside (pane.lineRange startLine rowCount) ∧
        taken = pane.snapshot paneId sessionSequence selected
          (pane.serializeRows (pane.lineRange startLine rowCount).1
            (pane.lineRange startLine rowCount).2 []
            (selected.viewportRows.getD
              (List.range (pane.lineRange startLine rowCount).2))) := by
  unfold gridSnapshot at ok
  split at ok
  · cases ok
  · rename_i selected selects
    dsimp only at ok
    split at ok
    · cases ok
    · rename_i within
      split at ok
      · cases ok
      · cases ok
        exact ⟨selected, selects, within, rfl⟩

end Pane

/-! ## What a snapshot says -/

/-- A row as a reader sees it. -/
structure ShownRow where
  wrapped : Bool
  cells : List (SerializedCell (Option StyleKey))
deriving DecidableEq

/-- Look a style up in a table. -/
def SerializedCell.under
    (styles : List StyleKey)
    (cell : SerializedCell Nat) : SerializedCell (Option StyleKey) :=
  { cell with style := styles[cell.style]? }

/-- A row of a snapshot with the given table of styles. -/
def GridRow.shown (styles : List StyleKey) (row : GridRow) : ShownRow where
  wrapped := row.wrapped
  cells := row.cells.map (SerializedCell.under styles)

/-- What a snapshot says of a viewport row. -/
def GridSnapshot.shows (taken : GridSnapshot) (row : Nat) : Option ShownRow :=
  (taken.rows.find? fun entry => entry.viewportRow = some (row : Int)).map
    (GridRow.shown taken.styles)

/-- The cells of a row as a reader sees them. -/
def shownCells :
    List Cell → List (SerializedCell (Option StyleKey))
  | [] => []
  | cell :: rest =>
      serializeCell cell rest.head? (some (.ofCell cell)) :: shownCells rest

/-- What is in a row of a pane's viewport. -/
def Pane.viewportRow (pane : Pane) (row : Nat) : Option ShownRow :=
  if row < pane.terminal.rows then
    let line := -(pane.displayOffset : Int) + row
    (pane.terminal.viewportLine line).map fun source =>
      { wrapped := (pane.terminal.lineWrapped line).getD false
        cells := shownCells
          ((resized source pane.terminal.cols {}).map GridCell.toCell) }
  else none

theorem serializeCells_extends
    (cells : List Cell) : styles <+: (serializeCells styles cells).1 := by
  induction cells generalizing styles with
  | nil => exact List.prefix_rfl
  | cons cell rest ih =>
      exact (internStyle_extends styles _).trans (ih _)

/-- The cells of a row keep their styles under every larger table. -/
theorem serializeCells_shown
    {styles table : List StyleKey}
    (cells : List Cell)
    (within : (serializeCells styles cells).1 <+: table) :
    (serializeCells styles cells).2.map (SerializedCell.under table) =
      shownCells cells := by
  induction cells generalizing styles with
  | nil => rfl
  | cons cell rest ih =>
      have here : table[(internStyle styles (.ofCell cell)).2]? =
          some (.ofCell cell) := by
        obtain ⟨more, same⟩ := (serializeCells_extends
          (internStyle styles (.ofCell cell)).1 rest).trans within
        have finds := internStyle_finds styles (.ofCell cell)
        obtain ⟨inside, -⟩ := List.getElem?_eq_some_iff.mp finds
        rw [← same, List.getElem?_append_left inside]
        exact finds
      simp only [serializeCells, List.map_cons, shownCells]
      congr 1
      · simp only [SerializedCell.under, serializeCell, here]
      · exact ih within

theorem serializeRows_extends
    (pane : Pane)
    (rangeStart : Int)
    (count : Nat)
    (styles : List StyleKey)
    (rows : List Nat) :
    styles <+: (pane.serializeRows rangeStart count styles rows).1 := by
  induction rows generalizing styles with
  | nil => exact List.prefix_rfl
  | cons row rest ih =>
      unfold Pane.serializeRows
      split
      · exact ih styles
      · dsimp only
        split
        · exact ih styles
        · exact (serializeCells_extends styles _).trans
            (ih _)

/-- The viewport rows of a snapshot say what is in those rows. -/
theorem serializeRows_shows
    (pane : Pane)
    {styles table : List StyleKey}
    (rows : List Nat)
    (within : (pane.serializeRows (-(pane.displayOffset : Int))
      pane.terminal.rows styles rows).1 <+: table)
    (row : Nat) :
    ((pane.serializeRows (-(pane.displayOffset : Int)) pane.terminal.rows styles
        rows).2.find? fun entry => entry.viewportRow = some (row : Int)).map
          (GridRow.shown table) =
      if row ∈ rows then pane.viewportRow row else none := by
  induction rows generalizing styles with
  | nil => simp [Pane.serializeRows]
  | cons first rest ih =>
      -- A row that is left out shows nothing anyway.
      have skips : (pane.serializeRows (-(pane.displayOffset : Int))
          pane.terminal.rows styles rest).1 <+: table →
            pane.viewportRow first = none →
              ((pane.serializeRows (-(pane.displayOffset : Int))
                pane.terminal.rows styles rest).2.find? fun entry =>
                  entry.viewportRow = some (row : Int)).map
                    (GridRow.shown table) =
                if row ∈ first :: rest then pane.viewportRow row else none := by
        intro within nothing
        rw [ih within]
        by_cases here : row = first
        · rw [here, nothing]
          simp
        · simp [here]
      unfold Pane.serializeRows at within ⊢
      split at within
      · rename_i below
        rw [if_pos below]
        apply skips within
        rw [Pane.viewportRow, if_neg (Nat.not_lt.mpr below)]
      · rename_i inside
        rw [if_neg inside]
        dsimp only at within ⊢
        cases known : pane.terminal.viewportLine
            (-(pane.displayOffset : Int) + first) with
        | none =>
            simp only [known] at within ⊢
            apply skips within
            simp [Pane.viewportRow, known]
        | some source =>
            simp only [known] at within ⊢
            have shown := (serializeRows_extends pane _ _ _ rest).trans within
            have position : -(pane.displayOffset : Int) + first +
                pane.displayOffset = first := by omega
            have visible : (0 : Int) ≤ first ∧
                (first : Int) < pane.terminal.rows := by omega
            rw [position, if_pos visible, List.find?_cons]
            by_cases here : row = first
            · subst here
              have cells := serializeCells_shown _ shown
              simp only [decide_true, Option.map_some, List.mem_cons, true_or,
                if_true]
              rw [Pane.viewportRow, if_pos (by omega)]
              simp only [known, Option.map_some, GridRow.shown, cells]
            · have other : ¬ (some (first : Int) = some (row : Int)) := by
                intro same
                exact here (by simpa using same.symm)
              simp only [other, decide_false, List.mem_cons, here, false_or]
              exact ih within

end Automation
end Vvmux
