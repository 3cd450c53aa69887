import Vvmux.Library.ChangeLog
import Vvmux.Session.Actor
import Vvmux.Terminal.Shape

/-!
# The screen of a pane

A pane of `session.rs` as far as it is looked at: its terminal, its copy view,
and the log of its screen changes.  The parser and the marker scanner are not
part of the model, so output arrives as the calls they make.  Drawing, input
queues, media anchors and the clipboard are left out.
-/

namespace Vvmux

open Library

namespace Terminal

/-- A call made while output is processed. -/
abbrev OutputCall := { call : Call // call.isOutput = true }

/-- `Terminal::feed` of a read that is not empty. -/
def feed
    (unicode : UnicodeWidth)
    (terminal : Terminal)
    (calls : List OutputCall) : Terminal × List TerminalEvent :=
  let processed := (calls.foldl (fun terminal call =>
    terminal.apply unicode call.val) terminal).damage
  ({ processed with events := [] }, processed.events)

/-- `Terminal::cells` -/
def cells (terminal : Terminal) : List (List Screen.Cell) :=
  terminal.grid.map fun row => row.map GridCell.toCell

/-- `Terminal::cursor` -/
def cursor (terminal : Terminal) : Nat × Nat :=
  (terminal.cursorRow, terminal.cursorCol)

theorem WellSized.feed
    {terminal : Terminal}
    (sized : WellSized terminal)
    (unicode : UnicodeWidth)
    (calls : List OutputCall) : WellSized (terminal.feed unicode calls).1 := by
  have processed : WellSized (calls.foldl (fun terminal call =>
      terminal.apply unicode call.val) terminal) := by
    induction calls generalizing terminal with
    | nil => exact sized
    | cons call rest ih =>
        exact ih (sized.apply unicode call.val)
  exact processed.damage.withEvents []

theorem sameSize_feed
    (unicode : UnicodeWidth)
    (terminal : Terminal)
    (calls : List OutputCall) :
    SameSize terminal (terminal.feed unicode calls).1 := by
  have processed : SameSize terminal (calls.foldl (fun terminal call =>
      terminal.apply unicode call.val) terminal) := by
    induction calls generalizing terminal with
    | nil => exact SameSize.refl terminal
    | cons call rest ih =>
        exact (sameSize_apply unicode terminal call.property).trans
          (ih _)
  have damaged := processed.trans (sameSize_damage _)
  exact { damaged with }

end Terminal

namespace Automation

open Session (MouseEvent MouseKind)
open Terminal (UnicodeWidth OutputCall TerminalEvent)

/-- `SCREEN_CHANGE_HISTORY` -/
def screenChangeHistory : Nat := 1024

structure CopyState where
  offset : Nat
  row : Nat
  column : Nat
  selectionStart : Option (Int × Nat)
deriving DecidableEq

/-- `ScreenChange`; its places are viewport rows. -/
abbrev ScreenChange := LoggedChange Nat

structure Pane where
  terminal : Terminal
  copy : Option CopyState
  screenSequence : Nat
  lastScreenChange : Nat
  screenChanges : List ScreenChange
deriving DecidableEq

namespace Pane

/-- A pane as `spawn_pane` enters it. -/
def spawned (scrollbackLines now : Nat) : Pane where
  terminal := Terminal.new 22 80 scrollbackLines
  copy := none
  screenSequence := 1
  lastScreenChange := now
  screenChanges := []

/-- `pane.copy.as_ref().map_or(0, |copy| copy.offset)` -/
def displayOffset (pane : Pane) : Nat :=
  (pane.copy.map CopyState.offset).getD 0

/-- `mark_pane_screen_change` -/
def markScreenChange
    (pane : Pane)
    (rows : Option (List Nat))
    (now : Nat) : Pane :=
  let sequence := Session.wrappingAdd pane.screenSequence 1
  { pane with
    screenSequence := sequence
    lastScreenChange := now
    screenChanges :=
      keepLast screenChangeHistory (pane.screenChanges ++ [⟨sequence, rows⟩]) }

end Pane

/-! ## Output -/

/-- `changed_rows` -/
def changedRows (previous current : List (List Screen.Cell)) : List Nat :=
  (List.range (max previous.length current.length)).filter fun row =>
    previous[row]? != current[row]?

/-- `semantic_changed` of the `PtyOutput` event. -/
def semanticChanged (before after : Terminal) : Bool :=
  before.cells != after.cells || before.cursor != after.cursor ||
    before.modes != after.modes ||
    before.alternateScreen != after.alternateScreen

/-- The `PtyOutput` event. -/
def Pane.output
    (unicode : UnicodeWidth)
    (pane : Pane)
    (calls : List OutputCall)
    (now : Nat) : Pane × List TerminalEvent :=
  let fed := pane.terminal.feed unicode calls
  let after := { pane with terminal := fed.1 }
  if semanticChanged pane.terminal fed.1 then
    let rows := changedRows pane.terminal.cells fed.1.cells
    let rows :=
      if pane.terminal.alternateScreen = fed.1.alternateScreen then some rows
      else none
    (after.markScreenChange rows now, fed.2)
  else (after, fed.2)

/-- What `resize_all` does to a pane that is shown at a size. -/
def Pane.resize (pane : Pane) (height width now : Nat) : Pane :=
  if pane.terminal.rows ≠ height ∨ pane.terminal.cols ≠ width then
    { pane with terminal := pane.terminal.resize height width }.markScreenChange
      none now
  else pane

/-! ## Copy mode -/

/-- `Action::EnterCopyMode`, with the height of the content area. -/
def Pane.enterCopyMode (pane : Pane) (contentHeight now : Nat) : Pane :=
  let rows := contentHeight - 2
  { pane with
    copy := some
      { offset := 0
        row := rows - 1
        column := 0
        selectionStart := none } }.markScreenChange none now

/-- The bytes of an ASCII text. -/
def ascii (text : String) : List UInt8 :=
  text.toList.map fun ch => UInt8.ofNat ch.toNat

/-- `copy_chord_name` -/
def copyChordName (bytes : List UInt8) : Option String :=
  if bytes = ascii "\x1b[A" then some "Up"
  else if bytes = ascii "\x1b[B" then some "Down"
  else if bytes = ascii "\x1b[C" then some "Right"
  else if bytes = ascii "\x1b[D" then some "Left"
  else if bytes = ascii "\x1b[5~" then some "PageUp"
  else if bytes = ascii "\x1b[6~" then some "PageDown"
  else if bytes = ascii " " then some "Space"
  else if bytes = ascii "\r" ∨ bytes = ascii "\n" then some "Enter"
  else if bytes = ascii "q" then some "q"
  else if bytes = ascii "\x1b" then some "Escape"
  else none

/-- `copy_action_bytes` -/
def copyActionBytes (action : String) : Option (List UInt8) :=
  match action with
  | "up" => some (ascii "\x1b[A")
  | "down" => some (ascii "\x1b[B")
  | "left" => some (ascii "\x1b[D")
  | "right" => some (ascii "\x1b[C")
  | "page-up" => some (ascii "\x1b[5~")
  | "page-down" => some (ascii "\x1b[6~")
  | "start-selection" => some (ascii " ")
  | "copy" => some (ascii "\r")
  | "cancel" => some (ascii "q")
  | _ => none

/-- The copy state after a key; none once copy mode is left. -/
def CopyState.key
    (copy : CopyState)
    (terminal : Terminal)
    (bytes : List UInt8) : Option CopyState :=
  if bytes = ascii "q" ∨ bytes = ascii "\x1b" then none
  else if bytes = ascii "\x1b[A" then
    if copy.row = 0 then
      some { copy with
        offset := min (copy.offset + 1) terminal.history.length }
    else some { copy with row := copy.row - 1 }
  else if bytes = ascii "\x1b[B" then
    if terminal.rows ≤ copy.row + 1 ∧ 0 < copy.offset then
      some { copy with offset := copy.offset - 1 }
    else some { copy with row := min (copy.row + 1) (terminal.rows - 1) }
  else if bytes = ascii "\x1b[C" then
    some { copy with column := min (copy.column + 1) (terminal.cols - 1) }
  else if bytes = ascii "\x1b[D" then
    some { copy with column := copy.column - 1 }
  else if bytes = ascii "\x1b[5~" then
    some { copy with
      offset := min (copy.offset + terminal.rows) terminal.history.length }
  else if bytes = ascii "\x1b[6~" then
    some { copy with offset := copy.offset - terminal.rows }
  else if bytes = ascii " " then
    some { copy with
      selectionStart := some ((copy.row : Int) - copy.offset, copy.column) }
  else if bytes = ascii "\r" ∨ bytes = ascii "\n" then none
  else some copy

/-- `copy_input`, under the keys that the configuration gives other actions. -/
def Pane.copyInput
    (keys : String → Option String)
    (pane : Pane)
    (bytes : List UInt8)
    (now : Nat) : Pane :=
  match pane.copy with
  | none => pane
  | some copy =>
      let remapped := ((copyChordName bytes).bind keys).bind copyActionBytes
      let after := copy.key pane.terminal (remapped.getD bytes)
      let moved := { pane with copy := after }
      if after ≠ some copy then moved.markScreenChange none now else moved

/-! ## Mouse -/

/-- `application_mouse` -/
def Pane.applicationMouse (pane : Pane) (event : MouseEvent) : Bool :=
  !event.shift && (pane.terminal.modes.mouseClicks ||
    (event.kind == .move && pane.terminal.modes.mouseMotion))

/-- The copy view after a turn of the wheel, or a press with Shift. -/
def Pane.scrollCopyView (pane : Pane) (event : MouseEvent) : Pane :=
  let copy := pane.copy.getD
    { offset := 0
      row := 0
      column := 0
      selectionStart := none }
  if event.button = 0 then
    { pane with copy := some { copy with
        offset := min (copy.offset + 3) pane.terminal.history.length } }
  else
    let offset := copy.offset - 3
    if offset = 0 ∧ event.shift = false then { pane with copy := none }
    else { pane with copy := some { copy with offset := offset } }

/-- What `mouse` does to the pane whose content an event is in. -/
def Pane.mouse (pane : Pane) (event : MouseEvent) : Pane :=
  if pane.applicationMouse event then pane
  else if event.kind = .wheel ∨ event.shift = true then
    pane.scrollCopyView event
  else pane

/-! ## Steps -/

/-- The events that reach the screen of a pane, at a time. -/
inductive PaneEvent where
  | output (calls : List OutputCall) (now : Nat)
  | resize (height width now : Nat)
  | enterCopyMode (contentHeight now : Nat)
  | copyInput (bytes : List UInt8) (now : Nat)
  | mouse (event : MouseEvent)

def paneStep
    (unicode : UnicodeWidth)
    (keys : String → Option String)
    (pane : Pane) :
    PaneEvent → Pane
  | .output calls now => (pane.output unicode calls now).1
  | .resize height width now => pane.resize height width now
  | .enterCopyMode contentHeight now => pane.enterCopyMode contentHeight now
  | .copyInput bytes now => pane.copyInput keys bytes now
  | .mouse event => pane.mouse event

def paneMachine
    (unicode : UnicodeWidth)
    (keys : String → Option String) : Machine Pane PaneEvent where
  initial pane :=
    ∃ scrollbackLines now, pane = Pane.spawned scrollbackLines now
  step before event after := after = paneStep unicode keys before event

/-! ## Sizes -/

variable (pane : Pane)

theorem Pane.markScreenChange_screenChanges
    (rows : Option (List Nat))
    (now : Nat) :
    (pane.markScreenChange rows now).screenChanges =
      keepLast screenChangeHistory (pane.screenChanges ++
        [⟨(pane.markScreenChange rows now).screenSequence, rows⟩]) := by
  simp only [Pane.markScreenChange]

@[simp] theorem Pane.output_terminal
    (unicode : UnicodeWidth)
    (pane : Pane)
    (calls : List OutputCall)
    (now : Nat) :
    (pane.output unicode calls now).1.terminal =
      (pane.terminal.feed unicode calls).1 := by
  unfold Pane.output
  dsimp only
  split <;> rfl

@[simp] theorem Pane.output_copy
    (unicode : UnicodeWidth)
    (pane : Pane)
    (calls : List OutputCall)
    (now : Nat) : (pane.output unicode calls now).1.copy = pane.copy := by
  unfold Pane.output
  dsimp only
  split <;> rfl

@[simp] theorem Pane.copyInput_terminal
    (keys : String → Option String)
    (pane : Pane)
    (bytes : List UInt8)
    (now : Nat) : (pane.copyInput keys bytes now).terminal = pane.terminal := by
  unfold Pane.copyInput
  split
  · rfl
  · dsimp only
    split <;> rfl

@[simp] theorem Pane.mouse_terminal
    (event : MouseEvent) : (pane.mouse event).terminal = pane.terminal := by
  unfold Pane.mouse Pane.scrollCopyView
  dsimp only
  split_ifs <;> rfl

/-- Every step keeps the sizes of the terminal. -/
theorem wellSized_paneStep
    {pane : Pane}
    (sized : Terminal.WellSized pane.terminal)
    (unicode : UnicodeWidth)
    (keys : String → Option String)
    (event : PaneEvent) :
    Terminal.WellSized (paneStep unicode keys pane event).terminal := by
  cases event with
  | output calls now =>
      simp only [paneStep, Pane.output_terminal]
      exact sized.feed unicode calls
  | resize height width now =>
      simp only [paneStep, Pane.resize]
      split
      · exact sized.resize height width
      · exact sized
  | enterCopyMode contentHeight now => exact sized
  | copyInput bytes now =>
      simp only [paneStep, Pane.copyInput_terminal]
      exact sized
  | mouse event =>
      simp only [paneStep, Pane.mouse_terminal]
      exact sized

/-- The sizes of the terminal hold in every state of every run. -/
theorem wellSized_of_reachable_pane
    {unicode : UnicodeWidth}
    {keys : String → Option String}
    {guard : Pane → PaneEvent → Prop}
    {pane : Pane}
    (reachable : (paneMachine unicode keys).Reachable guard pane) :
    Terminal.WellSized pane.terminal := by
  apply reachable.invariant
  · rintro start ⟨scrollbackLines, now, rfl⟩
    exact Terminal.WellSized.new 22 80 scrollbackLines
  · rintro before event after sized _ rfl
    exact wellSized_paneStep sized unicode keys event

end Automation
end Vvmux
