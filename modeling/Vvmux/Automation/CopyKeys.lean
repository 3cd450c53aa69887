import Mathlib.Data.List.DropRight
import Vvmux.Automation.Pane
import Vvmux.Client.PrefixParser
import Vvmux.Terminal.Text

/-!
# The keys of copy mode

`copy_input` reads a whole message as one key.  The prefix parser hands the
keys of one read over in one message, which is then no key at all and changes
nothing.  Two keys have the same effect in one message and in two exactly when
the second gives back what the first has changed.
-/

namespace Vvmux
namespace Automation

open Library
open Client (PrefixParser Reading)
open Terminal (UnicodeWidth)

/-! ## What Enter copies -/

/-- The text of one line of a selection, from a column to another. -/
def selectedText (line : Terminal.Row) (first last : Nat) : List Char :=
  let last := min last line.length
  (line.textFrom last line.length (min first line.length)).rdropWhile (· = ' ')

/-- `extract_selection` -/
def extractSelection
    (terminal : Terminal)
    (start stop : Int × Nat) : List UInt8 :=
  let ordered := start.1 < stop.1 ∨ (start.1 = stop.1 ∧ start.2 ≤ stop.2)
  let (start, stop) := if ordered then (start, stop) else (stop, start)
  let lines := (List.range (stop.1 - start.1 + 1).toNat).map fun index =>
    start.1 + (index : Int)
  let text := lines.flatMap fun lineIndex =>
    match terminal.viewportLine lineIndex with
    | none => []
    | some line =>
        let first := if lineIndex = start.1 then start.2 else 0
        let last := if lineIndex = stop.1 then stop.2 + 1 else line.length
        let wrapped := (terminal.lineWrapped lineIndex).getD false
        selectedText line first last ++
          if lineIndex ≠ stop.1 ∧ wrapped = false then ['\n'] else []
  text.flatMap String.utf8EncodeChar

/-- `COPY_BUFFER_LIMIT` -/
def copyBufferLimit : Nat := 1024 * 1024

/-- The copy buffer after Enter. -/
def CopyState.copied (copy : CopyState) (terminal : Terminal) : List UInt8 :=
  let stop := ((copy.row : Int) - copy.offset, copy.column)
  let start := copy.selectionStart.getD (-(copy.offset : Int), 0)
  (extractSelection terminal start stop).take copyBufferLimit

/-! ## Messages -/

/-- A pane with the copy buffer of its session. -/
structure CopyView where
  pane : Pane
  copyBuffer : List UInt8

/-- The bytes that `copy_input` matches, under the configured keys. -/
def remapKey
    (keys : String → Option String)
    (bytes : List UInt8) : List UInt8 :=
  (((copyChordName bytes).bind keys).bind copyActionBytes).getD bytes

/-- `copy_input` -/
def CopyView.copyInput
    (keys : String → Option String)
    (view : CopyView)
    (bytes : List UInt8)
    (now : Nat) : CopyView where
  pane := view.pane.copyInput keys bytes now
  copyBuffer :=
    match view.pane.copy with
    | none => view.copyBuffer
    | some copy =>
        let bytes := remapKey keys bytes
        if bytes = ascii "\r" ∨ bytes = ascii "\n" then
          copy.copied view.pane.terminal
        else view.copyBuffer

/-- `input`, for the focused pane; outside of copy mode the bytes go to the
queue of the pane. -/
def CopyView.input
    (keys : String → Option String)
    (view : CopyView)
    (bytes : List UInt8)
    (now : Nat) : CopyView :=
  if view.pane.copy.isSome then view.copyInput keys bytes now else view

/-- The encodings of the arrows, Page Up and Page Down, Space, Enter and q. -/
def copyKeys : List (List UInt8) :=
  [ascii "\x1b[A", ascii "\x1b[B", ascii "\x1b[C", ascii "\x1b[D",
    ascii "\x1b[5~", ascii "\x1b[6~", ascii " ", ascii "\r", ascii "\n",
    ascii "q"]

/-- Two keys leave the same copy state and the same copy buffer in one message
and in two. -/
def SameInOneMessage
    (keys : String → Option String)
    (view : CopyView)
    (first second : List UInt8) : Prop :=
  ∀ now later,
    let together := view.input keys (first ++ second) now
    let apart := (view.input keys first now).input keys second later
    together.pane.copy = apart.pane.copy ∧
      together.copyBuffer = apart.copyBuffer

/-! ## What a key changes -/

inductive CopyAction where
  | up
  | down
  | left
  | right
  | pageUp
  | pageDown
  | startSelection
  | copy
  | cancel
deriving DecidableEq

namespace CopyAction

/-- The action of a message, if it is a key. -/
def ofBytes (bytes : List UInt8) : Option CopyAction :=
  if bytes = ascii "q" ∨ bytes = ascii "\x1b" then some .cancel
  else if bytes = ascii "\x1b[A" then some .up
  else if bytes = ascii "\x1b[B" then some .down
  else if bytes = ascii "\x1b[C" then some .right
  else if bytes = ascii "\x1b[D" then some .left
  else if bytes = ascii "\x1b[5~" then some .pageUp
  else if bytes = ascii "\x1b[6~" then some .pageDown
  else if bytes = ascii " " then some .startSelection
  else if bytes = ascii "\r" ∨ bytes = ascii "\n" then some .copy
  else none

/-- The copy state after an action; none once copy mode is left. -/
def press
    (action : CopyAction)
    (terminal : Terminal)
    (copy : CopyState) : Option CopyState :=
  match action with
  | .up =>
      if copy.row = 0 then
        some { copy with
          offset := min (copy.offset + 1) terminal.history.length }
      else some { copy with row := copy.row - 1 }
  | .down =>
      if terminal.rows ≤ copy.row + 1 ∧ 0 < copy.offset then
        some { copy with offset := copy.offset - 1 }
      else some { copy with row := min (copy.row + 1) (terminal.rows - 1) }
  | .right =>
      some { copy with column := min (copy.column + 1) (terminal.cols - 1) }
  | .left => some { copy with column := copy.column - 1 }
  | .pageUp =>
      some { copy with
        offset := min (copy.offset + terminal.rows) terminal.history.length }
  | .pageDown => some { copy with offset := copy.offset - terminal.rows }
  | .startSelection =>
      some { copy with
        selectionStart := some ((copy.row : Int) - copy.offset, copy.column) }
  | .copy | .cancel => none

/-- The action has nothing to change. -/
def Rests
    (action : CopyAction)
    (terminal : Terminal)
    (copy : CopyState) : Prop :=
  match action with
  | .up => copy.row = 0 ∧ copy.offset = terminal.history.length
  | .down => copy.row + 1 = terminal.rows ∧ copy.offset = 0
  | .right => copy.column + 1 = terminal.cols
  | .left => copy.column = 0
  | .pageUp => copy.offset = terminal.history.length
  | .pageDown => copy.offset = 0
  | .startSelection =>
      copy.selectionStart = some ((copy.row : Int) - copy.offset, copy.column)
  | .copy | .cancel => False

/-- The second action takes the view back to where it was before the first. -/
def TakesBack
    (second first : CopyAction)
    (terminal : Terminal)
    (copy : CopyState) : Prop :=
  let rows := terminal.rows
  let history := terminal.history.length
  match first, second with
  | .left, .right => 0 < copy.column ∧ copy.column < terminal.cols
  | .right, .left => copy.column + 1 < terminal.cols
  | .up, .down =>
      (0 < copy.row ∧ copy.row < rows) ∨
        (copy.row = 0 ∧ rows = 1 ∧ copy.offset < history)
  | .down, .up =>
      copy.row + 1 < rows ∨
        (copy.row = 0 ∧ rows = 1 ∧ 0 < copy.offset ∧ copy.offset ≤ history)
  | .pageUp, .pageDown => copy.offset = 0 ∨ copy.offset + rows ≤ history
  | .pageDown, .pageUp =>
      copy.offset = history ∨ (rows ≤ copy.offset ∧ copy.offset ≤ history)
  | .up, .pageDown =>
      copy.row = 0 ∧ (copy.offset = 0 ∨ (rows = 1 ∧ copy.offset < history))
  | .pageDown, .up =>
      copy.row = 0 ∧ 0 < copy.offset ∧ copy.offset ≤ history ∧
        (rows = 1 ∨ copy.offset = 1)
  | .pageUp, .down =>
      rows ≤ copy.row + 1 ∧ copy.offset < history ∧
        (rows = 1 ∨ copy.offset + 1 = history)
  | .down, .pageUp =>
      rows ≤ copy.row + 1 ∧ 0 < copy.offset ∧ copy.offset ≤ history ∧
        (rows = 1 ∨ copy.offset = history)
  | _, _ => False

/-- A key of `copy_input` presses its action. -/
theorem key_eq_press
    (copy : CopyState)
    (terminal : Terminal)
    (bytes : List UInt8) :
    copy.key terminal bytes =
      match ofBytes bytes with
      | some action => action.press terminal copy
      | none => some copy := by
  unfold CopyState.key ofBytes
  split_ifs <;> simp_all [press]

/-! ## One action -/

/-- The parts of a copy state. -/
inductive Part where
  | place
  | column
  | selection
deriving DecidableEq

/-- The part that an action changes, as long as it stays in copy mode. -/
def part :
    CopyAction → Part
  | .up | .down | .pageUp | .pageDown => .place
  | .left | .right => .column
  | .startSelection | .copy | .cancel => .selection

/-- Two copy states that differ in one part at most. -/
structure DiffersIn (part : Part) (before after : CopyState) : Prop where
  place : part ≠ .place →
    after.offset = before.offset ∧ after.row = before.row
  column : part ≠ .column → after.column = before.column
  selection : part ≠ .selection →
    after.selectionStart = before.selectionStart

variable {terminal : Terminal} {first second : CopyAction} {copy : CopyState}

theorem differsIn_press
    {action : CopyAction}
    {copy moved : CopyState}
    (pressed : action.press terminal copy = some moved) :
    DiffersIn action.part copy moved := by
  cases action <;> simp only [press] at pressed
  case copy => cases pressed
  case cancel => cases pressed
  case up =>
    split at pressed <;> cases pressed <;> constructor <;> simp [part]
  case down =>
    split at pressed <;> cases pressed <;> constructor <;> simp [part]
  all_goals
    cases pressed
    constructor <;> simp [part]

/-- Nothing changes exactly when the action rests. -/
theorem press_eq_self_iff
    (rows : 0 < terminal.rows)
    (cols : 0 < terminal.cols)
    (action : CopyAction)
    (copy : CopyState) :
    action.press terminal copy = some copy ↔ action.Rests terminal copy := by
  obtain ⟨offset, row, column, selectionStart⟩ := copy
  cases action <;> simp only [press, Rests]
  case up =>
    split <;>
      simp only [Option.some.injEq, CopyState.mk.injEq, true_and, and_true] <;>
      omega
  case down =>
    split <;>
      simp only [Option.some.injEq, CopyState.mk.injEq, true_and, and_true] <;>
      omega
  case startSelection =>
    simp only [Option.some.injEq, CopyState.mk.injEq, true_and]
    exact eq_comm
  case copy => simp only [reduceCtorEq]
  case cancel => simp only [reduceCtorEq]
  all_goals
    simp only [Option.some.injEq, CopyState.mk.injEq, true_and, and_true]
    omega

/-! ## Two actions -/

/-- What changes in one part and is changed back in another has not changed. -/
theorem DiffersIn.eq_of_apart
    {there back : Part}
    {copy moved : CopyState}
    (apart : there ≠ back)
    (differs : DiffersIn there copy moved)
    (returns : DiffersIn back moved copy) : moved = copy := by
  have place : moved.offset = copy.offset ∧ moved.row = copy.row := by
    by_cases here : there = .place
    · obtain ⟨offset, row⟩ := returns.place (here ▸ apart.symm)
      exact ⟨offset.symm, row.symm⟩
    · exact differs.place here
  have column : moved.column = copy.column := by
    by_cases here : there = .column
    · exact (returns.column (here ▸ apart.symm)).symm
    · exact differs.column here
  have selection : moved.selectionStart = copy.selectionStart := by
    by_cases here : there = .selection
    · exact (returns.selection (here ▸ apart.symm)).symm
    · exact differs.selection here
  cases copy
  cases moved
  exact (CopyState.mk.injEq ..).mpr ⟨place.1, place.2, column, selection⟩

/-- Actions on different parts give nothing back to one another. -/
theorem press_apart_iff
    (rows : 0 < terminal.rows)
    (cols : 0 < terminal.cols)
    (apart : first.part ≠ second.part)
    (copy : CopyState) :
    (first.press terminal copy).bind (second.press terminal) = some copy ↔
      first.Rests terminal copy ∧ second.Rests terminal copy := by
  rw [← press_eq_self_iff rows cols, ← press_eq_self_iff rows cols]
  constructor
  · intro back
    obtain ⟨moved, pressed, returned⟩ := Option.bind_eq_some_iff.mp back
    have unmoved := (differsIn_press pressed).eq_of_apart apart
      (differsIn_press returned)
    rw [unmoved] at pressed returned
    exact ⟨pressed, returned⟩
  · rintro ⟨rests, alsoRests⟩
    rw [rests, Option.bind_some, alsoRests]

/-- Two actions on the row and the offset. -/
theorem press_place_iff
    (rows : 0 < terminal.rows)
    (onPlace : first.part = .place)
    (alsoOnPlace : second.part = .place)
    (copy : CopyState) :
    (first.press terminal copy).bind (second.press terminal) = some copy ↔
      (first.Rests terminal copy ∧ second.Rests terminal copy) ∨
        second.TakesBack first terminal copy := by
  obtain ⟨offset, row, column, selectionStart⟩ := copy
  cases first <;> cases onPlace <;> cases second <;> cases alsoOnPlace
  all_goals
    simp only [Rests, TakesBack, press]
    (try split_ifs) <;> simp only [Option.bind_some, press] <;>
      (try split_ifs) <;>
      simp only [Option.some.injEq, CopyState.mk.injEq, true_and, and_true,
        or_false] <;>
      omega

/-- Two actions on the column. -/
theorem press_column_iff
    (cols : 0 < terminal.cols)
    (onColumn : first.part = .column)
    (alsoOnColumn : second.part = .column)
    (copy : CopyState) :
    (first.press terminal copy).bind (second.press terminal) = some copy ↔
      (first.Rests terminal copy ∧ second.Rests terminal copy) ∨
        second.TakesBack first terminal copy := by
  obtain ⟨offset, row, column, selectionStart⟩ := copy
  cases first <;> cases onColumn <;> cases second <;> cases alsoOnColumn
  all_goals
    simp only [Rests, TakesBack, press, Option.bind_some, Option.some.injEq,
      CopyState.mk.injEq, true_and, and_true, or_false]
    omega

/-- A selection that starts twice starts at the same place; the other actions
of this part leave copy mode. -/
theorem press_selection_iff
    (onSelection : first.part = .selection)
    (alsoOnSelection : second.part = .selection)
    (copy : CopyState) :
    (first.press terminal copy).bind (second.press terminal) = some copy ↔
      first.Rests terminal copy ∧ second.Rests terminal copy := by
  obtain ⟨offset, row, column, selectionStart⟩ := copy
  cases first <;> cases onSelection <;> cases second <;> cases alsoOnSelection
  case startSelection.refl.startSelection.refl =>
    simp only [Rests, press, Option.bind_some, Option.some.injEq,
      CopyState.mk.injEq, true_and, and_self]
    exact eq_comm
  all_goals
    simp only [Rests, press, Option.bind_some, Option.bind_none, reduceCtorEq,
      and_false, false_and]

/-- The second action gives back what the first has changed. -/
def GivesBack
    (second first : CopyAction)
    (terminal : Terminal)
    (copy : CopyState) : Prop :=
  (first.Rests terminal copy ∧ second.Rests terminal copy) ∨
    second.TakesBack first terminal copy

/-- Only an action on the same part takes anything back. -/
theorem TakesBack.part_eq
    (takes : second.TakesBack first terminal copy) :
    first.part = second.part ∧ first.part ≠ .selection := by
  cases first <;> cases second <;> first
    | exact ⟨rfl, by decide⟩
    | cases takes

/-- Two actions lead back to where they began exactly when the second gives
back what the first has changed. -/
theorem press_press_iff
    (rows : 0 < terminal.rows)
    (cols : 0 < terminal.cols)
    (first second : CopyAction)
    (copy : CopyState) :
    (first.press terminal copy).bind (second.press terminal) = some copy ↔
      second.GivesBack first terminal copy := by
  by_cases same : first.part = second.part
  · cases here : first.part with
    | place =>
        exact press_place_iff rows here (same.symm.trans here) copy
    | column =>
        exact press_column_iff cols here (same.symm.trans here) copy
    | selection =>
        rw [press_selection_iff here (same.symm.trans here)]
        refine (or_iff_left ?_).symm
        intro takes
        exact takes.part_eq.2 here
  · rw [press_apart_iff rows cols same]
    refine (or_iff_left ?_).symm
    intro takes
    exact same takes.part_eq.1

/-! ## One message -/

/-- The action of a key under the configured keys. -/
def ofKey
    (keys : String → Option String)
    (bytes : List UInt8) : Option CopyAction :=
  ofBytes (remapKey keys bytes)

/-- Two keys in a row are no key. -/
theorem no_key_of_two :
    ∀ first ∈ copyKeys, ∀ second ∈ copyKeys,
      copyChordName (first ++ second) = none ∧
        ofBytes (first ++ second) = none := by
  decide

variable {bytes : List UInt8}

theorem ofBytes_copyActionBytes
    {action : String}
    (known : copyActionBytes action = some bytes) :
    (ofBytes bytes).isSome = true := by
  unfold copyActionBytes at known
  split at known <;> cases known <;> decide

/-- A key is a key under any configuration. -/
theorem exists_ofKey
    (keys : String → Option String)
    (isKey : bytes ∈ copyKeys) : ∃ action, ofKey keys bytes = some action := by
  apply Option.isSome_iff_exists.mp
  unfold ofKey remapKey
  cases known : ((copyChordName bytes).bind keys).bind copyActionBytes with
  | none =>
      rw [Option.getD_none]
      clear known
      revert bytes
      decide
  | some remapped =>
      obtain ⟨action, -, found⟩ := Option.bind_eq_some_iff.mp known
      rw [Option.getD_some]
      exact ofBytes_copyActionBytes found

/-- Enter is the one action that is read from a carriage return or a line
feed. -/
theorem ofBytes_eq_copy_iff
    (bytes : List UInt8) :
    ofBytes bytes = some .copy ↔
      bytes = ascii "\r" ∨ bytes = ascii "\n" := by
  constructor
  · intro enter
    unfold ofBytes at enter
    split_ifs at enter with _ _ _ _ _ _ _ _ line <;>
      first
        | exact line
        | cases enter
  · rintro (rfl | rfl)
    · decide
    · decide

end CopyAction

variable {keys : String → Option String}

/-- The copy state after a message. -/
theorem Pane.copyInput_copy
    {pane : Pane}
    {copy : CopyState}
    (viewed : pane.copy = some copy)
    (bytes : List UInt8)
    (now : Nat) :
    (pane.copyInput keys bytes now).copy =
      copy.key pane.terminal (remapKey keys bytes) := by
  unfold Pane.copyInput remapKey
  rw [viewed]
  dsimp only
  split <;> rfl

namespace CopyView

variable {view : CopyView} {copy : CopyState}

theorem input_of_copy
    (viewed : view.pane.copy = some copy)
    (keys : String → Option String)
    (bytes : List UInt8)
    (now : Nat) :
    view.input keys bytes now = view.copyInput keys bytes now := by
  unfold input
  rw [viewed]
  rfl

/-- A key in a pane in copy mode presses its action; only Enter copies. -/
theorem input_of_key
    (viewed : view.pane.copy = some copy)
    {bytes : List UInt8}
    {action : CopyAction}
    (isKey : CopyAction.ofKey keys bytes = some action)
    (now : Nat) :
    (view.input keys bytes now).pane.copy =
        action.press view.pane.terminal copy ∧
      (action ≠ .copy →
        (view.input keys bytes now).copyBuffer = view.copyBuffer) := by
  rw [input_of_copy viewed]
  unfold CopyAction.ofKey at isKey
  constructor
  · refine (Pane.copyInput_copy viewed bytes now).trans ?_
    rw [CopyAction.key_eq_press, isKey]
  · intro other
    simp only [copyInput, viewed]
    rw [if_neg]
    rw [← CopyAction.ofBytes_eq_copy_iff, isKey]
    exact fun same => other (Option.some.inj same)

/-- Two keys in one message change nothing. -/
theorem input_of_two_keys
    (viewed : view.pane.copy = some copy)
    {first second : List UInt8}
    (firstKey : first ∈ copyKeys)
    (secondKey : second ∈ copyKeys)
    (keys : String → Option String)
    (now : Nat) :
    (view.input keys (first ++ second) now).pane.copy = some copy ∧
      (view.input keys (first ++ second) now).copyBuffer =
        view.copyBuffer := by
  obtain ⟨noChord, noAction⟩ :=
    CopyAction.no_key_of_two first firstKey second secondKey
  have unmapped : remapKey keys (first ++ second) = first ++ second := by
    unfold remapKey
    rw [noChord]
    rfl
  rw [input_of_copy viewed]
  constructor
  · refine (Pane.copyInput_copy viewed _ now).trans ?_
    rw [unmapped, CopyAction.key_eq_press, noAction]
  · simp only [copyInput, viewed, unmapped]
    rw [if_neg]
    rw [← CopyAction.ofBytes_eq_copy_iff, noAction]
    simp only [reduceCtorEq, not_false_eq_true]

end CopyView

/-! ## One read -/

/-- The parser is in no command, sequence or confirmation. -/
structure AtRest (parser : PrefixParser) : Prop where
  inPrefix : parser.inPrefix = false
  sequence : parser.sequence = []
  mouseSequence : parser.mouseSequence = []
  confirmClose : parser.confirmClose = false

variable {parser : PrefixParser}

/-- A key without the prefix byte is ordinary input. -/
theorem feed_key
    (rest : AtRest parser)
    {key : List UInt8}
    (isKey : key ∈ copyKeys)
    (unprefixed : parser.prefixByte ∉ key)
    (output : List Gateway.ParsedInput)
    (ordinary : List UInt8) :
    key.foldl Reading.feedByte ⟨parser, output, ordinary⟩ =
      ⟨parser, output, ordinary ++ key⟩ := by
  obtain ⟨prefixByte, bindings, inPrefix, sequence, mouseSequence,
    confirmClose⟩ := parser
  obtain ⟨rfl, rfl, rfl, rfl⟩ := rest
  have bytes : copyKeys =
      [[0x1b, 0x5b, 0x41], [0x1b, 0x5b, 0x42], [0x1b, 0x5b, 0x43],
        [0x1b, 0x5b, 0x44], [0x1b, 0x5b, 0x35, 0x7e],
        [0x1b, 0x5b, 0x36, 0x7e], [0x20], [0x0d], [0x0a], [0x71]] := by
    decide
  rw [bytes] at isKey
  simp only [List.mem_cons, List.not_mem_nil, or_false] at isKey
  have plain : ∀ byte ∈ key, byte ≠ prefixByte := by
    intro byte listed same
    exact unprefixed (same ▸ listed)
  rcases isKey with rfl | rfl | rfl | rfl | rfl | rfl | rfl | rfl | rfl | rfl
  all_goals
    simp only [List.forall_mem_cons] at plain
    simp [Reading.feedByte, Reading.feedOrdinary, Reading.feedMouse,
      Reading.opensMouse, plain]

/-- Two keys of one read come in one message. -/
theorem feed_two_keys
    (rest : AtRest parser)
    {first second : List UInt8}
    (firstKey : first ∈ copyKeys)
    (secondKey : second ∈ copyKeys)
    (unprefixed : parser.prefixByte ∉ first ++ second) :
    parser.feed (first ++ second) = ([.input (first ++ second)], parser) := by
  rw [List.mem_append, not_or] at unprefixed
  have keysHaveBytes : ∀ key ∈ copyKeys, key ≠ [] := by
    decide
  have hasBytes : first ++ second ≠ [] :=
    List.append_ne_nil_of_left_ne_nil (keysHaveBytes first firstKey) second
  unfold PrefixParser.feed
  rw [List.foldl_append, feed_key rest firstKey unprefixed.1,
    feed_key rest secondKey unprefixed.2, List.nil_append]
  unfold Reading.flush
  dsimp only
  rw [if_neg hasBytes]
  rfl

/-! ## Two keys in one message and in two -/

/-- In one message two keys change nothing, so they have the effect of two
messages exactly when the second key gives back what the first has changed. -/
theorem same_in_one_message_iff
    {unicode : UnicodeWidth}
    {keys : String → Option String}
    {view : CopyView}
    {copy : CopyState}
    {first second : List UInt8}
    {pressed : Nat}
    (reached : (paneMachine unicode keys).Reachable (fun _ _ => True)
      view.pane)
    (viewed : view.pane.copy = some copy)
    (firstKey : first ∈ copyKeys)
    (secondKey : second ∈ copyKeys)
    (stays : (view.input keys first pressed).pane.copy ≠ none) :
    (SameInOneMessage keys view first second ↔
      ∃ action ∈ CopyAction.ofKey keys first,
        ∃ next ∈ CopyAction.ofKey keys second,
          next.GivesBack action view.pane.terminal copy) ∧
    ∀ parser, AtRest parser → parser.prefixByte ∉ first ++ second →
      parser.feed (first ++ second) = ([.input (first ++ second)], parser) := by
  have sized := wellSized_of_reachable_pane reached
  obtain ⟨action, isFirst⟩ := CopyAction.exists_ofKey keys firstKey
  obtain ⟨next, isSecond⟩ := CopyAction.exists_ofKey keys secondKey
  have given : (∃ action ∈ CopyAction.ofKey keys first,
      ∃ next ∈ CopyAction.ofKey keys second,
        next.GivesBack action view.pane.terminal copy) ↔
      (action.press view.pane.terminal copy).bind
        (next.press view.pane.terminal) = some copy := by
    rw [CopyAction.press_press_iff sized.rows sized.cols, isFirst, isSecond]
    simp only [Option.mem_some_iff, exists_eq_left']
  refine ⟨?_, fun parser rest => feed_two_keys rest firstKey secondKey⟩
  rw [given]
  -- The first key leaves some copy state behind.
  rw [(CopyView.input_of_key viewed isFirst pressed).1] at stays
  obtain ⟨moved, moves⟩ := Option.ne_none_iff_exists'.mp stays
  have notCopy : action ≠ .copy := by
    rintro rfl
    cases moves
  have together := CopyView.input_of_two_keys viewed firstKey secondKey keys
  have apart : ∀ now later,
      ((view.input keys first now).input keys second later).pane.copy =
        next.press view.pane.terminal moved ∧
      (next ≠ .copy →
        ((view.input keys first now).input keys second later).copyBuffer =
          view.copyBuffer) := by
    intro now later
    obtain ⟨after, kept⟩ := CopyView.input_of_key viewed isFirst now
    have same : (view.input keys first now).pane.terminal =
        view.pane.terminal := by
      rw [CopyView.input_of_copy viewed]
      exact Pane.copyInput_terminal keys view.pane first now
    obtain ⟨last, keeps⟩ := CopyView.input_of_key
      (after.trans moves) isSecond later
    rw [same] at last
    exact ⟨last, fun other => (keeps other).trans (kept notCopy)⟩
  rw [moves, Option.bind_some]
  constructor
  · intro same
    exact (apart 0 0).1.symm.trans ((same 0 0).1.symm.trans (together 0).1)
  · intro back now later
    have notEnter : next ≠ .copy := by
      rintro rfl
      cases back
    refine ⟨?_, ?_⟩
    · exact (together now).1.trans (back.symm.trans (apart now later).1.symm)
    · exact (together now).2.trans ((apart now later).2 notEnter).symm

/-- A pane in copy mode, at the last row of its 22 and at the left edge. -/
def leftEdge :
    CopyView where
  pane := (Pane.spawned 1000 0).enterCopyMode 24 0
  copyBuffer := []

theorem leftEdge_reached
    (keys : String → Option String) :
    (paneMachine Terminal.latinAndHan keys).Reachable (fun _ _ => True)
      leftEdge.pane := by
  have spawned : (paneMachine Terminal.latinAndHan keys).Reachable
      (fun _ _ => True) (Pane.spawned 1000 0) :=
    .initial ⟨1000, 0, rfl⟩
  exact @Machine.Reachable.step _ _ _ _ _ _ (.enterCopyMode 24 0) spawned
    trivial rfl

/-- Left twice, where neither moves. -/
theorem same_in_one_message_left :
    SameInOneMessage (fun _ => none) leftEdge (ascii "\x1b[D")
      (ascii "\x1b[D") := by
  have stays : (leftEdge.input (fun _ => none) (ascii "\x1b[D") 0).pane.copy ≠
      none := by
    decide +kernel
  have isLeft : CopyAction.ofKey (fun _ => none) (ascii "\x1b[D") =
      some .left := by
    decide +kernel
  exact (same_in_one_message_iff (leftEdge_reached _) rfl (by decide +kernel)
    (by decide +kernel) stays).1.mpr
      ⟨.left, isLeft, .left, isLeft, .inl ⟨rfl, rfl⟩⟩

/-- Up twice, read at once: the cursor stays on the last row. -/
theorem two_keys_of_one_read_lost :
    ((PrefixParser.new 2 []).feed
        (ascii "\x1b[A" ++ ascii "\x1b[A")).1 =
      [.input (ascii "\x1b[A" ++ ascii "\x1b[A")] ∧
    (paneMachine Terminal.latinAndHan fun _ => none).Reachable
      (fun _ _ => True) leftEdge.pane ∧
    (leftEdge.input (fun _ => none) (ascii "\x1b[A") 0).pane.copy ≠ none ∧
    ¬ SameInOneMessage (fun _ => none) leftEdge (ascii "\x1b[A")
      (ascii "\x1b[A") := by
  refine ⟨?_, leftEdge_reached _, by decide +kernel, ?_⟩
  · exact congrArg Prod.fst (feed_two_keys ⟨rfl, rfl, rfl, rfl⟩
      (by decide +kernel) (by decide +kernel) (by decide +kernel))
  intro same
  have rows := congrArg (fun copy : Option CopyState =>
    copy.map CopyState.row) (same 0 0).1
  revert rows
  decide +kernel

end Automation
end Vvmux
