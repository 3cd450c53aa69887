import Vvmux.Gateway.Connection
import Vvmux.Library.Runs

/-!
# The prefix parser

`PrefixParser::feed` turns the bytes of the user's terminal into input for the
pane, commands behind the prefix byte and mouse reports.  It collects input in
a buffer that it hands over at the end of a call or ahead of something else.
-/

namespace Vvmux
namespace Client

open Layout (Axis Direction)
open Library
open Session (Action MouseEvent MouseKind)
open Gateway (ParsedInput)

/-! ## Sequences -/

/-- `str::parse::<u16>`: digits behind an optional plus sign. -/
def parseU16 (field : List UInt8) : Option Nat :=
  let digits :=
    match field with
    | 0x2b :: rest => rest
    | _ => field
  if digits.isEmpty || !digits.all fun digit => 0x30 ≤ digit && digit ≤ 0x39 then
    none
  else
    let value := digits.foldl
      (fun value digit => value * 10 + (digit.toNat - 0x30)) 0
    if value < 65536 then some value else none

/-- `checked_sub(1)` -/
def checkedPred : Nat → Option Nat
  | 0 => none
  | value + 1 => some value

/-- `parse_sgr_mouse`; the text is read as its bytes. -/
def parseSgrMouse (sequence : List UInt8) : Option MouseEvent :=
  match sequence with
  | 0x1b :: 0x5b :: 0x3c :: rest => do
      let _ ← String.fromUTF8? ⟨sequence.toArray⟩
      let last ← rest.getLast?
      let release := last == 0x6d
      if last != 0x4d && last != 0x6d then none
      match rest.dropLast.splitOn 0x3b with
      | [raw, x, y] =>
          let raw ← parseU16 raw
          let x ← (parseU16 x).bind checkedPred
          let y ← (parseU16 y).bind checkedPred
          some {
            button := raw &&& 3
            x := x
            y := y
            kind :=
              if raw &&& 64 ≠ 0 then .wheel
              else if release then .release
              else if raw &&& 32 ≠ 0 then .move
              else .press
            shift := raw &&& 4 ≠ 0 }
      | _ => none
  | _ => none

/-- The direction of an arrow key's last byte. -/
def arrow (byte : UInt8) : Option Direction :=
  match byte with
  | 0x41 => some .up
  | 0x42 => some .down
  | 0x43 => some .right
  | 0x44 => some .left
  | _ => none

/-- `prefix_sequence` -/
def prefixSequence (sequence : List UInt8) : Option Action :=
  match sequence with
  | [0x1b, 0x5b, last] => (arrow last).map .focus
  | [0x1b, 0x5b, 0x31, 0x3b, 0x35, last] => (arrow last).map .resize
  | _ => none

/-- `parse_configured_action` -/
def parseConfiguredAction (action : String) : Option Action :=
  match action with
  | "split-horizontal" => some (.split .horizontal)
  | "split-vertical" => some (.split .vertical)
  | "focus-left" => some (.focus .left)
  | "focus-right" => some (.focus .right)
  | "focus-up" => some (.focus .up)
  | "focus-down" => some (.focus .down)
  | "resize-left" => some (.resize .left)
  | "resize-right" => some (.resize .right)
  | "resize-up" => some (.resize .up)
  | "resize-down" => some (.resize .down)
  | "new-tab" => some .newTab
  | "next-tab" => some .nextTab
  | "previous-tab" => some .previousTab
  | "close-pane" => some .closePane
  | "toggle-zoom" => some .toggleZoom
  | "copy-mode" => some .enterCopyMode
  | "paste" => some .paste
  | "new-floating-pane" => some .newFloatingPane
  | "toggle-floating-panes" => some .toggleFloatingPanes
  | "toggle-pane-pinned" => some .togglePanePinned
  | "enter-floating-move-mode" => some .enterFloatingMoveMode
  | "enter-floating-resize-mode" => some .enterFloatingResizeMode
  | _ => none

/-! ## The parser -/

/-- The field `prefix` of the source is `inPrefix` here. -/
structure PrefixParser where
  prefixByte : UInt8
  bindings : UInt8 → Option Action
  inPrefix : Bool
  sequence : List UInt8
  mouseSequence : List UInt8
  confirmClose : Bool

namespace PrefixParser

/-- A parser that has read nothing. -/
def start
    (prefixByte : UInt8)
    (bindings : UInt8 → Option Action) : PrefixParser where
  prefixByte := prefixByte
  bindings := bindings
  inPrefix := false
  sequence := []
  mouseSequence := []
  confirmClose := false

/-- `PrefixParser::new`, with the configured chords in the order of the
map. -/
def new
    (prefixByte : UInt8)
    (configured : List (String × String)) : PrefixParser :=
  let bindings := configured.filterMap fun (chord, action) =>
    match chord.toUTF8.data.toList with
    | [byte] => (parseConfiguredAction action).map (byte, ·)
    | _ => none
  start prefixByte fun byte => bindings.reverse.lookup byte

/-- What a byte behind the prefix byte hands over if nothing is bound to it. -/
def defaultCommand
    (parser : PrefixParser)
    (byte : UInt8) : Option ParsedInput :=
  if byte = parser.prefixByte then
    some (.input [parser.prefixByte])
  else
    match byte with
    | 0x25 => some (.action (.split .vertical))
    | 0x22 => some (.action (.split .horizontal))
    | 0x63 => some (.action .newTab)
    | 0x6e => some (.action .nextTab)
    | 0x70 => some (.action .previousTab)
    | 0x7a => some (.action .toggleZoom)
    | 0x66 => some (.action .newFloatingPane)
    | 0x46 => some (.action .toggleFloatingPanes)
    | 0x50 => some (.action .togglePanePinned)
    | 0x6d => some (.action .enterFloatingMoveMode)
    | 0x72 => some (.action .enterFloatingResizeMode)
    | 0x64 => some .detach
    | 0x5b => some (.action .enterCopyMode)
    | 0x5d => some (.action .paste)
    | _ =>
        if 0x30 ≤ byte ∧ byte ≤ 0x39 then
          some (.action (.selectTab (byte.toNat - 0x30)))
        else
          none

end PrefixParser

/-- The locals of `feed`. -/
structure Reading where
  parser : PrefixParser
  output : List ParsedInput
  ordinary : List UInt8

namespace Reading

/-- `output.push` -/
def push (reading : Reading) (item : ParsedInput) : Reading :=
  { reading with output := reading.output ++ [item] }

/-- Hand over the ordinary bytes, if there are any. -/
def flush (reading : Reading) : Reading :=
  if reading.ordinary = [] then reading
  else { reading.push (.input reading.ordinary) with ordinary := [] }

/-- A byte while a close waits for its confirmation. -/
def feedConfirmation (reading : Reading) (byte : UInt8) : Reading :=
  let closed := { reading with
    parser := { reading.parser with confirmClose := false } }
  if byte = 0x79 ∨ byte = 0x59 then closed.push (.action .closePane)
  else closed

/-- A byte of an escape sequence behind the prefix byte. -/
def feedSequence (reading : Reading) (byte : UInt8) : Reading :=
  let parser := reading.parser
  let sequence := parser.sequence ++ [byte]
  let cleared := { reading with
    parser := { parser with sequence := [], inPrefix := false } }
  match prefixSequence sequence with
  | some command => cleared.push (.action command)
  | none =>
      if 7 ≤ sequence.length then cleared
      else { reading with parser := { parser with sequence := sequence } }

/-- `valid_prefix`: the bytes may still become a mouse report. -/
def opensMouse (sequence : List UInt8) : Bool :=
  match sequence.length with
  | 2 => sequence == [0x1b, 0x5b]
  | 3 => sequence == [0x1b, 0x5b, 0x3c]
  | _ => true

/-- A byte behind an escape byte that may start a mouse report. -/
def feedMouse (reading : Reading) (byte : UInt8) : Reading :=
  let parser := reading.parser
  let sequence := parser.mouseSequence ++ [byte]
  let cleared := { reading with
    parser := { parser with mouseSequence := [] } }
  let asInput := { cleared with ordinary := reading.ordinary ++ sequence }
  if !opensMouse sequence then
    asInput
  else if byte = 0x4d ∨ byte = 0x6d then
    let flushed := cleared.flush
    match parseSgrMouse sequence with
    | some mouse => flushed.push (.mouse mouse)
    | none => { flushed with ordinary := flushed.ordinary ++ sequence }
  else if 64 ≤ sequence.length then
    asInput
  else
    { reading with parser := { parser with mouseSequence := sequence } }

/-- A byte outside of every sequence. -/
def feedOrdinary (reading : Reading) (byte : UInt8) : Reading :=
  let parser := reading.parser
  if byte = 0x1b then
    { reading with parser := { parser with mouseSequence := [byte] } }
  else if byte = parser.prefixByte then
    { reading.flush with parser := { parser with inPrefix := true } }
  else
    { reading with ordinary := reading.ordinary ++ [byte] }

/-- A byte behind the prefix byte. -/
def feedCommand (reading : Reading) (byte : UInt8) : Reading :=
  let parser := reading.parser
  let left := { reading with parser := { parser with inPrefix := false } }
  match parser.bindings byte with
  | some action => left.push (.action action)
  | none =>
      if byte ≠ parser.prefixByte ∧ byte = 0x78 then
        { left with
          parser := { parser with inPrefix := false, confirmClose := true } }
      else if byte ≠ parser.prefixByte ∧ byte = 0x1b then
        { reading with
          parser := { parser with sequence := parser.sequence ++ [byte] } }
      else
        match parser.defaultCommand byte with
        | some item => left.push item
        | none => left

/-- One turn of the loop of `feed`. -/
def feedByte (reading : Reading) (byte : UInt8) : Reading :=
  let parser := reading.parser
  if parser.confirmClose then reading.feedConfirmation byte
  else if parser.sequence ≠ [] then reading.feedSequence byte
  else if !parser.inPrefix then
    if parser.mouseSequence ≠ [] then reading.feedMouse byte
    else reading.feedOrdinary byte
  else reading.feedCommand byte

end Reading

/-- `PrefixParser::feed` -/
def PrefixParser.feed
    (parser : PrefixParser)
    (bytes : List UInt8) : List ParsedInput × PrefixParser :=
  let read := bytes.foldl Reading.feedByte ⟨parser, [], []⟩
  (read.flush.output, read.parser)

end Client
end Vvmux
