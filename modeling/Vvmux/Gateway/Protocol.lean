import Vvmux.Session.Actor
import Mathlib.Data.List.Infix

/-!
# Messages of VVWS/1

A client talks to the gateway over one WebSocket: control messages are JSON
texts, terminal bytes are binary frames.  Texts are lists of characters, and
their length on the wire is counted in UTF-8 bytes.  Parsing JSON is left to
the library; what it returns is part of the incoming message.
-/

namespace Vvmux
namespace Gateway

open Session

abbrev Text := List Char

/-- Bytes of a text on the wire. -/
def utf8Length (text : Text) : Nat :=
  (text.map Char.utf8Size).sum

def maxControlBytes : Nat := 64 * 1024

def maxInputBytes : Nat := 64 * 1024

def maxFrameBytes : Nat := 1024 * 1024

/-! ## Requests of the client -/

structure WireDisplay where
  columns : Nat
  rows : Nat
  cellWidth : Nat
  cellHeight : Nat
  deriving DecidableEq, Repr

def WireDisplay.validate (display : WireDisplay) : Except Text DisplayMetrics :=
  if !(10 ≤ display.columns && display.columns ≤ 1000) ||
      !(4 ≤ display.rows && display.rows ≤ 500) ||
      4096 < display.cellWidth || 4096 < display.cellHeight then
    .error "terminal display metrics are outside VVWS/1 limits".toList
  else
    .ok
      { columns := display.columns
        rows := display.rows
        cellWidth := display.cellWidth
        cellHeight := display.cellHeight }

/-- An action; the bytes of a copy input come with it. -/
inductive WireAction
  | split (axis : Layout.Axis)
  | focus (direction : Layout.Direction)
  | resize (direction : Layout.Direction)
  | newTab
  | nextTab
  | previousTab
  | selectTab (index : Nat)
  | closePane
  | toggleZoom
  | enterCopyMode
  | copyInput (bytes : List UInt8)
  | paste
  | newFloatingPane
  | toggleFloatingPanes
  | togglePanePinned
  | enterFloatingMoveMode
  | enterFloatingResizeMode

def WireAction.intoIpc : WireAction → Except Text Action
  | .split axis => .ok (.split axis)
  | .focus direction => .ok (.focus direction)
  | .resize direction => .ok (.resize direction)
  | .newTab => .ok .newTab
  | .nextTab => .ok .nextTab
  | .previousTab => .ok .previousTab
  | .selectTab index => .ok (.selectTab index)
  | .closePane => .ok .closePane
  | .toggleZoom => .ok .toggleZoom
  | .enterCopyMode => .ok .enterCopyMode
  | .copyInput bytes =>
      if bytes.length ≤ maxInputBytes then .ok .copyInput
      else .error "copy input exceeds 64 KiB".toList
  | .paste => .ok .paste
  | .newFloatingPane => .ok .newFloatingPane
  | .toggleFloatingPanes => .ok .toggleFloatingPanes
  | .togglePanePinned => .ok .togglePanePinned
  | .enterFloatingMoveMode => .ok .enterFloatingMoveMode
  | .enterFloatingResizeMode => .ok .enterFloatingResizeMode

inductive ClientControl
  | hello (version : Nat) (token : Text)
  | listSessions (requestId : Nat)
  | createSession (requestId : Nat) (name : Text)
  | attach
      (requestId : Nat)
      (name : Text)
      (display : WireDisplay)
      (takeover vivid : Bool)
  | resize (display : WireDisplay)
  | action (action : WireAction)
  | detach

/-- The ID that the reply has to carry. -/
def ClientControl.requestId : ClientControl → Option Nat
  | .listSessions requestId => some requestId
  | .createSession requestId _ => some requestId
  | .attach requestId _ _ _ _ => some requestId
  | _ => none

/-- A text of `length` bytes of which the JSON parser makes `parsed`. -/
def decodeControl
    (length : Nat)
    (parsed : Except Text ClientControl) : Except Text ClientControl :=
  if maxControlBytes < length then
    .error "VVWS/1 control message exceeds 64 KiB".toList
  else
    match parsed with
    | .ok control => .ok control
    | .error error =>
        .error ("malformed VVWS/1 control message: ".toList ++ error)

def nameCharacter (character : Char) : Bool :=
  character.isAlphanum || character == '-' || character == '_' ||
    character == '.'

def validateSessionName (name : Text) : Except Text Unit :=
  if name.isEmpty || 64 < utf8Length name || name.head? == some '.' ||
      !name.all nameCharacter then
    .error
      ("session name must be 1-64 ASCII letters, digits, '.', '-' or '_' " ++
        "and not start '.'").toList
  else
    .ok ()

/-! ## Replies of the gateway -/

structure SessionInfo where
  name : Text
  pid : Nat
  deriving DecidableEq, Repr

inductive ServerControl
  | sessions (requestId : Nat) (live : List SessionInfo)
  | created (requestId : Nat) (name : Text)
  | attached (requestId : Nat) (name : Text) (textOnly : Bool)
  | title (text : Text)
  | bell
  | clipboard (text : Text)
  | status (message : Text)
  | floatingEditState
      (modeId : Nat)
      (active : Bool)
      (pane : Option Nat)
      (kind : Option String)
  | detached (reason : Text)
  | error (requestId : Option Nat) (code : String) (message : Text)
  deriving DecidableEq, Repr

namespace ServerControl

/-- The request that a message replies to. -/
def replyId : ServerControl → Option Nat
  | .sessions requestId _ => some requestId
  | .created requestId _ => some requestId
  | .attached requestId _ _ => some requestId
  | .error requestId _ _ => requestId
  | _ => none

end ServerControl

/-! ## JSON -/

def hexDigit (digit : Nat) : Char :=
  "0123456789abcdef".toList.getD digit '0'

/-- A character inside a JSON string. -/
def escape (character : Char) : Text :=
  match character.toNat with
  | 34 => "\\\"".toList
  | 92 => "\\\\".toList
  | 8 => "\\b".toList
  | 9 => "\\t".toList
  | 10 => "\\n".toList
  | 12 => "\\f".toList
  | 13 => "\\r".toList
  | code =>
      if code < 32 then
        "\\u00".toList ++ [hexDigit (code / 16), hexDigit (code % 16)]
      else
        [character]

def quoted (text : Text) : Text :=
  "\"".toList ++ text.flatMap escape ++ "\"".toList

def number (value : Nat) : Text :=
  Nat.toDigits 10 value

def boolean (value : Bool) : Text :=
  if value then "true".toList else "false".toList

def nullable
    (encode : α → Text) :
    Option α → Text
  | none => "null".toList
  | some value => encode value

def member (name : String) (value : Text) : Text :=
  quoted name.toList ++ ":".toList ++ value

def object (members : List Text) : Text :=
  "\x7b".toList ++ List.intercalate ",".toList members ++ "\x7d".toList

def array (values : List Text) : Text :=
  "[".toList ++ List.intercalate ",".toList values ++ "]".toList

/-- An object with its variant under `type`. -/
def tagged (variant : String) (members : List Text) : Text :=
  object (member "type" (quoted variant.toList) :: members)

def SessionInfo.encode (info : SessionInfo) : Text :=
  object [member "name" (quoted info.name), member "pid" (number info.pid)]

/-- `serde_json::to_string` of a control message. -/
def ServerControl.encode : ServerControl → Text
  | .sessions requestId live =>
      tagged "sessions"
        [member "request_id" (number requestId),
          member "sessions" (array (live.map SessionInfo.encode))]
  | .created requestId name =>
      tagged "created"
        [member "request_id" (number requestId), member "name" (quoted name)]
  | .attached requestId name textOnly =>
      tagged "attached"
        [member "request_id" (number requestId), member "name" (quoted name),
          member "text_only" (boolean textOnly)]
  | .title text => tagged "title" [member "title" (quoted text)]
  | .bell => tagged "bell" []
  | .clipboard text => tagged "clipboard" [member "text" (quoted text)]
  | .status message => tagged "status" [member "message" (quoted message)]
  | .floatingEditState modeId active pane kind =>
      tagged "floating_edit_state"
        [member "mode_id" (number modeId), member "active" (boolean active),
          member "pane" (nullable number pane),
          member "kind" (nullable (fun kind => quoted kind.toList) kind)]
  | .detached reason => tagged "detached" [member "reason" (quoted reason)]
  | .error requestId code message =>
      tagged "error"
        [member "request_id" (nullable number requestId),
          member "code" (quoted code.toList),
          member "message" (quoted message)]

namespace ServerControl

/-- The encoded message is within the limit on control messages. -/
def Fits (message : ServerControl) : Prop :=
  utf8Length message.encode ≤ maxControlBytes

instance (message : ServerControl) : Decidable message.Fits :=
  inferInstanceAs (Decidable (_ ≤ _))

end ServerControl

end Gateway
end Vvmux
