import Vvmux.Gateway.Protocol
import Vvmux.Library.Machine

/-!
# One gateway connection

The loop of an authenticated connection takes socket messages and, while a
session is attached, messages of the session and ticks.  The parsers of
terminal input are parameters, and what the world outside answers comes with
the event.  The queue to the client always has room.  The fields marked as
history are not in the source, and no function reads them.
-/

namespace Vvmux

open Library

namespace Gateway

open Session (DisplayMetrics Action MouseEvent FloatingEditCommand
  FloatingEditKind)

/-! ## Messages -/

/-- What the terminal input parser makes of its bytes. -/
inductive ParsedInput
  | input (bytes : List UInt8)
  | action (action : Action)
  | mouse (event : MouseEvent)
  | detach

/-- A message for the session. -/
inductive ClientMessage
  | input (bytes : List UInt8)
  | mouse (event : MouseEvent)
  | resize (display : DisplayMetrics)
  | action (action : Action)
  | renderAck (frameId : Nat)
  | floatingEdit (modeId : Nat) (command : FloatingEditCommand)
  | detach

def ParsedInput.message : ParsedInput → ClientMessage
  | .input bytes => .input bytes
  | .action chosen => .action chosen
  | .mouse event => .mouse event
  | .detach => .detach

/-- A message from the session. -/
inductive ServerMessage
  | attached
  | render (frameId : Nat) (last : Bool) (bytes : List UInt8)
  | title (title : Text)
  | bell
  | clipboard (text : Text)
  | status (message : Text)
  | mediaSnapshot (revision : Nat)
  | mediaRecord (deliveryId : Nat)
  | detached (reason : Text)
  | floatingEditMode
      (modeId : Nat)
      (pane : Option Nat)
      (kind : Option FloatingEditKind)
  | error (message : Text)
  | pong
  | automation
  | automationChunk

/-- A message of the socket; a text with its length and what the JSON parser
makes of it. -/
inductive Message
  | text (length : Nat) (parsed : Except Text ClientControl)
  | binary (bytes : List UInt8)
  | ping (bytes : List UInt8)
  | pong
  | close

/-- A binary frame: the sequences around an attachment, or bytes of the
session. -/
inductive Frame
  | enter
  | leave
  | render (bytes : List UInt8)
  deriving DecidableEq, Repr

/-- `TERMINAL_ENTER`, which differs in its last byte on Windows. -/
def terminalEnter (windows : Bool) : String :=
  "\x1b[?1049h\x1b[?25l\x1b[?1000h\x1b[?1002h\x1b[?1006h\x1b[?1004h" ++
    if windows then "\x1b[?2004l" else "\x1b[?2004h"

def terminalLeave : String :=
  "\x1b[0m\x1b[?2004l\x1b[?1004l\x1b[?1006l\x1b[?1002l\x1b[?1000l" ++
    "\x1b[?25h\x1b[?1049l"

/-- What the client is sent. -/
inductive Outgoing
  | control (message : ServerControl)
  | binary (frame : Frame)
  | ping
  | pong (bytes : List UInt8)
  | close (code : Nat) (reason : String)
  deriving DecidableEq, Repr

def stalledClient : String := "terminal client is too slow"

/-- Why a handler gives up the connection. -/
inductive Failure
  /-- A control message exceeds its limit. -/
  | tooLong
  /-- The queue to the session is full or closed. -/
  | sessionQueue
  /-- A thread on the blocking pool panicked. -/
  | worker
  /-- The session sent what it must not send. -/
  | unexpected
  /-- The socket is closed or broken. -/
  | socket
  /-- The client was silent for too long while another one waits. -/
  | stalled
  deriving DecidableEq, Repr

/-! ## The world outside -/

inductive ErrorKind
  | notFound
  | connectionRefused
  | alreadyExists
  | other
  deriving DecidableEq, Repr

structure IoError where
  kind : ErrorKind
  message : Text
  deriving DecidableEq, Repr

/-- The end of a task on the blocking pool. -/
inductive Spawned (α : Type)
  | finished (result : Except IoError α)
  | panicked

/-- The parsers that the connection owns, and their values at the start of an
attachment. -/
structure Parsing (Input Scanner : Type) where
  prefixParser : Input
  floatEditScanner : Scanner
  feed : Input → List UInt8 → List ParsedInput × Input
  scan : Scanner → Nat → List UInt8 →
    (List FloatingEditCommand × List UInt8) × Scanner
  expire : Scanner → Nat → Option FloatingEditCommand × Scanner
  reset : Scanner → List UInt8 × Scanner

/-- Answers of the world outside while one event is handled: the time, the
messages that the queue to the session has room for, the sessions that are
live, and how creating a session, connecting to one (its name and whether it
has text only), connecting the outer bridge and starting its worker end. -/
structure Outside where
  now : Nat
  room : Nat
  sessions : Spawned (List SessionInfo)
  created : Spawned Unit
  connected : Except IoError (Text × Bool)
  bridge : Spawned Unit
  worker : Except IoError Unit

/-! ## State -/

/-- The connection to the session: the name that the session gave, whether the
reader lets media through, the room left in the writer's queue, and what was
put in it. -/
structure SessionAdapter where
  name : Text
  vivid : Bool
  room : Nat
  sent : List ClientMessage

def SessionAdapter.send
    (adapter : SessionAdapter)
    (message : ClientMessage) : SessionAdapter × Option Failure :=
  match adapter.room with
  | 0 => (adapter, some .sessionQueue)
  | room + 1 =>
      ({ adapter with room := room, sent := adapter.sent ++ [message] }, none)

/-- A message for the bridge worker. -/
inductive BridgeMessage
  | snapshot (revision : Nat)
  | media (deliveryId : Nat)
  deriving DecidableEq, Repr

structure BridgeWorker where
  queued : List BridgeMessage

/-- What the loop was at when the connection ended. -/
inductive Turn
  | socket
  | session
  | tick
  deriving DecidableEq, Repr

inductive Ending
  | closed
  | overloaded
  | failed (turn : Turn) (failure : Failure)
  deriving DecidableEq, Repr

/-- `sent` is what was put in the queue to the client, in order.  History:
`requests` are the IDs of the well-formed requests so far, `received` the bytes
of the session's renders for each attachment, the latest first, and `ended` why
the loop was left. -/
structure Connection (Input Scanner : Type) where
  session : Option SessionAdapter
  bridge : Option BridgeWorker
  input : Input
  floatScanner : Scanner
  floatMode : Option Nat
  sent : List Outgoing
  requests : List Nat
  received : List (List UInt8)
  ended : Option Ending

variable {Input Scanner : Type}

/-- A connection directly after its greeting. -/
def Parsing.greeted
    (parsing : Parsing Input Scanner) : Connection Input Scanner where
  session := none
  bridge := none
  input := parsing.prefixParser
  floatScanner := parsing.floatEditScanner
  floatMode := none
  sent := []
  requests := []
  received := []
  ended := none

/-- What a handler leaves, and its failure. -/
abbrev Handled (Input Scanner : Type) :=
  Connection Input Scanner × Option Failure

/-- Go on where the first step did not fail. -/
def Handled.andThen
    (handled : Handled Input Scanner)
    (next : Connection Input Scanner → Handled Input Scanner) :
    Handled Input Scanner :=
  match handled.2 with
  | some _ => handled
  | none => next handled.1

namespace Connection

/-! ## Sending -/

/-- `ClientWriter::send` into a queue that has room. -/
def send
    (connection : Connection Input Scanner)
    (message : Outgoing) : Connection Input Scanner :=
  { connection with sent := connection.sent ++ [message] }

def sendControl
    (connection : Connection Input Scanner)
    (message : ServerControl) : Handled Input Scanner :=
  if maxControlBytes < utf8Length message.encode then
    (connection, some .tooLong)
  else
    (connection.send (.control message), none)

def sendError
    (connection : Connection Input Scanner)
    (requestId : Option Nat)
    (code : String)
    (message : Text) : Handled Input Scanner :=
  connection.sendControl (.error requestId code message)

def releaseBridge
    (connection : Connection Input Scanner) : Connection Input Scanner :=
  { connection with bridge := none }

/-- Send to the session that is attached, if one is. -/
def sendSession
    (connection : Connection Input Scanner)
    (message : ClientMessage) : Handled Input Scanner :=
  match connection.session with
  | none => (connection, none)
  | some adapter =>
      ({ connection with session := some (adapter.send message).1 },
        (adapter.send message).2)

/-- The answer to what needs a session where none is attached. -/
def notAttached
    (connection : Connection Input Scanner) : Handled Input Scanner :=
  connection.sendError none "invalid_state" "no session is attached".toList

/-! ## Terminal input -/

def dispatchParsed
    (connection : Connection Input Scanner) :
    List ParsedInput → Handled Input Scanner
  | [] => (connection, none)
  | command :: rest =>
      (connection.sendSession command.message).andThen
        fun connection => connection.dispatchParsed rest

/-- The commands of the floating edit; the mode is left with a commit or a
cancellation, the commands after it still carry its ID. -/
def dispatchCommands
    (modeId : Nat)
    (connection : Connection Input Scanner) :
    List FloatingEditCommand → Handled Input Scanner
  | [] => (connection, none)
  | command :: rest =>
      (connection.sendSession (.floatingEdit modeId command)).andThen
        fun connection =>
          match command with
          | .step _ _ => connection.dispatchCommands modeId rest
          | .commit | .cancel =>
              { connection with floatMode := none }.dispatchCommands modeId
                rest

section

variable (parsing : Parsing Input Scanner)

/-- Feed the prefix parser and send on what it makes of the bytes. -/
def feedInput
    (connection : Connection Input Scanner)
    (bytes : List UInt8) : Handled Input Scanner :=
  { connection with
    input := (parsing.feed connection.input bytes).2 }.dispatchParsed
      (parsing.feed connection.input bytes).1

def dispatchInput
    (now : Nat)
    (connection : Connection Input Scanner)
    (bytes : List UInt8) : Handled Input Scanner :=
  match connection.floatMode with
  | none => connection.feedInput parsing bytes
  | some modeId =>
      let scanned := parsing.scan connection.floatScanner now bytes
      ({ connection with floatScanner := scanned.2 }.dispatchCommands modeId
        scanned.1.1).andThen fun connection =>
          connection.feedInput parsing scanned.1.2

/-! ## Socket messages -/

section

variable (outside : Outside) (connection : Connection Input Scanner)

def listSessions
    (requestId : Nat) : Handled Input Scanner :=
  if connection.session.isSome then
    connection.sendError (some requestId) "invalid_state"
      "detach before listing sessions".toList
  else
    match outside.sessions with
    | .finished (.ok live) => connection.sendControl (.sessions requestId live)
    | .finished (.error error) =>
        connection.sendError (some requestId) "session_unavailable"
          error.message
    | .panicked => (connection, some .worker)

def createSession
    (requestId : Nat)
    (name : Text) : Handled Input Scanner :=
  if connection.session.isSome then
    connection.sendError (some requestId) "invalid_state"
      "detach before creating a session".toList
  else
    match validateSessionName name with
    | .error error =>
        connection.sendError (some requestId) "invalid_session" error
    | .ok () =>
        match outside.created with
        | .finished (.ok ()) =>
            connection.sendControl (.created requestId name)
        | .finished (.error error) =>
            connection.sendError (some requestId)
              (if error.kind = .alreadyExists then "session_exists"
                else "session_unavailable")
              error.message
        | .panicked => (connection, some .worker)

/-- The code of a refused connection to a session. -/
def refusalCode (error : IoError) : String :=
  if "attached client".toList <:+: error.message then "session_occupied"
  else if error.kind = .notFound ∨ error.kind = .connectionRefused then
    "session_not_found"
  else "session_unavailable"

/-- The end of a successful attach: the reply, the enter sequence and the fresh
input state. -/
def enterSession
    (connection : Connection Input Scanner)
    (requestId : Nat)
    (adapter : SessionAdapter)
    (textOnly : Bool) : Handled Input Scanner :=
  (connection.sendControl (.attached requestId adapter.name textOnly)).andThen
    fun connection =>
      ({ connection.send (.binary .enter) with
        input := parsing.prefixParser
        floatScanner := parsing.floatEditScanner
        floatMode := none
        session := some adapter
        received := [] :: connection.received }, none)

/-- Connect the outer bridge for a client that takes media and start its
worker. -/
def startBridge
    (requestId : Nat)
    (adapter : SessionAdapter)
    (textOnly : Bool) : Handled Input Scanner :=
  if adapter.vivid then
    match outside.bridge with
    | .panicked => (connection, some .worker)
    | .finished (.error error) =>
        connection.sendError (some requestId) "vivid_unavailable" error.message
    | .finished (.ok ()) =>
        match outside.worker with
        | .error error =>
            connection.sendError (some requestId) "vivid_unavailable"
              error.message
        | .ok () =>
            { connection with bridge := some ⟨[]⟩ }.enterSession parsing
              requestId adapter textOnly
  else
    connection.enterSession parsing requestId adapter textOnly

def attach
    (requestId : Nat)
    (name : Text)
    (display : WireDisplay)
    (vivid : Bool) : Handled Input Scanner :=
  if connection.session.isSome then
    connection.sendError (some requestId) "invalid_state"
      "a session is already attached".toList
  else
    match validateSessionName name with
    | .error error =>
        connection.sendError (some requestId) "invalid_session" error
    | .ok () =>
        match display.validate with
        | .error error =>
            connection.sendError (some requestId) "invalid_display" error
        | .ok _ =>
            match outside.connected with
            | .error error =>
                connection.sendError (some requestId) (refusalCode error)
                  error.message
            | .ok (attachedName, textOnly) =>
                connection.startBridge parsing outside requestId
                  { name := attachedName
                    vivid := vivid
                    room := outside.room
                    sent := [] }
                  textOnly

def handleControl :
    ClientControl → Handled Input Scanner
  | .hello _ _ =>
      connection.sendError none "invalid_state"
        "hello is valid only as the first message".toList
  | .listSessions requestId => connection.listSessions outside requestId
  | .createSession requestId name =>
      connection.createSession outside requestId name
  | .attach requestId name display _ vivid =>
      connection.attach parsing outside requestId name display vivid
  | .resize display =>
      if connection.session.isSome then
        match display.validate with
        | .ok display => connection.sendSession (.resize display)
        | .error error => connection.sendError none "invalid_display" error
      else
        connection.notAttached
  | .action action =>
      if connection.session.isSome then
        match action.intoIpc with
        | .ok action => connection.sendSession (.action action)
        | .error error => connection.sendError none "invalid_action" error
      else
        connection.notAttached
  | .detach =>
      if connection.session.isSome then
        connection.sendSession .detach
      else
        connection.notAttached

/-- Note the ID of a request that asks for a reply. -/
def noteRequest
    (connection : Connection Input Scanner)
    (control : ClientControl) : Connection Input Scanner :=
  { connection with
    requests := connection.requests ++ control.requestId.toList }

def handleSocketMessage :
    Message → Handled Input Scanner
  | .text length parsed =>
      match decodeControl length parsed with
      | .error error => connection.sendError none "invalid_request" error
      | .ok control =>
          (connection.noteRequest control).handleControl parsing outside
            control
  | .binary bytes =>
      if maxInputBytes < bytes.length then
        connection.sendError none "input_too_large"
          "terminal input exceeds 64 KiB".toList
      else if connection.session.isSome then
        connection.dispatchInput parsing outside.now bytes
      else
        connection.notAttached
  | .ping bytes => (connection.send (.pong bytes), none)
  | .pong => (connection, none)
  | .close => (connection, some .socket)

end

/-! ## Session messages -/

/-- A slice in pieces of at most `size` bytes. -/
def chunks (size : Nat) (bytes : List UInt8) : List (List UInt8) :=
  if bytes.length ≤ size ∨ size = 0 then [bytes]
  else bytes.take size :: chunks size (bytes.drop size)
termination_by bytes.length
decreasing_by
  simp only [List.length_drop]
  omega

/-- The frames of a render; a render without bytes has an empty one. -/
def sendRender
    (connection : Connection Input Scanner)
    (bytes : List UInt8) : Connection Input Scanner :=
  { connection with
    sent := connection.sent ++ (chunks maxFrameBytes bytes).map fun chunk =>
      .binary (.render chunk)
    received :=
      match connection.received with
      | [] => []
      | latest :: earlier => (latest ++ bytes) :: earlier }

def kindName : Option FloatingEditKind → Option String
  | some .move => some "move"
  | some .resize => some "resize"
  | none => none

def floatingEditMode
    (connection : Connection Input Scanner)
    (modeId : Nat)
    (pane : Option Nat)
    (kind : Option FloatingEditKind) : Handled Input Scanner :=
  let noticed : Handled Input Scanner :=
    if pane.isSome then
      ({ connection with
        floatMode := some modeId
        floatScanner := (parsing.reset connection.floatScanner).2 }, none)
    else if connection.floatMode = some modeId then
      let residue := (parsing.reset connection.floatScanner).1
      let left : Connection Input Scanner :=
        { connection with
          floatMode := none
          floatScanner := (parsing.reset connection.floatScanner).2 }
      if residue.isEmpty then (left, none)
      else if left.session.isSome then left.feedInput parsing residue
      else (left, none)
    else
      (connection, none)
  noticed.andThen fun connection =>
    connection.sendControl
      (.floatingEditState modeId pane.isSome pane (kindName kind))

def handleSessionMessage
    (connection : Connection Input Scanner) :
    ServerMessage → Handled Input Scanner
  | .render frameId last bytes =>
      if last then
        (connection.sendRender bytes).sendSession (.renderAck frameId)
      else
        (connection.sendRender bytes, none)
  | .title title => connection.sendControl (.title title)
  | .bell => connection.sendControl .bell
  | .clipboard text => connection.sendControl (.clipboard text)
  | .status message => connection.sendControl (.status message)
  | .floatingEditMode modeId pane kind =>
      connection.floatingEditMode parsing modeId pane kind
  | .detached reason =>
      ((connection.send (.binary .leave)).sendControl
        (.detached reason)).andThen fun connection =>
          ({ connection with
            session := none
            bridge := none
            floatMode := none
            floatScanner := parsing.floatEditScanner }, none)
  | .error message =>
      ((connection.send (.binary .leave)).sendError none "session_error"
        message).andThen fun connection =>
          ({ connection with session := none, bridge := none }, none)
  | .pong => (connection, none)
  | .mediaSnapshot revision =>
      match connection.bridge with
      | none => (connection, some .unexpected)
      | some worker =>
          ({ connection with
            bridge := some ⟨worker.queued ++ [.snapshot revision]⟩ }, none)
  | .mediaRecord deliveryId =>
      match connection.bridge with
      | none => (connection, some .unexpected)
      | some worker =>
          ({ connection with
            bridge := some ⟨worker.queued ++ [.media deliveryId]⟩ }, none)
  | .attached | .automation | .automationChunk =>
      (connection, some .unexpected)

/-! ## Ticks -/

def expireFloatMode
    (now : Nat)
    (connection : Connection Input Scanner) : Handled Input Scanner :=
  let expired := parsing.expire connection.floatScanner now
  let connection := { connection with floatScanner := expired.2 }
  match connection.floatMode, expired.1 with
  | some modeId, some command =>
      (connection.sendSession (.floatingEdit modeId command)).andThen
        fun connection => ({ connection with floatMode := none }, none)
  | _, _ => (connection, none)

end

/-- Whether the client was silent for too long while another one waits, and
whether a ping is due, are up to the clock. -/
def checkClientLiveness
    (connection : Connection Input Scanner)
    (stalled pingDue : Bool) : Handled Input Scanner :=
  if stalled then (connection, some .stalled)
  else if pingDue then (connection.send .ping, none)
  else (connection, none)

/-! ## The loop -/

/-- What follows the loop: the restoration where a session is attached, and
the release of what is held. -/
def finish
    (connection : Connection Input Scanner)
    (ending : Ending) : Connection Input Scanner :=
  let restored :=
    if connection.session.isSome then connection.send (.binary .leave)
    else connection
  { restored with session := none, bridge := none, ended := some ending }

/-- The end of one turn of the loop. -/
def conclude
    (turn : Turn)
    (handled : Handled Input Scanner) : Connection Input Scanner :=
  match handled.2 with
  | none => handled.1
  | some failure =>
      let connection := handled.1
      let connection :=
        if failure = .stalled then
          { connection with session := none }.send (.close 1013 stalledClient)
        else connection
      connection.finish (.failed turn failure)

/-- The session connection is closed. -/
def sessionClosed
    (connection : Connection Input Scanner)
    (overloaded : Bool) : Connection Input Scanner :=
  let connection := connection.send (.binary .leave)
  if overloaded then
    (connection.send (.close 1013 stalledClient)).finish .overloaded
  else
    conclude .session
      ({ connection with session := none, bridge := none }.sendControl
        (.detached "session connection closed".toList))

/-- The room that the writer of the session left until now. -/
def withRoom
    (connection : Connection Input Scanner)
    (room : Nat) : Connection Input Scanner :=
  { connection with
    session := connection.session.map fun adapter =>
      { adapter with room := room } }

end Connection

/-- What the loop may take next.  `socketClosed` is a socket that fails or is
at its end; `sessionClosed` comes with whether the reader of the session gave
up because its queue was full. -/
inductive Event
  | socket (message : Message) (outside : Outside)
  | socketFailed
  | socketEnded
  | session (message : ServerMessage) (room : Nat)
  | sessionClosed (overloaded : Bool)
  | tick (now room : Nat) (stalled pingDue : Bool)

/-- The reader of the session gives up at media for a text-only client. -/
def SessionAdapter.forwards
    (adapter : SessionAdapter) :
    ServerMessage → Bool
  | .mediaSnapshot _ | .mediaRecord _ => adapter.vivid
  | _ => true

/-- One turn of the loop, where the event can come. -/
def turn
    (parsing : Parsing Input Scanner)
    (connection : Connection Input Scanner)
    (event : Event) : Option (Connection Input Scanner) :=
  if connection.ended.isSome then none
  else
    match event with
    | .socket message outside =>
        some (.conclude .socket
          ((connection.withRoom outside.room).handleSocketMessage parsing
            outside message))
    | .socketFailed =>
        some (.conclude .socket (connection, some .socket))
    | .socketEnded => some (connection.finish .closed)
    | .session message room =>
        match connection.session with
        | none => none
        | some adapter =>
            if adapter.forwards message then
              some (.conclude .session
                ((connection.withRoom room).handleSessionMessage parsing
                  message))
            else none
    | .sessionClosed overloaded =>
        if connection.session.isSome then
          some (connection.sessionClosed overloaded)
        else none
    | .tick now room stalled pingDue =>
        if connection.session.isSome then
          some (.conclude .tick
            (((connection.withRoom room).expireFloatMode parsing now).andThen
              fun connection =>
                connection.checkClientLiveness stalled pingDue))
        else none

/-- The runs of a connection. -/
def connectionMachine
    (parsing : Parsing Input Scanner) :
    Machine (Connection Input Scanner) Event where
  initial connection := connection = parsing.greeted
  step before event after := turn parsing before event = some after

end Gateway
end Vvmux
