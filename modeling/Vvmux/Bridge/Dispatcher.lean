import Mathlib.Algebra.Order.Ring.Int
import Vvmux.Library.Machine

/-!
# Requests to the outer presenter and their replies

Callers write requests and wait for replies, one thread reads what the
presenter sends, and a heartbeat probes it when it falls silent.  All of them
share the control state under a lock; every critical section is one event.
Times are in nanoseconds.  The fields marked as history are not in the source,
and no function reads them.
-/

namespace Vvmux

open Library

namespace Bridge

def seconds (count : Nat) : Nat := count * 1000000000

/-- `MAX_PENDING_CONTROL_REPLIES` -/
def maxPendingControlReplies : Nat := 4096

/-- `CONTROL_REPLY_TIMEOUT` -/
def controlReplyTimeout : Nat := seconds 5

/-- `HEARTBEAT_INTERVAL` -/
def heartbeatInterval : Nat := seconds 15

/-- An entry of `pending_requests`. -/
structure Request where
  id : Nat
  /-- History: when `write_record` entered it. -/
  issued : Nat
deriving DecidableEq

/-- The record types, of which only `ERROR` matters by its name. -/
inductive RecordType where
  | error
  | other (code : Nat)
deriving DecidableEq

/-- A record that answers a request, as far as `wait_reply_on` reads it. -/
structure Reply where
  requestId : Nat
  objectId : Nat
  recordType : RecordType
deriving DecidableEq

/-- Why the connection was closed. -/
inductive Closing where
  | readFailed
  | pingFailed
  | pongRefused
  | unknownRequest
  | replyOverflow
  | recordRefused
  | heartbeatTimedOut
  | heartbeatWriteFailed
deriving DecidableEq

structure ControlState where
  replies : List (Nat × Reply)
  pendingRequests : List Request
  abandonedRequests : List Nat
  oldestPendingRequest : Option Nat
  closed : Option Closing
  lastInbound : Nat
  lastProbeSent : Option Nat
  unansweredProbes : Nat
  nextPingId : Nat
  pendingPings : List Nat
deriving DecidableEq

namespace ControlState

/-- `ControlState::default`, at a time. -/
def default (now : Nat) : ControlState where
  replies := []
  pendingRequests := []
  abandonedRequests := []
  oldestPendingRequest := none
  closed := none
  lastInbound := now
  lastProbeSent := none
  unansweredProbes := 0
  nextPingId := 2 ^ 64 - 1
  pendingPings := []

def isPending (control : ControlState) (id : Nat) : Bool :=
  control.pendingRequests.any fun request => decide (request.id = id)

/-- The pending requests but one. -/
def pendingWithout (control : ControlState) (id : Nat) : List Request :=
  control.pendingRequests.filter fun request => !decide (request.id = id)

/-- `closed.get_or_insert_with` -/
def close (control : ControlState) (reason : Closing) : ControlState :=
  { control with closed := some (control.closed.getD reason) }

/-- What `write_record` does before it writes; nothing where it refuses. -/
def enterRequest
    (control : ControlState)
    (now id : Nat) : Option ControlState :=
  if maxPendingControlReplies ≤ control.pendingRequests.length ||
      control.isPending id then
    none
  else
    some { control with
      pendingRequests := control.pendingRequests ++ [⟨id, now⟩]
      oldestPendingRequest := some (control.oldestPendingRequest.getD now) }

/-- What `write_record` does after its writing failed. -/
def writeFailed (control : ControlState) (id : Nat) : ControlState :=
  { control with pendingRequests := control.pendingWithout id }

/-- The pending requests but one, and no oldest one if these are none. -/
def removePending (control : ControlState) (id : Nat) : ControlState :=
  { control with
    pendingRequests := control.pendingWithout id
    oldestPendingRequest :=
      if (control.pendingWithout id).isEmpty then none
      else control.oldestPendingRequest }

/-- `replies.insert` -/
def insertReply (control : ControlState) (reply : Reply) : ControlState :=
  { control with
    replies := control.replies.filter (fun entry =>
      !decide (entry.1 = reply.requestId)) ++ [(reply.requestId, reply)] }

/-- What the reader does with a record that answers a request. -/
def routeReply (control : ControlState) (reply : Reply) : ControlState :=
  if reply.requestId = 0 then control
  else if reply.requestId ∈ control.abandonedRequests then
    { control with
      abandonedRequests := control.abandonedRequests.filter fun id =>
        !decide (id = reply.requestId) }
  else if control.isPending reply.requestId then
    let removed := control.removePending reply.requestId
    if maxPendingControlReplies ≤ removed.replies.length then
      removed.close .replyOverflow
    else if removed.replies.any fun entry =>
        decide (entry.1 = reply.requestId) then
      (removed.insertReply reply).close .replyOverflow
    else removed.insertReply reply
  else control.close .unknownRequest

end ControlState

/-- A record from the outer presenter, as far as the routing goes. -/
inductive Inbound where
  /-- A `PING`, and whether it is well formed and could be answered. -/
  | ping (answered : Bool)
  | pong (objectId requestId : Nat)
  | reply (reply : Reply)
  /-- Any other record, and whether it was taken. -/
  | other (taken : Bool)
deriving DecidableEq

namespace ControlState

/-- What the reader does with every record first. -/
def noteInbound
    (control : ControlState)
    (now : Nat)
    (record : Inbound) : ControlState :=
  { control with
    lastInbound := now
    lastProbeSent := none
    unansweredProbes := 0
    pendingPings :=
      match record with
      | .pong _ _ => control.pendingPings
      | _ => [] }

/-- What the reader does with a record then. -/
def route
    (control : ControlState) :
    Inbound → ControlState
  | .ping answered => if answered then control else control.close .pingFailed
  | .pong objectId requestId =>
      if objectId ≠ 0 ∨ requestId = 0 then control.close .pongRefused
      else
        { control with
          pendingPings := control.pendingPings.filter fun ping =>
            !decide (ping = requestId) }
  | .reply reply => control.routeReply reply
  | .other taken => if taken then control else control.close .recordRefused

/-- `request_stalled` -/
def requestStalled (control : ControlState) (now : Nat) : Bool :=
  match control.oldestPendingRequest with
  | none => false
  | some issued => decide (heartbeatInterval ≤ now - issued)

/-- One turn of the heartbeat, and the `PING` that it sends. -/
def heartbeat
    (control : ControlState)
    (now : Nat) : ControlState × Option Nat :=
  if (decide (now - control.lastInbound < heartbeatInterval) &&
        !control.requestStalled now) ||
      control.lastProbeSent.any (fun sent =>
        decide (now - sent < heartbeatInterval)) then
    (control, none)
  else if 3 ≤ control.unansweredProbes then
    ({ control with closed := some .heartbeatTimedOut }, none)
  else
    ({ control with
        nextPingId := control.nextPingId - 1
        lastProbeSent := some now
        unansweredProbes := min 255 (control.unansweredProbes + 1)
        pendingPings := control.nextPingId :: control.pendingPings },
      some control.nextPingId)

end ControlState

/-- A call of `wait_reply_on`. -/
structure Wait where
  requestId : Nat
  expected : RecordType
  expectedObjectId : Nat
  deadline : Nat
deriving DecidableEq

/-- What `wait_reply_on` returns. -/
inductive WaitResult where
  | ok (reply : Reply)
  | wrongObject (reply : Reply)
  | protocolError (reply : Reply)
  | wrongType (reply : Reply)
  | brokenPipe (reason : Closing)
  | timedOut
deriving DecidableEq

namespace WaitResult

/-- The reply that the caller gets to see. -/
def reply? :
    WaitResult → Option Reply
  | .ok reply => some reply
  | .wrongObject reply => some reply
  | .protocolError reply => some reply
  | .wrongType reply => some reply
  | .brokenPipe _ => none
  | .timedOut => none

end WaitResult

namespace ControlState

/-- How a wait judges its reply. -/
def judge (wait : Wait) (reply : Reply) : WaitResult :=
  if reply.objectId ≠ wait.expectedObjectId then .wrongObject reply
  else if reply.recordType = .error then .protocolError reply
  else if reply.recordType ≠ wait.expected then .wrongType reply
  else .ok reply

/-- One turn of the loop of `wait_reply_on`; no result where it goes on. -/
def pollReply
    (control : ControlState)
    (now : Nat)
    (wait : Wait) : ControlState × Option WaitResult :=
  match control.replies.lookup wait.requestId with
  | some reply =>
      ({ control with
          replies := control.replies.filter fun entry =>
            !decide (entry.1 = wait.requestId) },
        some (judge wait reply))
  | none =>
      match control.closed with
      | some reason => (control, some (.brokenPipe reason))
      | none =>
          if now ≤ wait.deadline then (control, none)
          else
            ({ control.removePending wait.requestId with
                abandonedRequests :=
                  if control.abandonedRequests.length <
                      maxPendingControlReplies then
                    wait.requestId :: control.abandonedRequests
                  else control.abandonedRequests },
              some .timedOut)

end ControlState

/-- The threads of a bridge and what they share. -/
structure Dispatcher where
  control : ControlState
  now : Nat
  /-- The requests that are being written. -/
  writing : List Nat
  /-- The requests that were written and that no call waits for yet. -/
  written : List Nat
  waits : List Wait
  /-- The record that the reader has noted and not routed yet. -/
  reading : Option Inbound
  /-- The reader has ended. -/
  readerGone : Bool
  /-- The probe that the heartbeat is writing. -/
  probing : Option Nat
  /-- The heartbeat has ended. -/
  heartbeatGone : Bool
  /-- History: all requests that were entered. -/
  issued : List Nat
  /-- History: what the waits returned, by request. -/
  returned : List (Nat × WaitResult)
  /-- History: the requests that timed out and whose reply has not come. -/
  overdue : List Nat
deriving DecidableEq

namespace Dispatcher

def start (now : Nat) : Dispatcher where
  control := .default now
  now := now
  writing := []
  written := []
  waits := []
  reading := none
  readerGone := false
  probing := none
  heartbeatGone := false
  issued := []
  returned := []
  overdue := []

/-- The reader after a record that it routed. -/
def routed (dispatcher : Dispatcher) (record : Inbound) : Dispatcher :=
  let control := dispatcher.control.route record
  { dispatcher with
    control := control
    reading := none
    readerGone :=
      match record with
      | .ping answered => !answered
      | _ => control.closed.isSome
    overdue :=
      match record with
      | .reply reply => dispatcher.overdue.filter fun id =>
          !decide (id = reply.requestId)
      | _ => dispatcher.overdue }

/-- A wait after one turn of its loop. -/
def polled (dispatcher : Dispatcher) (wait : Wait) : Dispatcher :=
  let (control, result) := dispatcher.control.pollReply dispatcher.now wait
  match result with
  | none => { dispatcher with control := control }
  | some result =>
      { dispatcher with
        control := control
        waits := dispatcher.waits.erase wait
        returned := (wait.requestId, result) :: dispatcher.returned
        overdue :=
          if result = .timedOut then wait.requestId :: dispatcher.overdue
          else dispatcher.overdue }

/-- The heartbeat after one turn. -/
def probed (dispatcher : Dispatcher) : Dispatcher :=
  let (control, ping) := dispatcher.control.heartbeat dispatcher.now
  { dispatcher with
    control := control
    probing := ping
    heartbeatGone := control.closed.isSome }

end Dispatcher

inductive DispatcherEvent where
  /-- Time passes. -/
  | tick (nanoseconds : Nat)
  /-- `write_record` enters its request. -/
  | enter (id : Nat)
  /-- `write_record` has written its request, or could not. -/
  | wrote (id : Nat) (ok : Bool)
  /-- A caller begins to wait for a request that was written. -/
  | wait (id : Nat) (expected : RecordType) (expectedObjectId : Nat)
  | poll (wait : Wait)
  /-- The reader has got a record and notes it. -/
  | read (record : Inbound)
  | readFails
  | route
  | heartbeat
  /-- The heartbeat has written its probe, or could not. -/
  | probeWritten (ok : Bool)
deriving DecidableEq

/-- One event; nothing where it cannot happen.  Request IDs are distinct. -/
def dispatcherStep
    (dispatcher : Dispatcher) :
    DispatcherEvent → Option Dispatcher
  | .tick nanoseconds =>
      some { dispatcher with now := dispatcher.now + nanoseconds }
  | .enter id =>
      if id = 0 ∨ id ∈ dispatcher.issued then none
      else
        (dispatcher.control.enterRequest dispatcher.now id).map fun control =>
          { dispatcher with
            control := control
            writing := id :: dispatcher.writing
            issued := id :: dispatcher.issued }
  | .wrote id ok =>
      if id ∈ dispatcher.writing then
        some
          (if ok then
            { dispatcher with
              writing := dispatcher.writing.erase id
              written := id :: dispatcher.written }
          else
            { dispatcher with
              control := dispatcher.control.writeFailed id
              writing := dispatcher.writing.erase id })
      else none
  | .wait id expected expectedObjectId =>
      if id ∈ dispatcher.written then
        some { dispatcher with
          written := dispatcher.written.erase id
          waits :=
            ⟨id, expected, expectedObjectId,
              dispatcher.now + controlReplyTimeout⟩ :: dispatcher.waits }
      else none
  | .poll wait =>
      if wait ∈ dispatcher.waits then some (dispatcher.polled wait) else none
  | .read record =>
      if dispatcher.readerGone || dispatcher.reading.isSome then none
      else
        some { dispatcher with
          control := dispatcher.control.noteInbound dispatcher.now record
          reading := some record }
  | .readFails =>
      if dispatcher.readerGone || dispatcher.reading.isSome then none
      else
        some { dispatcher with
          control := dispatcher.control.close .readFailed
          readerGone := true }
  | .route => dispatcher.reading.map dispatcher.routed
  | .heartbeat =>
      if dispatcher.heartbeatGone || dispatcher.probing.isSome then none
      else if dispatcher.control.closed.isSome then
        some { dispatcher with heartbeatGone := true }
      else some dispatcher.probed
  | .probeWritten ok =>
      dispatcher.probing.map fun _ =>
        if ok then { dispatcher with probing := none }
        else
          { dispatcher with
            control := dispatcher.control.close .heartbeatWriteFailed
            probing := none
            heartbeatGone := true }

def dispatcherMachine :
    Machine Dispatcher DispatcherEvent where
  initial dispatcher := ∃ now, dispatcher = .start now
  step before event after := dispatcherStep before event = some after

end Bridge
end Vvmux
