import Mathlib.Algebra.Order.Ring.Nat
import Vvmux.Library.Machine

/-!
# The output queue of a client

Frames come from the session in chunks and go to the terminal through a bounded
queue and a thread that writes.  A chunk is known by its serial number in the
stream of all chunks that the session sent; of its bytes only the number is
kept, which is all that the queue looks at.  The fields marked as history are
not in the source, and no function reads them.
-/

namespace Vvmux

open Library

namespace Rendering

/-- `OUTPUT_QUEUE_BYTES` -/
def outputQueueBytes : Nat := 8 * 1024 * 1024

/-- One chunk of a frame: `frame_id`, `full`, `last` and the bytes of a
`Render` message. -/
structure Chunk where
  frameId : Nat
  /-- Set on the first chunk of a full frame only. -/
  full : Bool
  last : Bool
  length : Nat
  /-- History: the place of the chunk in the stream. -/
  serial : Nat
  /-- History: the serial of the first chunk of its frame. -/
  start : Nat
  /-- History: the serial of the first chunk of the frame that this one was
  computed against; that of a full frame is its own. -/
  base : Nat
  /-- History: whether the frame is a difference to the one before it. -/
  incremental : Bool
deriving DecidableEq

inductive OutputJob where
  | frame (chunk : Chunk)
  | control (length : Nat)
deriving DecidableEq

namespace OutputJob

def length :
    OutputJob → Nat
  | .frame chunk => chunk.length
  | .control length => length

def isControl :
    OutputJob → Bool
  | .frame _ => false
  | .control _ => true

def chunk? :
    OutputJob → Option Chunk
  | .frame chunk => some chunk
  | .control _ => none

end OutputJob

/-- History: what happened to frames at the terminal. -/
inductive LogEntry where
  | wrote (chunk : Chunk)
  | overflowed
deriving DecidableEq

/-- The session, the connection and the client, as far as frames go. -/
structure OutputState where
  /-- The number of frames that the session sent, `frame_id`. -/
  frameId : Nat
  /-- `force_full` of the session. -/
  forceFull : Bool
  /-- The chunks that the client has not received yet. -/
  incoming : List Chunk
  /-- The `RenderResync` messages that the session has not received yet. -/
  resyncs : Nat
  jobs : List OutputJob
  bytes : Nat
  /-- The job that the writer has taken from the queue. -/
  hand : Option OutputJob
  /-- The writer has returned. -/
  writerGone : Bool
  /-- The last chunks of the frames for which `RenderAck` was sent. -/
  acknowledged : List Chunk
  /-- History: all chunks that the session sent. -/
  stream : List Chunk
  /-- History: the serial of the first chunk of the frame sent last. -/
  lastStart : Nat
  /-- History: what happened at the terminal, the latest first. -/
  log : List LogEntry
  /-- History: no full frame has been queued since the queue overflowed, or
  since the beginning. -/
  broken : Bool
deriving DecidableEq

namespace OutputState

def start :
    OutputState where
  frameId := 0
  forceFull := true
  incoming := []
  resyncs := 0
  jobs := []
  bytes := 0
  hand := none
  writerGone := false
  acknowledged := []
  stream := []
  lastStart := 0
  log := []
  broken := true

/-- The chunks of a frame from one on, given their lengths. -/
def chunksFrom
    (frameId start base : Nat)
    (incremental : Bool) :
    Nat → List Nat → List Chunk
  | _, [] => []
  | serial, length :: rest =>
      { frameId := frameId
        full := !incremental && decide (serial = start)
        last := rest.isEmpty
        length := length
        serial := serial
        start := start
        base := base
        incremental := incremental } ::
      chunksFrom frameId start base incremental (serial + 1) rest

/-- `send_render_record`: a frame of one or more chunks, against the frame
before it unless it is full. -/
def sendFrame
    (state : OutputState)
    (full : Bool)
    (first : Nat)
    (rest : List Nat) : OutputState :=
  let start := state.stream.length
  let chunks := chunksFrom (state.frameId + 1) start
    (if full then start else state.lastStart) (!full) start (first :: rest)
  { state with
    frameId := state.frameId + 1
    forceFull := false
    incoming := state.incoming ++ chunks
    stream := state.stream ++ chunks
    lastStart := start }

/-- The queue after `enqueue_frame` has looked at `full`. -/
def discardFor (state : OutputState) (chunk : Chunk) : List OutputJob × Nat :=
  if chunk.full then (state.jobs.filter OutputJob.isControl, 0)
  else (state.jobs, state.bytes)

/-- Whether `enqueue_frame` returns false. -/
def overflows (state : OutputState) (chunk : Chunk) : Bool :=
  decide (outputQueueBytes < (state.discardFor chunk).2 + chunk.length)

/-- `enqueue_frame`, and the `RenderResync` of the reader where it returns
false. -/
def enqueueFrame (state : OutputState) (chunk : Chunk) : OutputState :=
  if state.overflows chunk then
    { state with
      jobs := []
      bytes := 0
      resyncs := state.resyncs + 1
      log := .overflowed :: state.log
      broken := true }
  else
    { state with
      jobs := (state.discardFor chunk).1 ++ [.frame chunk]
      bytes := (state.discardFor chunk).2 + chunk.length
      broken := state.broken && !chunk.full }

/-- `enqueue_control` -/
def enqueueControl (state : OutputState) (length : Nat) : OutputState :=
  { state with
    jobs := state.jobs ++ [.control length]
    bytes := state.bytes + length }

/-- What the writer does after its bytes were written, and whether it can
still send. -/
def finishJob
    (state : OutputState)
    (job : OutputJob)
    (connected : Bool) : OutputState :=
  match job with
  | .control _ => { state with hand := none }
  | .frame chunk =>
      { state with
        hand := none
        log := .wrote chunk :: state.log
        acknowledged :=
          if chunk.last && connected then chunk :: state.acknowledged
          else state.acknowledged
        writerGone := chunk.last && !connected }

end OutputState

inductive OutputEvent where
  /-- The session sends a frame. -/
  | send (full : Bool) (first : Nat) (rest : List Nat)
  /-- The session receives a `RenderResync`. -/
  | resync
  /-- The client receives a chunk. -/
  | receive
  | control (length : Nat)
  /-- The writer takes a job. -/
  | take
  /-- The writer has written its job. -/
  | written (connected : Bool)
  /-- The writer could not write its job. -/
  | writeFails
deriving DecidableEq

/-- One event; nothing where it cannot happen. -/
def outputStep
    (state : OutputState) :
    OutputEvent → Option OutputState
  | .send full first rest =>
      if state.forceFull && !full then none
      else some (state.sendFrame full first rest)
  | .resync =>
      if state.resyncs = 0 then none
      else
        some { state with
          resyncs := state.resyncs - 1
          forceFull := true }
  | .receive =>
      match state.incoming with
      | [] => none
      | chunk :: rest =>
          some ({ state with incoming := rest }.enqueueFrame chunk)
  | .control length => some (state.enqueueControl length)
  | .take =>
      match state.jobs with
      | [] => none
      | job :: rest =>
          if state.writerGone || state.hand.isSome then none
          else
            some { state with
              jobs := rest
              bytes := state.bytes - job.length
              hand := some job }
  | .written connected =>
      state.hand.map fun job => state.finishJob job connected
  | .writeFails =>
      state.hand.map fun _ =>
        { state with
          hand := none
          writerGone := true }

def outputMachine :
    Machine OutputState OutputEvent where
  initial state := state = .start
  step before event after := outputStep before event = some after

end Rendering
end Vvmux
