import Mathlib.Data.List.Basic
import Vvmux.Library.Machine

/-!
# The input queue of a PTY

Any number of threads send input for a PTY.  A call reserves its bytes on a
shared counter, offers its message to a bounded channel, and gives the bytes
back if the channel refuses it.  One worker takes the messages off the channel
and writes them; it stops behind the first write that fails.  Each access to
the counter, the channel or the PTY is a step of its own, and the steps of the
calls and of the worker interleave freely.
-/

namespace Vvmux
namespace Pty

abbrev Bytes := List UInt8

def inputQueueItems : Nat := 64

def inputQueueBytes : Nat := 1024 * 1024

/-- The kinds of errors that a call is refused with. -/
inductive ErrorKind
  | invalidInput
  | wouldBlock
  | brokenPipe
  deriving DecidableEq

/-- A message of the channel, with the call that it belongs to. -/
structure InputMessage where
  call : Nat
  bytes : Bytes
  completion : Bool
  deriving DecidableEq

/-- How far a call of `send` or `send_with_completion` has come. -/
inductive Phase
  /-- The counter is read next. -/
  | loading
  /-- The counter is exchanged next, from the value that was read. -/
  | comparing (queued : Nat)
  /-- The bytes are reserved, and the message is offered next. -/
  | sending
  /-- The channel refused the message, and the bytes are given back next. -/
  | releasing (kind : ErrorKind)
  | returned (result : Except ErrorKind Unit)

/-- A call.  The two last fields are history: whether the worker had stopped
when the call was made, and how many messages had been accepted when the call
was, its own included. -/
structure Call where
  bytes : Bytes
  completion : Bool
  phase : Phase
  afterStop : Bool
  position : Nat

/-- The bytes that a call holds on the counter without a message in the
channel. -/
def Call.reserved (call : Call) : Nat :=
  match call.phase with
  | .sending => call.bytes.length
  | .releasing _ => call.bytes.length
  | _ => 0

/-- How far the worker has come. -/
inductive Worker
  | receiving
  | writing (message : InputMessage)
  /-- The bytes of a message are taken off the counter next. -/
  | settling (message : InputMessage) (result : Except String Unit)
  | completing (message : InputMessage) (result : Except String Unit)
  /-- A write failed, and the receiver is dropped next. -/
  | leaving
  | stopped

namespace Worker

/-- The message that the worker has taken and not written. -/
def unwritten : Worker → List InputMessage
  | writing message => [message]
  | _ => []

/-- The message that the worker has taken and not taken off the counter. -/
def unsettled : Worker → List InputMessage
  | writing message => [message]
  | settling message _ => [message]
  | _ => []

/-- A write has failed. -/
def failed : Worker → Bool
  | settling _ (.error _) => true
  | completing _ (.error _) => true
  | leaving => true
  | stopped => true
  | _ => false

def isStopped : Worker → Bool
  | stopped => true
  | _ => false

end Worker

/-- The queue and its calls.  `written` is what the PTY took; `flushed` counts
the bytes of it that were flushed, `accepted` lists the messages that the
channel took, `handled` the ones whose write is over, and `completions` what
the completions got, each with its call. -/
structure PtyInput where
  queuedBytes : Nat
  queue : List InputMessage
  worker : Worker
  calls : List Call
  written : Bytes
  flushed : Nat
  accepted : List InputMessage
  handled : List InputMessage
  completions : List (Nat × Except String Unit)

/-- The bytes of some messages. -/
def bytesOf (messages : List InputMessage) : Bytes :=
  messages.flatMap InputMessage.bytes

/-- What a thread, the worker or the PTY does next. -/
inductive Event
  | call (bytes : Bytes) (completion : Bool)
  | load (index : Nat)
  /-- A weak exchange may fail although the values agree. -/
  | exchange (index : Nat) (spurious : Bool)
  | trySend (index : Nat)
  | release (index : Nat)
  | receive
  /-- The PTY takes all bytes and is flushed, or some bytes and an error. -/
  | write (taken : Nat) (result : Except String Unit)
  | settle
  | complete
  | stop

namespace PtyInput

def start : PtyInput where
  queuedBytes := 0
  queue := []
  worker := .receiving
  calls := []
  written := []
  flushed := 0
  accepted := []
  handled := []
  completions := []

/-- A call goes on in another phase. -/
def moved
    (input : PtyInput)
    (index : Nat)
    (call : Call)
    (phase : Phase) : PtyInput :=
  { input with calls := input.calls.set index { call with phase := phase } }

/-- A call begins: nothing to send is a success, too much is refused. -/
def begin (input : PtyInput) (bytes : Bytes) (completion : Bool) : PtyInput :=
  let phase : Phase :=
    if bytes = [] then .returned (.ok ())
    else if inputQueueBytes < bytes.length then
      .returned (.error .invalidInput)
    else .loading
  { input with
    calls := input.calls ++
      [⟨bytes, completion, phase, input.worker.isStopped,
        input.accepted.length⟩]
    completions :=
      if completion && bytes.isEmpty then
        input.completions ++ [(input.calls.length, .ok ())]
      else input.completions }

/-- The counter is read: the call is refused if its bytes do not fit. -/
def loaded (input : PtyInput) (index : Nat) (call : Call) : PtyInput :=
  if inputQueueBytes < input.queuedBytes + call.bytes.length then
    input.moved index call (.returned (.error .wouldBlock))
  else input.moved index call (.comparing input.queuedBytes)

def exchanged
    (input : PtyInput)
    (index : Nat)
    (call : Call)
    (queued : Nat)
    (spurious : Bool) : PtyInput :=
  if input.queuedBytes = queued ∧ spurious = false then
    { input.moved index call .sending with
      queuedBytes := queued + call.bytes.length }
  else input.loaded index call

/-- The channel takes the message of a call. -/
def admitted (input : PtyInput) (index : Nat) (call : Call) : PtyInput :=
  let message : InputMessage := ⟨index, call.bytes, call.completion⟩
  { input with
    queue := input.queue ++ [message]
    accepted := input.accepted ++ [message]
    calls := input.calls.set index
      { call with
        phase := .returned (.ok ())
        position := input.accepted.length + 1 } }

/-- The channel takes the message, or it is full, or its receiver is gone. -/
def offered (input : PtyInput) (index : Nat) (call : Call) : PtyInput :=
  if input.worker.isStopped then
    input.moved index call (.releasing .brokenPipe)
  else if inputQueueItems ≤ input.queue.length then
    input.moved index call (.releasing .wouldBlock)
  else input.admitted index call

def released
    (input : PtyInput)
    (index : Nat)
    (call : Call)
    (kind : ErrorKind) : PtyInput :=
  { input.moved index call (.returned (.error kind)) with
    queuedBytes := input.queuedBytes - call.bytes.length }

def wrote
    (input : PtyInput)
    (message : InputMessage)
    (taken : Nat)
    (result : Except String Unit) : PtyInput :=
  let written :=
    match result with
    | .ok () => input.written ++ message.bytes
    | .error _ => input.written ++ message.bytes.take taken
  { input with
    worker := .settling message result
    written := written
    flushed :=
      match result with
      | .ok () => written.length
      | .error _ => input.flushed
    handled := input.handled ++ [message] }

def completed
    (input : PtyInput)
    (message : InputMessage)
    (result : Except String Unit) : PtyInput :=
  { input with
    worker :=
      match result with
      | .ok () => .receiving
      | .error _ => .leaving
    completions :=
      if message.completion then
        input.completions ++ [(message.call, result)]
      else input.completions }

/-- The step of a call in some phase. -/
def callStep
    (input : PtyInput)
    (index : Nat)
    (proceed : Call → Phase → Option PtyInput) : Option PtyInput :=
  input.calls[index]?.bind fun call => proceed call call.phase

def next
    (input : PtyInput) :
    Event → Option PtyInput
  | .call bytes completion => some (input.begin bytes completion)
  | .load index =>
      input.callStep index fun call phase =>
        match phase with
        | .loading => some (input.loaded index call)
        | _ => none
  | .exchange index spurious =>
      input.callStep index fun call phase =>
        match phase with
        | .comparing queued =>
            some (input.exchanged index call queued spurious)
        | _ => none
  | .trySend index =>
      input.callStep index fun call phase =>
        match phase with
        | .sending => some (input.offered index call)
        | _ => none
  | .release index =>
      input.callStep index fun call phase =>
        match phase with
        | .releasing kind => some (input.released index call kind)
        | _ => none
  | .receive =>
      match input.worker, input.queue with
      | .receiving, message :: rest =>
          some { input with worker := .writing message, queue := rest }
      | _, _ => none
  | .write taken result =>
      match input.worker with
      | .writing message => some (input.wrote message taken result)
      | _ => none
  | .settle =>
      match input.worker with
      | .settling message result =>
          some { input with
            worker := .completing message result
            queuedBytes := input.queuedBytes - message.bytes.length }
      | _ => none
  | .complete =>
      match input.worker with
      | .completing message result => some (input.completed message result)
      | _ => none
  | .stop =>
      match input.worker with
      | .leaving => some { input with worker := .stopped }
      | _ => none

/-- The queue, its calls and its worker as a machine. -/
def machine : Library.Machine PtyInput Event where
  initial input := input = start
  step input event after := input.next event = some after

/-! ## What a step is -/

/-- The steps of the worker by what they find. -/
inductive WorkerStep (input : PtyInput) : Event → PtyInput → Prop
  | receive {message : InputMessage} {rest : List InputMessage} :
      input.worker = .receiving →
      input.queue = message :: rest →
      WorkerStep input .receive
        { input with worker := .writing message, queue := rest }
  | write {message : InputMessage} {taken : Nat}
      {result : Except String Unit} :
      input.worker = .writing message →
      WorkerStep input (.write taken result)
        (input.wrote message taken result)
  | settle {message : InputMessage} {result : Except String Unit} :
      input.worker = .settling message result →
      WorkerStep input .settle
        { input with
          worker := .completing message result
          queuedBytes := input.queuedBytes - message.bytes.length }
  | complete {message : InputMessage} {result : Except String Unit} :
      input.worker = .completing message result →
      WorkerStep input .complete (input.completed message result)
  | stop :
      input.worker = .leaving →
      WorkerStep input .stop { input with worker := .stopped }

/-- The steps by what they find. -/
inductive Step (input : PtyInput) : Event → PtyInput → Prop
  | call (bytes : Bytes) (completion : Bool) :
      Step input (.call bytes completion) (input.begin bytes completion)
  | load {index : Nat} {call : Call} :
      input.calls[index]? = some call →
      call.phase = .loading →
      Step input (.load index) (input.loaded index call)
  | exchange {index queued : Nat} {spurious : Bool} {call : Call} :
      input.calls[index]? = some call →
      call.phase = .comparing queued →
      Step input (.exchange index spurious)
        (input.exchanged index call queued spurious)
  | trySend {index : Nat} {call : Call} :
      input.calls[index]? = some call →
      call.phase = .sending →
      Step input (.trySend index) (input.offered index call)
  | release {index : Nat} {kind : ErrorKind} {call : Call} :
      input.calls[index]? = some call →
      call.phase = .releasing kind →
      Step input (.release index) (input.released index call kind)
  | worker {event : Event} {after : PtyInput} :
      WorkerStep input event after →
      Step input event after

variable {input after : PtyInput}

theorem callStep_eq_some
    {index : Nat}
    {proceed : Call → Phase → Option PtyInput}
    (stepped : input.callStep index proceed = some after) :
    ∃ call, input.calls[index]? = some call ∧
      proceed call call.phase = some after :=
  Option.bind_eq_some_iff.mp stepped

/-- The inversion of a step. -/
theorem step_of_next
    {event : Event}
    (stepped : input.next event = some after) : Step input event after := by
  cases event with
  | call bytes completion =>
      cases stepped
      exact .call bytes completion
  | load index =>
      unfold next at stepped
      obtain ⟨call, found, proceeds⟩ := callStep_eq_some stepped
      split at proceeds
      next phase =>
        cases proceeds
        exact .load found phase
      · cases proceeds
  | exchange index spurious =>
      unfold next at stepped
      obtain ⟨call, found, proceeds⟩ := callStep_eq_some stepped
      split at proceeds
      next phase =>
        cases proceeds
        exact .exchange found phase
      · cases proceeds
  | trySend index =>
      unfold next at stepped
      obtain ⟨call, found, proceeds⟩ := callStep_eq_some stepped
      split at proceeds
      next phase =>
        cases proceeds
        exact .trySend found phase
      · cases proceeds
  | release index =>
      unfold next at stepped
      obtain ⟨call, found, proceeds⟩ := callStep_eq_some stepped
      split at proceeds
      next phase =>
        cases proceeds
        exact .release found phase
      · cases proceeds
  | receive =>
      simp only [next] at stepped
      split at stepped
      next receiving queued =>
        cases stepped
        exact .worker (.receive receiving queued)
      · cases stepped
  | write taken result =>
      simp only [next] at stepped
      split at stepped
      next message writing =>
        cases stepped
        exact .worker (.write writing)
      · cases stepped
  | settle =>
      simp only [next] at stepped
      split at stepped
      next message result settling =>
        cases stepped
        exact .worker (.settle settling)
      · cases stepped
  | complete =>
      simp only [next] at stepped
      split at stepped
      next message result completing =>
        cases stepped
        exact .worker (.complete completing)
      · cases stepped
  | stop =>
      simp only [next] at stepped
      split at stepped
      next leaving =>
        cases stepped
        exact .worker (.stop leaving)
      · cases stepped

end PtyInput

end Pty
end Vvmux
