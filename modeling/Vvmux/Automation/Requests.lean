import Mathlib.Data.Finset.Card
import Vvmux.Automation.Waiters

/-!
# Automation requests of many clients

`handle_automation` and what answers a request later: waiters that are
checked, panes that exit, and workers that wait for a PTY write.  A response
goes through a bounded queue to the threads that write it; a client for whom
there is no room is disconnected.  The fields marked as history are not in the
source, and no function reads them.
-/

namespace Vvmux

open Library

namespace Automation

open Layout (PaneId Axis)
open Session (AutomationError SplitReply)

def maxAutomationRequestsPerClient : Nat := 64
def maxAutomationWaiters : Nat := 256
def maxPendingActorWork : Nat := 256
def automationResponseQueue : Nat := 8
def exitTombstoneLimit : Nat := 128

/-- A response on its way to a client. -/
structure AutomationResponseJob where
  target : ReplyTarget
  response : AutomationResponse

/-- The parts of `SessionActor` that requests and answers touch, with the
clients and threads around it. -/
structure AutomationActor where
  panes : OrderedMap PaneId Pane
  exitTombstones : List (PaneId × Option PtyExitStatus)
  automationInflight : OrderedMap Nat (Finset Nat)
  pendingActorWork : Finset (Nat × Nat)
  automationWaiters : List Waiter
  /-- The response queue, the oldest job first. -/
  responses : List AutomationResponseJob
  /-- The threads that wait for the completion of a PTY write. -/
  workers : List ReplyTarget
  /-- `NEXT_CLIENT_ID` -/
  nextClient : Nat
  /-- The clients whose connection thread has not ended. -/
  connected : Finset Nat
  /-- The clients whose connection was cancelled. -/
  cancelled : Finset Nat
  /-- History: the client and the ID of every request, in the order in which
  they arrived. -/
  arrivals : List (Nat × Nat)
  /-- History: the responses that were queued. -/
  answered : List AutomationResponseJob
  /-- History: the requests whose response found no room. -/
  dropped : List ReplyTarget
  /-- History: the requests whose waiter went with its client. -/
  discarded : List ReplyTarget

namespace AutomationActor

/-- An actor whose session has no panes yet. -/
def start :
    AutomationActor where
  panes := .empty
  exitTombstones := []
  automationInflight := .empty
  pendingActorWork := ∅
  automationWaiters := []
  responses := []
  workers := []
  nextClient := 0
  connected := ∅
  cancelled := ∅
  arrivals := []
  answered := []
  dropped := []
  discarded := []

/-! ## Replies -/

/-- The IDs of a client's requests that have no reply yet. -/
def inflight (actor : AutomationActor) (clientId : Nat) : Finset Nat :=
  (actor.automationInflight.find? clientId).getD ∅

section

variable (actor : AutomationActor) (target : ReplyTarget)

/-- `send_automation_response` -/
def sendAutomationResponse
    (result : AutomationResult) : AutomationActor :=
  let job :=
    { target := target
      response := { id := target.requestId, result := result } }
  if actor.responses.length < automationResponseQueue then
    { actor with
      responses := actor.responses ++ [job]
      answered := job :: actor.answered }
  else
    { actor with
      cancelled := insert target.clientId actor.cancelled
      dropped := target :: actor.dropped }

/-- `finish_automation_request` -/
def finishAutomationRequest
    (actor : AutomationActor)
    (clientId requestId : Nat) : AutomationActor :=
  match actor.automationInflight.find? clientId with
  | none => actor
  | some requests =>
      let requests := requests.erase requestId
      if requests = ∅ then
        { actor with
          automationInflight := actor.automationInflight.erase clientId }
      else
        { actor with
          automationInflight :=
            actor.automationInflight.insert clientId requests }

/-- `reply_automation` and `reply_automation_error` -/
def replyAutomation
    (result : AutomationResult) : AutomationActor :=
  (actor.finishAutomationRequest target.clientId
    target.requestId).sendAutomationResponse target result

/-! ## Waiters -/

/-- The reply of a waiter whose deadline has passed. -/
def expiredResult (outside : Outside) (waiter : Waiter) : AutomationResult :=
  match waiter.kind with
  | .mediaTrace afterSequence limit filter =>
      .ok (.mediaTrace
        (outside.mediaTrace afterSequence limit waiter.paneId filter))
  | _ =>
      .error
        { code := "timeout"
          message := "automation wait timed out" }

/-- One turn of the loop of `check_automation_waiters`. -/
def checkWaiter
    (outside : Outside)
    (now : Nat)
    (actor : AutomationActor)
    (waiter : Waiter) : AutomationActor :=
  if waiter.deadline ≤ now then
    actor.replyAutomation waiter.reply (expiredResult outside waiter)
  else
    match waiterResult outside now actor.panes actor.exitTombstones waiter with
    | some result => actor.replyAutomation waiter.reply result
    | none =>
        { actor with automationWaiters := actor.automationWaiters ++ [waiter] }

/-- `check_automation_waiters` -/
def checkAutomationWaiters
    (actor : AutomationActor)
    (outside : Outside)
    (now : Nat) : AutomationActor :=
  actor.automationWaiters.foldl (checkWaiter outside now)
    { actor with automationWaiters := [] }

/-- `add_automation_waiter` -/
def addAutomationWaiter
    (actor : AutomationActor)
    (outside : Outside)
    (now : Nat)
    (waiter : Waiter) : AutomationActor :=
  if maxAutomationWaiters ≤ actor.automationWaiters.length then
    actor.replyAutomation waiter.reply (.error
      { code := "limit_exceeded"
        message := "too many automation waiters" })
  else
    { actor with
      automationWaiters := actor.automationWaiters ++ [waiter]
    }.checkAutomationWaiters outside now

/-- One turn of the loop of `complete_exit_waiters`. -/
def completeExitWaiter
    (paneId : PaneId)
    (status : Option PtyExitStatus)
    (actor : AutomationActor)
    (waiter : Waiter) : AutomationActor :=
  if waiter.paneId = some paneId ∧ waiter.kind = .exit then
    actor.replyAutomation waiter.reply (.ok (.exit paneId status))
  else
    { actor with automationWaiters := actor.automationWaiters ++ [waiter] }

/-- `complete_exit_waiters` -/
def completeExitWaiters
    (actor : AutomationActor)
    (paneId : PaneId)
    (status : Option PtyExitStatus) : AutomationActor :=
  actor.automationWaiters.foldl (completeExitWaiter paneId status)
    { actor with automationWaiters := [] }

/-! ## Input -/

/-- `register_pending_actor_work`; nothing if it is refused. -/
def registerPendingActorWork : Option AutomationActor :=
  let key := (target.clientId, target.requestId)
  if maxPendingActorWork ≤ actor.pendingActorWork.card then none
  else if key ∈ actor.pendingActorWork then none
  else
    some { actor with pendingActorWork := insert key actor.pendingActorWork }

/-- `complete_pending_actor_work` -/
def completePendingActorWork : AutomationActor :=
  { actor with
    pendingActorWork :=
      actor.pendingActorWork.erase (target.clientId, target.requestId) }

end

/-- What keeps the bytes from a pane's PTY queue. -/
def queueInput
    (actor : AutomationActor)
    (outside : Outside)
    (paneId : PaneId) : Except String Unit :=
  if paneId ∈ actor.panes then outside.queueInput
  else .error "pane no longer exists"

section

variable (actor : AutomationActor) (outside : Outside)

/-- `automation_input` -/
def automationInput
    (target : ReplyTarget)
    (paneId : PaneId)
    (length : Nat) : AutomationActor :=
  if 1024 * 1024 < length then
    actor.replyAutomation target (.error
      { code := "limit_exceeded"
        message := "PTY input exceeds 1 MiB" })
  else
    match actor.registerPendingActorWork target with
    | none =>
        actor.replyAutomation target (.error
          { code := "limit_exceeded"
            message := "session pending-work quota is exhausted" })
    | some registered =>
        match registered.queueInput outside paneId with
        | .error failure =>
            (registered.completePendingActorWork target).replyAutomation target
              (.error
                { code := "pty_closed"
                  message := failure })
        | .ok _ =>
            match outside.spawnWorker with
            | .error failure =>
                (registered.completePendingActorWork target).replyAutomation
                  target (.error
                    { code := "unsupported"
                      message := failure })
            | .ok _ =>
                { registered with workers := registered.workers ++ [target] }

/-- The `AutomationInputComplete` event of a worker that has gone. -/
def automationInputComplete
    (actor : AutomationActor)
    (target : ReplyTarget)
    (result : Except String Unit) : AutomationActor :=
  (actor.completePendingActorWork target).replyAutomation target
    (match result with
    | .ok _ => .ok .null
    | .error message =>
        .error
          { code := "pty_closed"
            message := message })

/-! ## Methods -/

/-- What a method makes of a request: its reply, or a waiter, or bytes for a
PTY. -/
inductive Outcome where
  | reply (result : AutomationResult)
  | wait (paneId : Option PaneId) (timeoutMs : Nat) (kind : WaitKind)
  | input (paneId : PaneId) (length : Nat)

def paneNotFound :
    AutomationError where
  code := "pane_not_found"
  message := "pane no longer exists"

/-- `resolve_automation_pane` -/
def resolveAutomationPane
    (requested : Option PaneId)
    (allowFocused : Bool) : Except AutomationError PaneId :=
  match requested with
  | some pane =>
      if pane ∈ actor.panes then .ok pane
      else
        .error
          { code := "pane_not_found"
            message := s!"pane {pane} does not exist" }
  | none =>
      if allowFocused then
        match outside.focused.filter fun pane => pane ∈ actor.panes with
        | some pane => .ok pane
        | none =>
            .error
              { code := "no_focused_pane"
                message := "no focused vvmux pane" }
      else
        .error
          { code := "invalid_params"
            message := "this command requires a pane ID" }

/-- Whether a request waits for the exit of a pane that has left its status. -/
def waitsForTombstone
    (actor : AutomationActor)
    (request : AutomationRequest) : Bool :=
  match request.method with
  | .waitExit _ =>
      request.paneId.any fun pane =>
        actor.exitTombstones.any fun exit => exit.1 == pane
  | _ => false

/-- The pane that a request is about. -/
def targetPane
    (request : AutomationRequest) : Except AutomationError (Option PaneId) :=
  if request.method.needsPane then
    if actor.waitsForTombstone request then .ok request.paneId
    else
      (actor.resolveAutomationPane outside request.paneId
        request.allowFocused).map some
  else .ok none

/-- `close_pane` -/
def closePane
    (paneId : PaneId) : AutomationActor :=
  { actor with panes := outside.relayout (actor.panes.erase paneId) }

/-- A screen sequence that the pane has not reached yet. -/
def sequenceGap (message : String) : Outcome :=
  .reply (.error
    { code := "sequence_gap"
      message := message })

/-- `{after_screen:?}` -/
def debugSequence :
    Option Nat → String
  | none => "None"
  | some sequence => s!"Some({sequence})"

/-- The `WaitText` arm of `handle_automation`. -/
def waitText
    (outside : Outside)
    (paneId : PaneId)
    (pane : Pane)
    (text : String)
    (regex : Bool)
    (afterScreen : Option Nat)
    (timeoutMs : Nat) : Outcome :=
  let current := pane.screenSequence
  if afterScreen.any fun sequence => current < sequence then
    let requested := debugSequence afterScreen
    sequenceGap s!"screen sequence is {current}, before requested {requested}"
  else if regex then
    if 8 * 1024 < text.utf8ByteSize then
      .reply (.error
        { code := "limit_exceeded"
          message := "regular expression exceeds 8 KiB" })
    else
      match outside.compile text with
      | .error failure =>
          .reply (.error
            { code := "regex_invalid"
              message := failure })
      | .ok _ =>
          .wait (some paneId) timeoutMs (.text (.regex text) afterScreen)
  else .wait (some paneId) timeoutMs (.text (.literal text) afterScreen)

def sequenceTooNew : String :=
  "after-screen is newer than the pane screen sequence"

/-- The methods that look at a pane without changing anything. -/
def paneOutcome
    (outside : Outside)
    (paneId : PaneId)
    (pane : Pane) :
    AutomationMethod → Outcome
  | .inspect =>
      if outside.describes paneId then
        .reply (.ok (.inspect outside.sessionSequence
          (outside.attached.getD 0) paneId))
      else .reply (.error paneNotFound)
  | .inspectMedia =>
      .reply (.ok (.mediaStatus (outside.mediaStatus paneId)))
  | .traceMedia afterSequence limit timeoutMs filter =>
      let batch := outside.mediaTrace afterSequence limit (some paneId) filter
      if timeoutMs = 0 ∨ batch.gap.isSome ∨ !batch.events.isEmpty then
        .reply (.ok (.mediaTrace batch))
      else .wait (some paneId) timeoutMs (.mediaTrace afterSequence limit filter)
  | .typing text => .input paneId text.utf8ByteSize
  | .key key modifiers repeats =>
      match outside.encodeKey key modifiers pane.terminal.modes with
      | .error refused => .reply (.error refused)
      | .ok encoded =>
          if 1024 * 1024 < min (encoded.length * repeats) u64Max then
            .reply (.error
              { code := "limit_exceeded"
                message := "encoded key input exceeds 1 MiB" })
          else .input paneId (encoded.length * repeats)
  | .paste text =>
      let bytes := (outside.sanitizePaste text).length
      .input paneId
        (if pane.terminal.modes.bracketedPaste then bytes + 12 else bytes)
  | .getText rows =>
      let text :=
        match rows with
        | some rows => pane.terminal.latestText rows
        | none => pane.visibleText
      if automationReplyLimit < (String.ofList text).utf8ByteSize then
        .reply (.error
          { code := "limit_exceeded"
            message := "pane text exceeds the 16 MiB reply limit" })
      else .reply (.ok (.text text))
  | .getGrid startLine rowCount sinceScreen =>
      .reply ((pane.gridSnapshot paneId outside.sessionSequence startLine
        rowCount sinceScreen).map .grid)
  | .waitText text regex afterScreen timeoutMs =>
      waitText outside paneId pane text regex afterScreen timeoutMs
  | .waitScreenChange afterScreen timeoutMs =>
      if afterScreen.any fun sequence => pane.screenSequence < sequence then
        sequenceGap sequenceTooNew
      else
        .wait (some paneId) timeoutMs
          (.screenChange (afterScreen.getD pane.screenSequence))
  | .waitScreenStable quietMs afterScreen timeoutMs =>
      if afterScreen.any fun sequence => pane.screenSequence < sequence then
        sequenceGap sequenceTooNew
      else .wait (some paneId) timeoutMs (.screenStable quietMs afterScreen)
  | .waitMedia afterVirtualRevision afterOuterRevision timeoutMs =>
      .wait (some paneId) timeoutMs
        (.media afterVirtualRevision afterOuterRevision)
  | _ => .reply (.error paneNotFound)

/-- The arms of `handle_automation`.  Nothing where the source aborts: a
method that needs a pane without one, or with one that does not exist. -/
def runMethod
    (paneId : Option PaneId) :
    AutomationMethod → Option (AutomationActor × Outcome)
  | .capabilities => some (actor, .reply (.ok .capabilities))
  | .listPanes =>
      some (actor, .reply (.ok (.panes outside.sessionSequence
        (outside.attached.getD 0)
        (actor.panes.keys.filter outside.describes))))
  | .waitRendered afterSession timeoutMs =>
      if outside.attached.isNone then
        some (actor, .reply (.error
          { code := "unsupported"
            message := "session has no attached client" }))
      else some (actor, .wait none timeoutMs (.rendered afterSession))
  | .waitExit timeoutMs => some (actor, .wait paneId timeoutMs .exit)
  | .split _ =>
      paneId.map fun _ =>
        match outside.split with
        | .error refused => (actor, .reply (.error refused))
        | .ok (reply, scrollbackLines) =>
            ({ actor with
              panes := outside.relayout (actor.panes.insert reply.newPaneId
                (.spawned scrollbackLines 0)) },
              .reply (.ok (.split reply)))
  | .focus =>
      paneId.map fun _ =>
        match outside.focus with
        | .error refused => (actor, .reply (.error refused))
        | .ok _ =>
            ({ actor with panes := outside.relayout actor.panes },
              .reply (.ok .null))
  | .closePane =>
      paneId.map fun paneId =>
        (actor.closePane outside paneId, .reply (.ok .null))
  | method =>
      paneId.bind fun paneId =>
        (actor.panes.find? paneId).map fun pane =>
          (actor, paneOutcome outside paneId pane method)

/-- `deadline` -/
def deadline (now timeoutMs : Nat) : Nat :=
  now + min (max timeoutMs 1) maxTimeoutMs

/-- Carry out what a method makes of a request. -/
def settle
    (now : Nat)
    (target : ReplyTarget) :
    Outcome → AutomationActor
  | .reply result => actor.replyAutomation target result
  | .wait paneId timeoutMs kind =>
      actor.addAutomationWaiter outside now
        { reply := target
          paneId := paneId
          deadline := deadline now timeoutMs
          kind := kind }
  | .input paneId length => actor.automationInput outside target paneId length

/-- `handle_automation` of a request that is admitted. -/
def runRequest
    (now : Nat)
    (target : ReplyTarget)
    (request : AutomationRequest) : Option AutomationActor :=
  match validateAutomationMethod request.method with
  | .error refused => some (actor.replyAutomation target (.error refused))
  | .ok _ =>
      match actor.targetPane outside request with
      | .error refused => some (actor.replyAutomation target (.error refused))
      | .ok paneId =>
          (actor.runMethod outside paneId request.method).map fun done =>
            done.1.settle outside now target done.2

/-- `handle_automation`; nothing where the source aborts. -/
def handleAutomation
    (now clientId : Nat)
    (request : AutomationRequest) : Option AutomationActor :=
  let target :=
    { clientId := clientId
      requestId := request.id
      request := actor.arrivals.length }
  let requests := actor.inflight clientId
  let arrived :=
    { actor with
      arrivals := actor.arrivals ++ [(clientId, request.id)]
      automationInflight := actor.automationInflight.insert clientId requests }
  if request.id ∈ requests then
    some (arrived.sendAutomationResponse target (.error
      { code := "duplicate_request_id"
        message := "request ID is already in flight" }))
  else if maxAutomationRequestsPerClient ≤ requests.card then
    some (arrived.replyAutomation target (.error
      { code := "limit_exceeded"
        message := "too many in-flight requests" }))
  else
    { arrived with
      automationInflight := actor.automationInflight.insert clientId
        (insert request.id requests) }.runRequest outside now target request

end

/-! ## Events -/

/-- `Disconnected`, as far as requests go. -/
def disconnected (actor : AutomationActor) (clientId : Nat) : AutomationActor :=
  { actor with
    automationInflight := actor.automationInflight.erase clientId
    pendingActorWork :=
      actor.pendingActorWork.filter fun work => work.1 ≠ clientId
    automationWaiters := actor.automationWaiters.filter fun waiter =>
      waiter.reply.clientId ≠ clientId
    connected := actor.connected.erase clientId
    discarded := ((actor.automationWaiters.filter fun waiter =>
      waiter.reply.clientId = clientId).map Waiter.reply) ++ actor.discarded }

/-- `PtyExit` -/
def ptyExit
    (actor : AutomationActor)
    (outside : Outside)
    (paneId : PaneId)
    (status : Option PtyExitStatus) : AutomationActor :=
  let completed := actor.completeExitWaiters paneId status
  { completed with
    exitTombstones := keepLast exitTombstoneLimit
      (completed.exitTombstones ++ [(paneId, status)])
  }.closePane outside paneId

end AutomationActor

inductive AutomationEvent where
  /-- A connection thread starts. -/
  | connect
  | request (clientId : Nat) (request : AutomationRequest) (outside : Outside)
    (now : Nat)
  /-- A connection thread ends. -/
  | disconnected (clientId : Nat)
  /-- A worker has learnt how its PTY write went, and ends. -/
  | inputComplete (worker : Nat) (result : Except String Unit)
  | checkWaiters (outside : Outside) (now : Nat)
  | ptyExit (paneId : PaneId) (status : Option PtyExitStatus)
    (outside : Outside)
  /-- A pane is closed, by a user or because its input queue is broken. -/
  | closePane (paneId : PaneId) (outside : Outside)
  /-- A pane is opened by a user. -/
  | openPane (paneId : PaneId) (scrollbackLines now : Nat) (outside : Outside)
  /-- Something reaches the screen of a pane. -/
  | screen (paneId : PaneId) (event : PaneEvent)
  /-- A response thread takes a job. -/
  | respond

/-- One event of the actor or of a thread around it.  Nothing where it cannot
happen or the actor aborts. -/
def automationStep
    (unicode : Terminal.UnicodeWidth)
    (keys : String → Option String)
    (actor : AutomationActor) :
    AutomationEvent → Option AutomationActor
  | .connect =>
      some { actor with
        nextClient := actor.nextClient + 1
        connected := insert actor.nextClient actor.connected }
  | .request clientId request outside now =>
      if clientId ∈ actor.connected then
        actor.handleAutomation outside now clientId request
      else none
  | .disconnected clientId =>
      if clientId ∈ actor.connected then some (actor.disconnected clientId)
      else none
  | .inputComplete worker result =>
      actor.workers[worker]?.map fun target =>
        { actor with
          workers := actor.workers.eraseIdx worker
        }.automationInputComplete target result
  | .checkWaiters outside now => some (actor.checkAutomationWaiters outside now)
  | .ptyExit paneId status outside =>
      some (actor.ptyExit outside paneId status)
  | .closePane paneId outside => some (actor.closePane outside paneId)
  | .openPane paneId scrollbackLines now outside =>
      some { actor with
        panes := outside.relayout
          (actor.panes.insert paneId (.spawned scrollbackLines now)) }
  | .screen paneId event =>
      some { actor with
        panes := actor.panes.modify paneId fun pane =>
          paneStep unicode keys pane event }
  | .respond =>
      match actor.responses with
      | [] => none
      | _ :: rest => some { actor with responses := rest }

def automationMachine
    (unicode : Terminal.UnicodeWidth)
    (keys : String → Option String) :
    Machine AutomationActor AutomationEvent where
  initial actor := actor = .start
  step before event after :=
    automationStep unicode keys before event = some after

end Automation
end Vvmux
