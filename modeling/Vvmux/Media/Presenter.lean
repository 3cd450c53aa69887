import Vvmux.Library.Machine
import Vvmux.Media.Control
import Vvmux.Media.Ingest
import Vvmux.Media.Projection

/-!
# The virtual presenter

One thread serves each connection, a worker waits for each media-order
barrier, a timer runs for each registered wait, and the session calls in from
its own thread.  They share one state under one lock; a step is what one of
them does while it holds the lock.
-/

namespace Vvmux
namespace Media

open Library

variable (protocol : Protocol)

/-! ## Connections -/

/-- `HELLO`, as far as it is read. -/
structure Hello where
  request : Nat
  /-- Whether its authentication kind is supported. -/
  authenticates : Bool
  token : Except String Nat
  offersVersion : Bool
  /-- What feature negotiation gives, if no required feature is missing. -/
  features : Option (List Feature)

/-- `accept_loop` enters a connection, unless there are too many. -/
def acceptConnection (state : State) : Option (State × Nat) :=
  if maxConnections ≤ state.connections then none
  else
    let connection := max ((state.nextConnection + 1) % 2 ^ 64) 1
    some
      ({ state with
          connections := state.connections + 1
          nextConnection := connection
          connectionCancellers :=
            state.connectionCancellers.insert connection none },
        connection)

/-- `accept_loop` forgets a connection that is over. -/
def forgetConnection (state : State) (connection : Nat) : State :=
  { state with
    connections := state.connections - 1
    connectionCancellers := state.connectionCancellers.erase connection }

/-- `authenticate_pane` -/
def authenticatePane (state : State) (token : Nat) : Option PaneId :=
  (state.capabilities.filter fun _ capability =>
    capability == token).keys.getLast?

/-- `mark_connection_pane` -/
def markConnectionPane
    (state : State)
    (connection : Nat)
    (pane : PaneId) : State × Except String Unit :=
  if pane ∉ state.capabilities then
    (state, .error "pane capability was revoked during authentication")
  else if connection ∉ state.connectionCancellers then
    (state, .error "Vivid connection was revoked during authentication")
  else
    ({ state with
        connectionCancellers :=
          state.connectionCancellers.modify connection fun _ => some pane },
      .ok ())

/-- The entry of a producer that was just admitted. -/
def newProducer
    (pane : PaneId)
    (tag anchorKey : Nat)
    (features : List Feature) : Producer where
  pane := pane
  tag := tag
  anchorKey := anchorKey
  connected := true
  features := features
  anchors := .empty
  seenAnchors := []
  sceneRevision := 0
  observationMask := []
  observationSequence := 0
  firstLostSourceSequence := none
  firstLostSceneSequence := none
  waits := .empty
  emissions := []

/-- Enter a producer. -/
def State.enterProducer
    (state : State)
    (producerId : ProducerId)
    (producer : Producer) : State :=
  { state with
    producers := state.producers.insert producerId producer
    admitted := state.admitted.insert producerId producer.pane }

/-- The last lock of `handle_control` before `WELCOME`: a producer is admitted
to a pane whose metrics are known. -/
def admitProducer
    (state : State)
    (pane : PaneId)
    (tag token : Nat)
    (features : List Feature)
    (spawns : Bool) : State × Except String ProducerId :=
  match (state.metrics.find? pane).filter Display.usable with
  | none =>
      (state, .error
        "vvmux pane has no display metrics yet; attach a vvmux client")
  | some _ =>
      if maxProducers ≤ state.producers.size then
        (state, .error "producer quota exceeded")
      else
        match checkedAdd u64Max state.nextProducer 1 with
        | none => (state, .error "producer IDs exhausted")
        | some producerId =>
            let numbered := { state with nextProducer := producerId }
            if !spawns then (numbered, .error "thread could not be started")
            else
              (numbered.enterProducer producerId
                (newProducer pane tag (protocol.deriveKey token tag) features),
                .ok producerId)

/-- `(producer_id << 32) | 1` -/
def rootContext (producerId : ProducerId) : Nat :=
  producerId * 2 ^ 32 % 2 ^ 64 + 1

/-! ## Threads -/

/-- What the thread of a connection does next. -/
inductive Phase where
  /-- Read `HELLO` and authenticate the pane. -/
  | greeting
  | authenticated (pane : PaneId) (token : Nat) (hello : Hello)
  | marked (pane : PaneId) (token : Nat) (hello : Hello)
  | welcoming (producer : ProducerId)
  | reading (producer : ProducerId)
  | busy (producer : ProducerId) (task : Task)
  /-- Answer a record that `dispatch_control` refused. -/
  | refusing (producer : ProducerId)
  | leaving (producer : ProducerId)
  /-- Read `ATTACH_CHANNEL` of a media channel. -/
  | opening (kind : ConnectionKind)
  | ticketed (token : Nat) (ticket : Ticket) (pane : PaneId)
  | attached (ticket : Ticket) (pane : PaneId)
  | receiving (ticket : Ticket)
  | validated (ticket : Ticket) (record : MediaRecord)
  | sending (ticket : Ticket) (event : MediaEvent)
  | recovering (ticket : Ticket)
  | closing (ticket : Ticket)
  | finished

structure Thread where
  connection : Nat
  phase : Phase

/-- The worker of a media-order barrier. -/
inductive WorkerPhase where
  | waiting
  | accepted
  | answering (reply : Reply)

structure Worker where
  barrier : BarrierWorker
  phase : WorkerPhase

/-- The shared state, and where each thread stands. -/
structure Presenter where
  shared : State
  threads : OrderedMap Nat Thread
  workers : List Worker
  timers : List (ProducerId × Nat)

/-- What a step does while it holds the lock. -/
inductive PresenterEvent where
  | issueCapability (pane : PaneId) (token : Nat)
  | revoke (pane : PaneId)
  | updateMetrics (pane : PaneId) (columns rows cellWidth cellHeight : Nat)
  | observeMarker (pane : PaneId) (marker : Marker) (line : Int)
    (column : Nat)
  | scrollAnchors (pane : PaneId) (lines : Int)
  | clearAnchors (pane : PaneId)
  | snapshot (panes : List PaneId) (viewportOffset : PaneId → Nat)
  | deactivateBridge
  | completeDelivery (delivery : Nat) (delivered : Bool)
  | requestKeyframes
    (requests : List (SourceKey × Option Nat × KeyframeReason))
  | requestFullFrames (sources : List SourceKey) (reason : FullFrameReason)
  | outerPlayback (key : SourceKey) (playback : OuterPlayback)
  | capabilitiesChanged
  | accept (thread : Nat) (channel : Option ConnectionKind)
  | hello (thread : Nat) (hello : Hello)
  | markControl (thread : Nat)
  | admission (thread tag : Nat) (spawns : Bool)
  | welcome (thread : Nat) (writable : Bool)
  | receiveControl (thread : Nat) (record : ControlRecord)
  | hangUp (thread : Nat)
  | run (thread : Nat) (circumstance : Circumstance) (writable : Bool)
  | refuse (thread : Nat) (writable : Bool)
  | leave (thread : Nat)
  | presentTicket (thread token : Nat)
  | attach (thread : Nat)
  | markChannel (thread : Nat)
  | receiveMedia (thread object : Nat) (record : MediaRecord)
  | endChannel (thread : Nat)
  | ingest (thread now : Nat) (writable : Bool)
  | send (thread : Nat) (taken : Bool)
  | recover (thread : Nat)
  | close (thread : Nat)
  | forget (thread : Nat)
  | look (worker : Nat)
  | expireBarrier (worker : Nat)
  | applyBarrier (worker : Nat)
  | answer (worker : Nat)
  | expireWait (producer : ProducerId) (request : Nat)
  | loseWriter (producer : ProducerId)

namespace Presenter

/-- The thread's phase changes. -/
def move (presenter : Presenter) (thread : Nat) (phase : Phase) : Presenter :=
  { presenter with
    threads := presenter.threads.modify thread fun thread =>
      { thread with phase := phase } }

/-- The shared state changes. -/
def withShared (presenter : Presenter) (state : State) : Presenter :=
  { presenter with shared := state }

/-- Where a thread is. -/
def phase? (presenter : Presenter) (thread : Nat) : Option Phase :=
  (presenter.threads.find? thread).map Thread.phase

/-- Whether a thread can be started under a number. -/
def fresh (presenter : Presenter) (thread : Nat) : Bool :=
  decide (thread ∉ presenter.threads)

/-- A control thread goes on after one lock. -/
def proceed
    (presenter : Presenter)
    (thread : Nat)
    (producer : ProducerId) :
    Progress → Presenter
  | .done (.ok true) => presenter.move thread (.reading producer)
  | .done (.ok false) => presenter.move thread (.leaving producer)
  | .done (.error _) => presenter.move thread (.refusing producer)
  | .next task => presenter.move thread (.busy producer task)
  | .timer request =>
      { presenter.move thread (.reading producer) with
        timers := (producer, request) :: presenter.timers }
  | .worker barrier =>
      { presenter.move thread (.reading producer) with
        workers := presenter.workers ++ [⟨barrier, .waiting⟩] }

/-- What the producer is told of a delta that was rejected. -/
def rejectionReplies
    (state : State)
    (ticket : Ticket)
    (reason : FullFrameReason)
    (notify : Bool)
    (credit : DeliveryCredit) : State :=
  if credit.writer then
    let refused := state.write ticket.source.producer
      (.error ticket.source.object 0 .badState
        "raster delta requires a new full frame")
    writeDeliveryCredit
      (if notify then
        refused.write ticket.source.producer
          (.needFullFrame ticket.source.object reason)
      else refused)
      credit
  else state

/-- A media thread goes on after a record was ingested.  A credit or an error
that cannot be written ends it. -/
def settleIngest
    (presenter : Presenter)
    (thread : Nat)
    (ticket : Ticket)
    (writable : Bool) :
    Except String Ingested → Presenter
  | .error _ => presenter.move thread (.closing ticket)
  | .ok (.rejected reason notify credit) =>
      if writable then
        (presenter.withShared
          (rejectionReplies presenter.shared ticket reason notify
            credit)).move thread (.receiving ticket)
      else presenter.move thread .finished
  | .ok (.accepted (some event) _) =>
      presenter.move thread (.sending ticket event)
  | .ok (.accepted none requestKeyframe) =>
      if !writable then presenter.move thread (.closing ticket)
      else if requestKeyframe then presenter.move thread (.recovering ticket)
      else presenter.move thread (.receiving ticket)

/-- Rewrite the worker at a position. -/
def moveWorker
    (presenter : Presenter)
    (worker : Nat)
    (phase : WorkerPhase) : Presenter :=
  { presenter with
    workers := presenter.workers.modify worker fun worker =>
      { worker with phase := phase } }

/-- The answer to an `EOS` whose barrier was not reached. -/
def barrierFailure
    (barrier : BarrierWorker) :
    MediaBarrierWait → Reply
  | .timedOut =>
      .error barrier.source.object barrier.request .timeout
        "EOS media-order barrier timed out"
  | _ =>
      .error barrier.source.object barrier.request .badState
        "media attachment ended before EOS barrier"

end Presenter

/-- The calls of the session. -/
def sessionStep
    (state : State) :
    PresenterEvent → Option State
  | .issueCapability pane token => some (issuePaneCapability state pane token)
  | .revoke pane => some (revokePane protocol state pane)
  | .updateMetrics pane columns rows cellWidth cellHeight =>
      some (updateMetrics state pane columns rows cellWidth cellHeight)
  | .observeMarker pane marker line column =>
      some (observeMarker protocol state pane marker line column)
  | .scrollAnchors pane lines => some (scrollAnchors protocol state pane lines)
  | .clearAnchors pane => some (clearAnchors protocol state pane)
  | .snapshot panes viewportOffset =>
      some (projectionSnapshot protocol state panes viewportOffset)
  | .deactivateBridge => some (deactivateBridge state)
  | .completeDelivery delivery delivered =>
      some (completeBridgeDelivery protocol state delivery delivered).1
  | .requestKeyframes requests =>
      some (requests.foldl
        (fun state (key, minimum, reason) =>
          requestKeyframe protocol state key minimum reason) state)
  | .requestFullFrames sources reason =>
      some (sources.foldl
        (fun state key => requestFullFrame protocol state key reason) state)
  | .outerPlayback key playback =>
      some (applyOuterPlayback protocol state key playback)
  | .capabilitiesChanged => some (notifyCapabilitiesChanged state)
  | .loseWriter producer =>
      some (state.updateProducer producer fun producer =>
        { producer with connected := false })
  | _ => none

/-- The steps of control connections. -/
def controlStep
    (presenter : Presenter) :
    PresenterEvent → Option Presenter
  | .hello thread hello =>
      match presenter.phase? thread, hello.token with
      | some .greeting, .ok token =>
          if !hello.authenticates then
            some (presenter.move thread .finished)
          else
            match authenticatePane presenter.shared token with
            | none => some (presenter.move thread .finished)
            | some pane =>
                some (presenter.move thread (.authenticated pane token hello))
      | some .greeting, .error _ => some (presenter.move thread .finished)
      | _, _ => none
  | .markControl thread =>
      match presenter.threads.find? thread with
      | some ⟨connection, .authenticated pane token hello⟩ =>
          let marked := markConnectionPane presenter.shared connection pane
          match marked.2 with
          | .error _ => some (presenter.move thread .finished)
          | .ok _ =>
              let shared := presenter.withShared marked.1
              if hello.offersVersion && hello.features.isSome then
                some (shared.move thread (.marked pane token hello))
              else some (shared.move thread .finished)
      | _ => none
  | .admission thread tag spawns =>
      match presenter.phase? thread with
      | some (.marked pane token hello) =>
          let admitted := admitProducer protocol presenter.shared pane tag
            token (hello.features.getD []) spawns
          let shared := presenter.withShared admitted.1
          match admitted.2 with
          | .error _ => some (shared.move thread .finished)
          | .ok producer => some (shared.move thread (.welcoming producer))
      | _ => none
  | .welcome thread writable =>
      match presenter.phase? thread with
      | some (.welcoming producer) =>
          -- A connection that breaks here leaves its producer behind.
          some (presenter.move thread
            (if writable then .reading producer else .finished))
      | _ => none
  | .receiveControl thread record =>
      match presenter.phase? thread with
      | some (.reading producer) =>
          match requirements record with
          | .error _ => some (presenter.move thread (.refusing producer))
          | .ok features =>
              some (presenter.move thread
                (.busy producer (.check features record)))
      | _ => none
  | .hangUp thread =>
      match presenter.phase? thread with
      | some (.reading producer) =>
          some (presenter.move thread (.leaving producer))
      | _ => none
  | .run thread circumstance writable =>
      match presenter.phase? thread with
      | some (.busy producer task) =>
          let session : Session := ⟨producer, rootContext producer, writable⟩
          let result :=
            runTask protocol session presenter.shared circumstance task
          some ((presenter.withShared result.1).proceed thread producer
            result.2)
      | _ => none
  | .refuse thread writable =>
      match presenter.phase? thread with
      | some (.refusing producer) =>
          some (presenter.move thread
            (if writable then .reading producer else .finished))
      | _ => none
  | .leave thread =>
      match presenter.phase? thread with
      | some (.leaving producer) =>
          some ((presenter.withShared
            (cleanupProducer protocol presenter.shared producer true)).move
              thread .finished)
      | _ => none
  | _ => none

/-- The steps of media channels. -/
def channelStep
    (presenter : Presenter) :
    PresenterEvent → Option Presenter
  | .presentTicket thread token =>
      match presenter.phase? thread with
      | some (.opening kind) =>
          let taken := takeTicket presenter.shared token
          let shared := presenter.withShared taken.1
          match taken.2 with
          | .error _ => some (shared.move thread .finished)
          | .ok (ticket, pane) =>
              if ticket.kind ≠ kind then some (shared.move thread .finished)
              else some (shared.move thread (.ticketed token ticket pane))
      | _ => none
  | .attach thread =>
      match presenter.phase? thread with
      | some (.ticketed token ticket pane) =>
          let attached := attachChannel protocol presenter.shared token ticket
          let shared := presenter.withShared attached.1
          match attached.2 with
          | .error _ => some (shared.move thread .finished)
          | .ok _ => some (shared.move thread (.attached ticket pane))
      | _ => none
  | .markChannel thread =>
      match presenter.threads.find? thread with
      | some ⟨connection, .attached ticket pane⟩ =>
          let marked := markConnectionPane presenter.shared connection pane
          match marked.2 with
          | .error _ => some (presenter.move thread .finished)
          | .ok _ =>
              some ((presenter.withShared marked.1).move thread
                (.receiving ticket))
      | _ => none
  | .receiveMedia thread object record =>
      match presenter.phase? thread with
      | some (.receiving ticket) =>
          if object ≠ ticket.source.object then
            some (presenter.move thread (.closing ticket))
          else
            match validateEncodedImage presenter.shared ticket.source
                record with
            | .error _ => some (presenter.move thread (.closing ticket))
            | .ok _ => some (presenter.move thread (.validated ticket record))
      | _ => none
  | .endChannel thread =>
      match presenter.phase? thread with
      | some (.receiving ticket) =>
          some (presenter.move thread (.closing ticket))
      | _ => none
  | .ingest thread now writable =>
      match presenter.phase? thread with
      | some (.validated ticket record) =>
          let result := ingestRecord protocol presenter.shared ticket.source
            record now
          some ((presenter.withShared result.1).settleIngest thread ticket
            writable result.2)
      | _ => none
  | .send thread taken =>
      match presenter.phase? thread with
      | some (.sending ticket event) =>
          if taken then some (presenter.move thread (.receiving ticket))
          else
            let dropped := dropQueued presenter.shared ticket.source
              event.deliveryId
            some ((presenter.withShared dropped.1).move thread
              (if dropped.2 then .recovering ticket else .receiving ticket))
      | _ => none
  | .recover thread =>
      match presenter.phase? thread with
      | some (.recovering ticket) =>
          some ((presenter.withShared
            (requestKeyframe protocol presenter.shared ticket.source none
              .transportLoss)).move thread (.receiving ticket))
      | _ => none
  | .close thread =>
      match presenter.phase? thread with
      | some (.closing ticket) =>
          some ((presenter.withShared
            (closeChannel protocol presenter.shared ticket.source)).move thread
              .finished)
      | _ => none
  | _ => none

/-- The steps of the listener, of barrier workers and of timers. -/
def serviceStep
    (presenter : Presenter) :
    PresenterEvent → Option Presenter
  | .accept thread channel =>
      if !presenter.fresh thread then none
      else
        match acceptConnection presenter.shared with
        | none => some presenter
        | some (state, connection) =>
            some
              { presenter with
                shared := state
                threads := presenter.threads.insert thread
                  ⟨connection, channel.elim .greeting .opening⟩ }
  | .forget thread =>
      match presenter.threads.find? thread with
      | some ⟨connection, .finished⟩ =>
          some
            { presenter with
              shared := forgetConnection presenter.shared connection
              threads := presenter.threads.erase thread }
      | _ => none
  | .look worker =>
      match presenter.workers[worker]? with
      | some ⟨barrier, .waiting⟩ =>
          match checkMediaBarrier presenter.shared barrier.source
              barrier.barrier.attachmentGeneration
              barrier.barrier.finalRecordSequence with
          | none => some presenter
          | some .accepted => some (presenter.moveWorker worker .accepted)
          | some failure =>
              some (presenter.moveWorker worker
                (.answering (Presenter.barrierFailure barrier failure)))
      | _ => none
  | .expireBarrier worker =>
      match presenter.workers[worker]? with
      | some ⟨barrier, .waiting⟩ =>
          some (presenter.moveWorker worker
            (.answering (Presenter.barrierFailure barrier .timedOut)))
      | _ => none
  | .applyBarrier worker =>
      match presenter.workers[worker]? with
      | some ⟨barrier, .accepted⟩ =>
          let applied := applyInnerEos protocol presenter.shared
            barrier.source barrier.epoch barrier.causation
          let reply := match applied.2 with
            | .ok _ => .ok barrier.source.object barrier.request
            | .error _ =>
                .error barrier.source.object barrier.request .badState
                  "source ended before EOS was applied"
          some ((presenter.withShared applied.1).moveWorker worker
            (.answering reply))
      | _ => none
  | .answer worker =>
      match presenter.workers[worker]? with
      | some ⟨barrier, .answering reply⟩ =>
          let withdrawn := { presenter.shared with
            pendingMediaBarriers := presenter.shared.pendingMediaBarriers.erase
              ⟨barrier.source.producer, barrier.request⟩ }
          some
            { presenter with
              shared := withdrawn.write barrier.source.producer reply
              workers := presenter.workers.eraseIdx worker }
      | _ => none
  | .expireWait producer request =>
      if (producer, request) ∈ presenter.timers then
        let wait := (presenter.shared.producers.find? producer).bind
          fun runtime => runtime.waits.find? request
        let removed := presenter.shared.updateProducer producer fun runtime =>
          { runtime with waits := runtime.waits.erase request }
        some
          { presenter with
            shared := match wait with
              | none => removed
              | some wait =>
                  removed.write producer
                    (.error wait.sourceId request .timeout
                      "source wait timed out")
            timers := presenter.timers.erase (producer, request) }
      else none
  | _ => none

/-- One step of the presenter. -/
def presenterStep
    (presenter : Presenter)
    (event : PresenterEvent) : Option Presenter :=
  ((sessionStep protocol presenter.shared event).map presenter.withShared)
    |>.or (controlStep protocol presenter event)
    |>.or (channelStep protocol presenter event)
    |>.or (serviceStep protocol presenter event)

/-- A presenter that has just started. -/
def Presenter.start (config : Config) (events : Bool) : Presenter where
  shared := .start config events
  threads := .empty
  workers := []
  timers := []

/-- The virtual presenter with its configuration. -/
def presenterMachine (config : Config) : Machine Presenter PresenterEvent where
  initial presenter := ∃ events, presenter = .start config events
  step before event after := presenterStep protocol before event = some after

end Media
end Vvmux
