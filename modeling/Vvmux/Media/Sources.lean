import Vvmux.Media.Credit
import Vvmux.Media.Scene

/-!
# Life of a source

A source is created together with the ticket for its media channel, attached
by a channel that presents the ticket, played, paused, flushed and ended by
control records, and closed with its channel.
-/

namespace Vvmux
namespace Media

open Library

variable (protocol : Protocol)

/-- `maximum_body` -/
def SourceDescriptor.maximumBody :
    SourceDescriptor → Except String UInt32
  | .raster config => protocol.rasterFrameBodyLen config.width config.height
  | .image config => .ok config.encodedLength
  | .video config => protocol.videoBodyLen config.maxAccessUnitBytes
  | .audio config => protocol.audioBodyLen config.maxAccessUnitBytes

/-- The source was created for raster deltas. -/
def deltaUpdates (update : Option RasterUpdateConfig) : Bool :=
  update.any fun update => update.mode == .fullFrameAndDelta

/-- The largest body a source may receive. -/
def sourceMaximum
    (descriptor : SourceDescriptor)
    (update : Option RasterUpdateConfig) : Except String UInt32 :=
  match descriptor.maximumBody protocol with
  | .error text => .error text
  | .ok maximum =>
      if deltaUpdates update then .ok protocol.hardMaxRecordBody
      else .ok maximum

/-- `SourceCreation`, with the descriptor it is for. -/
structure SourceCreation where
  request : Nat
  object : Nat
  descriptor : SourceDescriptor
  causationId : Option Nat
  capturePolicy : Nat
  semanticDescriptor : Option SemanticDescriptor
  rasterUpdate : Option RasterUpdateConfig
deriving DecidableEq

/-- The checks of `create_source` that need no lock. -/
def SourceCreation.validate
    (creation : SourceCreation) : Except String UInt32 :=
  match protocol.validateCapturePolicy creation.capturePolicy with
  | .error text => .error text
  | .ok _ =>
      match creation.semanticDescriptor.elim (.ok ())
          protocol.validateSourceDescriptor with
      | .error text => .error text
      | .ok _ =>
          if creation.descriptor.sourceId = 0 ∨
              creation.object ≠ creation.descriptor.sourceId then
            .error "source object ID mismatch"
          else
            sourceMaximum protocol creation.descriptor creation.rasterUpdate

/-- The entry of a source that was just created. -/
def SourceCreation.source
    (creation : SourceCreation)
    (producerId : ProducerId)
    (maximum : UInt32)
    (serial now : Nat) : Source where
  serial := serial
  owner := producerId
  descriptor := creation.descriptor
  retained := none
  eosEpoch := none
  sequence := []
  retainedBytes := 0
  playing := false
  playRequest := { sourceId := creation.descriptor.sourceId, startPtsUs := 0 }
  ended := false
  bridgeDesynchronized := false
  minimumEpoch := 0
  pendingKeyframeReason := none
  lastPtsUs := none
  clockStarted := none
  clockOriginPtsUs := none
  lastInnerRecordSequence := 0
  revision := 1
  attachmentState := .never
  attachmentGeneration := 0
  creditWindowBytes := maximum.toNat
  creditWindowPackets := rollingPacketCredits
  outstandingByteCredit := maximum.toNat
  outstandingPacketCredit := initialPacketCredits
  chargedBytes := 0
  chargedPackets := 0
  lastMediaId := 0
  milestones := []
  causationId := creation.causationId
  capturePolicy := creation.capturePolicy
  semanticDescriptor := creation.semanticDescriptor
  rasterUpdate := creation.rasterUpdate
  rasterRequiresFullReason := none
  rasterDamageWindowStarted := now
  rasterDamagePixels := 0
  flushEpoch := 0
  attachedWith := []

/-- Enter a source and its ticket. -/
def State.enterSource
    (state : State)
    (key : SourceKey)
    (source : Source)
    (token : Nat)
    (ticket : Ticket) : State :=
  { state with
    sources := state.sources.insert key source
    tickets := state.tickets.insert token ticket
    created := state.created + 1 }

/-- `create_source` up to the unlock: the source is entered, and its ticket is
ready to be sent. -/
def createSource
    (state : State)
    (producerId : ProducerId)
    (creation : SourceCreation)
    (token now : Nat) : State × Except String Reply :=
  match creation.validate protocol with
  | .error text => (state, .error text)
  | .ok maximum =>
      let key : SourceKey := ⟨producerId, creation.descriptor.sourceId⟩
      if state.config.maxSources ≤ state.sources.size then
        (state, .error "source quota exceeded")
      else if state.config.aggregateRetainedBytes < maximum.toNat then
        (state, .error "source cannot receive one maximum legal record")
      else if key ∈ state.sources then
        (state, .error "source ID already exists")
      else
        let entered := state.enterSource key
          (creation.source producerId maximum state.created now) token
          { source := key
            kind := creation.descriptor.kind
            maximumBody := maximum.toNat
            serial := state.created }
        let shown := entered.events &&
          (entered.producers.find? producerId).any fun runtime =>
            entered.activePanes.contains runtime.pane
        let projected :=
          if shown then
            { entered with projectedSources := key :: entered.projectedSources }
          else entered
        (advanceProjection projected,
          .ok (.sourceReady creation.request key.object maximum.toNat
            initialPacketCredits
            (if deltaUpdates creation.rasterUpdate then
              creation.rasterUpdate.map RasterUpdateConfig.operationLimit
            else none)))

/-- The event behind `SOURCE_READY`. -/
def announceSource
    (state : State)
    (key : SourceKey) : State × Except String Unit :=
  emitSourceEvent protocol state key [.lifecycle, .attachment, .descriptor]

/-! ## Media channels -/

/-- `handle_media` presents a ticket: it is used up, and its producer's pane
is returned. -/
def takeTicket
    (state : State)
    (token : Nat) : State × Except String (Ticket × PaneId) :=
  match state.tickets.find? token with
  | none => (state, .error "media ticket missing or already used")
  | some ticket =>
      let taken := { state with tickets := state.tickets.erase token }
      match taken.producers.find? ticket.source.producer with
      | none => (taken, .error "media ticket producer no longer exists")
      | some producer => (taken, .ok (ticket, producer.pane))

/-- `handle_media` attaches its channel to the source of the ticket. -/
def attachChannel
    (state : State)
    (token : Nat)
    (ticket : Ticket) : State × Except String Unit :=
  match state.sources.find? ticket.source with
  | none => (state, .error "source missing")
  | some source =>
      match checkedAdd u64Max source.attachmentGeneration 1 with
      | none => (state, .error "attachment generation exhausted")
      | some generation =>
          let attached := state.updateSource ticket.source fun source =>
            { source with
              attachmentGeneration := generation
              attachmentState := .attached
              milestones := .mediaAttached :: source.milestones
              attachedWith := token :: source.attachedWith }
          let told := advanceSource protocol attached ticket.source
            [.attachment, .milestones]
          (told.1, told.2.map fun _ => ())

/-- `handle_media` closes its channel. -/
def closeChannel (state : State) (key : SourceKey) : State :=
  if key ∈ state.sources then
    (advanceSource protocol
      (state.updateSource key fun source =>
        { source with attachmentState := .closed }) key [.attachment]).1
  else state

/-! ## Control of a source -/

/-- `tightened_capture_policy` -/
def tightenedCapturePolicy
    (current requested : Nat) : Except String (Option Nat) :=
  match protocol.validateCapturePolicy requested with
  | .error text => .error text
  | .ok _ =>
      if requested &&& current ≠ current then
        .error "capture policy cannot be relaxed"
      else .ok (if requested = current then none else some requested)

/-- A source as `PLAY`, `PAUSE` or `DRAIN` leaves it; the clock of a source
that goes on playing as before is kept. -/
def Source.controlled
    (source : Source)
    (play : Option PlayRequest)
    (changed : Bool)
    (causation : Option Nat)
    (now : Nat) : Source :=
  let marked :=
    { source with
      playing := play.isSome
      causationId := causation }
  match play with
  | none =>
      { marked with
        clockStarted := none
        clockOriginPtsUs := none }
  | some request =>
      if changed || source.clockStarted.isNone then
        { marked with
          playRequest := request
          clockStarted := some now
          clockOriginPtsUs := some request.startPtsUs }
      else { marked with playRequest := request }

section

variable (state : State) (key : SourceKey)

/-- The main part of `PLAY`, `PAUSE` and `DRAIN`. -/
def setPlayback
    (play : Option PlayRequest)
    (causation : Option Nat)
    (now : Nat) : State × Except String Unit :=
  match state.sources.find? key with
  | none => (state, .error "source missing")
  | some source =>
      if !source.descriptor.isTimed then
        (state, .error "playback controls require a timed source")
      else
        let changed := source.playing != play.isSome ||
          play.any fun request => request != source.playRequest
        let controlled := state.updateSource key fun source =>
          source.controlled play changed causation now
        if changed then
          let marked :=
            if play.isSome && !controlled.events then
              controlled.updateSource key fun source =>
                { source with
                  milestones := .playbackStarted :: source.milestones }
            else controlled
          let told := advanceSource protocol marked key
            [.playback, .milestones]
          match told.2 with
          | .error text => (told.1, .error text)
          | .ok _ => (advanceProjection told.1, .ok ())
        else (controlled, .ok ())

/-- A source as `FLUSH` leaves it. -/
def Source.flushed
    (source : Source)
    (epoch : Nat)
    (causation : Option Nat) : Source :=
  { source with
    sequence := []
    minimumEpoch := epoch
    ended := false
    eosEpoch := none
    bridgeDesynchronized := true
    lastMediaId := 0
    lastPtsUs := none
    milestones := source.milestones.filter (· == .mediaAttached)
    causationId := causation
    flushEpoch := epoch }

/-- The main part of `FLUSH`. -/
def flushSource
    (epoch : Nat)
    (causation : Option Nat) : State × Except String Unit :=
  if key ∈ state.sources then
    let told := advanceSource protocol
      (state.updateSource key fun source => source.flushed epoch causation)
      key [.epoch, .milestones]
    (told.1, told.2.map fun _ => ())
  else (state, .error "source missing")

/-- A source as its `EOS` leaves it. -/
def Source.finished
    (source : Source)
    (epoch : Nat)
    (causation : Option Nat) : Source :=
  let ended :=
    { source with
      ended := true
      eosEpoch := some epoch
      causationId := causation
      milestones := .eosAccepted :: source.milestones }
  if source.descriptor.isStatic then ended
  else { ended with retained := none, retainedBytes := 0 }

/-- `apply_inner_eos` -/
def applyInnerEos
    (epoch : Nat)
    (causation : Option Nat) : State × Except String Unit :=
  if key ∈ state.sources then
    let told := advanceSource protocol
      (state.updateSource key fun source => source.finished epoch causation)
      key [.lifecycle, .playback, .milestones]
    match told.2 with
    | .error text => (told.1, .error text)
    | .ok _ => (advanceProjection told.1, .ok ())
  else (state, .error "source missing")

/-- `MediaBarrierWait` -/
inductive MediaBarrierWait where
  | accepted
  | attachmentChanged
  | attachmentClosed
  | sourceLost
  | timedOut
deriving DecidableEq

/-- One look of `wait_for_media_barrier` at its source: `none` is to wait
on. -/
def checkMediaBarrier
    (attachmentGeneration finalRecordSequence : Nat) :
    Option MediaBarrierWait :=
  match state.sources.find? key with
  | none => some .sourceLost
  | some current =>
      if current.attachmentGeneration ≠ attachmentGeneration then
        some .attachmentChanged
      else if finalRecordSequence ≤ current.lastInnerRecordSequence then
        some .accepted
      else if current.attachmentState = .closed then some .attachmentClosed
      else none

end

end Media
end Vvmux
